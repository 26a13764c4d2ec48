import Klik.Ledger.Rtgs.Gateways
import Klik.Lib.RememberedReplies
import Klik.Lib.TransitionSystem

/-!
# The mock of the RTGS systems

One service stands for the four systems.  It keeps its response to a transfer
under the key of the transfer, whichever system was asked, and repeats it; a
timeout which it injects is not kept.  The texts of keys and amounts are the
keys and the amounts, and the rates of the injected failures leave open which
requests they hit.
-/

namespace Klik.RtgsMock

open Klik.Common
open Klik.Ledger.Rtgs
open Klik.Lib

/-- The paths of the four systems. -/
inductive MockSystem where
  | sorbnet3
  | target2
  | chaps
  | fednow
deriving DecidableEq, Repr

/-- `VALID_SYSTEMS`: the name of a system and its currency. -/
def validSystems : MockSystem → PyStr × PyStr
  | .sorbnet3 => (py "SORBNET3", py "PLN")
  | .target2 => (py "TARGET2", py "EUR")
  | .chaps => (py "CHAPS", py "GBP")
  | .fednow => (py "FedNow", py "USD")

/-- `SettleRequest`. -/
structure SettleRequest where
  sessionId : Uuid
  transferId : Uuid
  system : PyStr
  fromBank : PyStr
  toBank : PyStr
  amount : Decimal
  currency : PyStr
deriving DecidableEq, Repr

/-- `SettleResponse`. -/
structure SettleResponse where
  transferId : Uuid
  status : PyStr
  rtgsReference : PyStr
  failureReason : PyStr
deriving DecidableEq, Repr

/-- How a request to settle a transfer is answered. -/
inductive SettleAnswer where
  | response (response : SettleResponse)
  | httpException (statusCode : Nat) (detail : PyStr)
deriving DecidableEq, Repr

/-- The variables `_idempotency_cache` and `_blacklist`. -/
structure MockRtgs where
  idempotencyCache : InsertionDict Uuid SettleResponse
  blacklist : List PyStr

/-- What is drawn for a request: whether a timeout and whether a failure is
injected, and the `uuid4` of the reference. -/
structure SettleDraws where
  timesOut : Bool
  fails : Bool
  drawn : Nat

/-! ## Settling a transfer -/

/-- The response to a transfer which fails. -/
def failedResponse (transferId : Uuid) (reason : PyStr) : SettleResponse where
  transferId := transferId
  status := py "FAILED"
  rtgsReference := []
  failureReason := reason

/-- The response to a transfer which is new and does not time out. -/
def decideTransfer
    (systemName : PyStr) (payload : SettleRequest) (draws : SettleDraws)
    (blacklist : List PyStr) : SettleResponse :=
  if blacklist.contains payload.fromBank then
    failedResponse payload.transferId
      (py "Bank " ++ payload.fromBank ++ py " jest niewypłacalny w " ++ systemName)
  else if blacklist.contains payload.toBank then
    failedResponse payload.transferId
      (py "Bank " ++ payload.toBank ++ py " nie przyjmuje transferów w " ++ systemName)
  else if draws.fails then
    failedResponse payload.transferId (systemName ++ py ": random failure (injected)")
  else
    { transferId := payload.transferId
      status := py "SUCCESS"
      rtgsReference :=
        systemName ++ py "-" ++ asciiUpper ((hexDigits 32 draws.drawn).take 12)
      failureReason := [] }

/-- A transfer which was carried out, under its reference. -/
structure Execution where
  system : MockSystem
  request : SettleRequest
  reference : PyStr
deriving DecidableEq, Repr

/-- The response says that the transfer was carried out. -/
def SettleResponse.succeeded (response : SettleResponse) : Bool :=
  response.status = py "SUCCESS"

/-- What a request leaves: its answer, the variables after it, and the transfers
which the mock carried out for it. -/
structure SettleEffect where
  answer : SettleAnswer
  mock : MockRtgs
  executed : List Execution

/-- `settle`: a transfer is carried out where its success is decided, and not
where it is repeated. -/
def settle
    (system : MockSystem) (payload : SettleRequest) (draws : SettleDraws)
    (mock : MockRtgs) : SettleEffect :=
  let systemName := (validSystems system).1
  let expectedCurrency := (validSystems system).2
  if payload.currency ≠ expectedCurrency then
    ⟨.httpException 422
      (systemName ++ py " obsługuje tylko " ++ expectedCurrency ++ py ", otrzymano "
        ++ payload.currency), mock, []⟩
  else
    match mock.idempotencyCache.get? payload.transferId with
    | some cached => ⟨.response cached, mock, []⟩
    | none =>
        if draws.timesOut then
          ⟨.httpException 504 (py "Gateway Timeout (injected)"), mock, []⟩
        else
          let response := decideTransfer systemName payload draws mock.blacklist
          { answer := .response response
            mock :=
              { mock with
                idempotencyCache := mock.idempotencyCache.set payload.transferId response }
            executed :=
              if response.succeeded then [⟨system, payload, response.rtgsReference⟩]
              else [] }

/-- `add_to_blacklist`. -/
def addToBlacklist (banks : List PyStr) (mock : MockRtgs) : MockRtgs :=
  { mock with blacklist := mock.blacklist ∪ banks }

/-- `clear_blacklist`. -/
def clearBlacklist (mock : MockRtgs) : MockRtgs :=
  { mock with blacklist := [] }

/-- `reset_idempotency_cache`. -/
def resetIdempotencyCache (mock : MockRtgs) : MockRtgs :=
  { mock with idempotencyCache := [] }

/-! ## What a request can do -/

section One

variable {system : MockSystem} {payload : SettleRequest} {draws : SettleDraws}
variable {mock : MockRtgs}

/-- Everything a request can do. -/
inductive SettleCase
    (system : MockSystem) (payload : SettleRequest) (draws : SettleDraws) (mock : MockRtgs) :
    SettleEffect → Prop where
  | refused (statusCode : Nat) (detail : PyStr) (failing : 400 ≤ statusCode)
      (worded : detail ≠ []) :
      SettleCase system payload draws mock ⟨.httpException statusCode detail, mock, []⟩
  | repeated (cached : SettleResponse)
      (known : mock.idempotencyCache.get? payload.transferId = some cached) :
      SettleCase system payload draws mock ⟨.response cached, mock, []⟩
  | decided (response : SettleResponse)
      (new : mock.idempotencyCache.get? payload.transferId = none)
      (response_eq : response =
        decideTransfer (validSystems system).1 payload draws mock.blacklist) :
      SettleCase system payload draws mock
        { answer := .response response
          mock :=
            { mock with
              idempotencyCache := mock.idempotencyCache.set payload.transferId response }
          executed :=
            if response.succeeded then [⟨system, payload, response.rtgsReference⟩]
            else [] }

theorem settle_case (system : MockSystem) (payload : SettleRequest) (draws : SettleDraws)
    (mock : MockRtgs) :
    SettleCase system payload draws mock (settle system payload draws mock) := by
  simp only [settle]
  split
  · refine .refused 422 _ (by decide) ?_
    cases system <;> exact List.cons_ne_nil _ _
  · split
    · rename_i cached known
      exact .repeated cached known
    · rename_i new
      split
      · exact .refused 504 _ (by decide) (List.cons_ne_nil _ _)
      · exact .decided _ new rfl

/-- A request carries out its own transfer only. -/
theorem request_of_executed
    {execution : Execution} (member : execution ∈ (settle system payload draws mock).executed) :
    execution.request = payload := by
  have case := settle_case system payload draws mock
  generalize settle system payload draws mock = effect at case member
  cases case with
  | refused | repeated => cases member
  | decided response new =>
      simp only at member
      split at member
      · rw [List.mem_singleton.mp member]
      · cases member

end One

end Klik.RtgsMock
