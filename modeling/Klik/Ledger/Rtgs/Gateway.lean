import Klik.Common.Enums
import Klik.Lib.PyValue

/-!
# Data exchanged with an RTGS gateway

A gateway takes the requests of a session and returns one result for each,
or reports that the whole system is unavailable.  The texts of a result may
come straight out of a JSON document, so they are values of any type.
-/

namespace Klik.Ledger.Rtgs

open Klik.Common
open Klik.Lib

inductive TransferStatus where
  | success
  | failed
  | timeout
deriving DecidableEq, Repr

/-- One transfer to be sent to the RTGS system. -/
structure TransferRequest where
  transferId : Uuid
  fromBankCode : PyStr
  toBankCode : PyStr
  amount : Decimal
  currency : Currency
  fromBic : PyStr
  toBic : PyStr
  fromIban : PyStr
  toIban : PyStr
deriving DecidableEq, Repr

/-- Result of one transfer. -/
structure TransferResult where
  transferId : Uuid
  status : TransferStatus
  rtgsReference : PyValue
  failureReason : PyValue

/-- How a call of `RTGSDispatcher.dispatch` ends. -/
inductive DispatchOutcome where
  | returned (results : List TransferResult)
  /-- `RTGSUnavailableError`. -/
  | unavailable (systemName reason : PyStr)
  /-- Any other exception. -/
  | raised

/-- The contract of a dispatch: one result for each request. -/
def DispatchOutcome.AnswersEach
    (outcome : DispatchOutcome) (requests : List TransferRequest) : Prop :=
  match outcome with
  | .returned results =>
      (results.map TransferResult.transferId).Perm
        (requests.map TransferRequest.transferId)
  | .unavailable _ _ => True
  | .raised => False

end Klik.Ledger.Rtgs
