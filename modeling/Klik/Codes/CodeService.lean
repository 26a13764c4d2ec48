import Klik.Common.Enums
import Klik.Lib.ExpiringStore
import Klik.Lib.PyText
import Klik.Lib.TransitionSystem

/-!
# Codes in Redis

`CodeService.generate_code`, whose attempts are separate commands, and
`CodeService.mark_used`, which is one script.  A code record is the decoded
JSON object.
-/

namespace Klik.Codes

open Klik.Common
open Klik.Lib

inductive CodeStatus where
  | active
  | used
deriving DecidableEq, Repr

/-- The record of a code. -/
structure CodePayload where
  bankId : Uuid
  userId : PyStr
  zone : Zone
  status : CodeStatus
  createdAt : PyStr
deriving DecidableEq, Repr

inductive CodeError where
  | notFound
  | alreadyUsed
  | generationFailed
  /-- Redis refuses a command. -/
  | response
deriving DecidableEq, Repr

abbrev CodeStore := ExpiringStore PyStr CodePayload

/-- `_code_key`. -/
def codeKey (code : PyStr) : PyStr :=
  py "code:" ++ code

theorem codeKey_injective : Function.Injective codeKey := by
  intro left right same
  exact List.append_cancel_left same

instance drawnNumbers_neZero : NeZero 1000000 := ⟨by decide⟩

/-- `_generate_random_code`, for the number which was drawn. -/
def randomCode (drawn : Fin 1000000) : PyStr :=
  zeroPadded 6 drawn

/-! ## Generating a code -/

/-- `MAX_GENERATION_ATTEMPTS`. -/
def maxGenerationAttempts : Nat := 10

/-- The record which `generate_code` stores. -/
def newPayload (bankId : Uuid) (userId : PyStr) (zone : Zone) (createdAt : PyStr) :
    CodePayload where
  bankId := bankId
  userId := userId
  zone := zone
  status := .active
  createdAt := createdAt

/-- A call of `generate_code` under way, with the attempts it has made. -/
structure Generation where
  payload : CodePayload
  active : payload.status = .active
  attempts : Nat
deriving DecidableEq

/-- How an attempt of `generate_code` ends. -/
inductive GenerationResult where
  | generated (code : PyStr)
  | again (generation : Generation)
  | raised (error : CodeError)

/-- One attempt of `generate_code`.  Redis refuses a time to live which is not
positive. -/
def Generation.tryCode
    (ttlSeconds : Int) (now : Nat) (code : PyStr) (store : CodeStore)
    (generation : Generation) : GenerationResult × CodeStore :=
  if ttlSeconds ≤ 0 then (.raised .response, store)
  else
    match store.setNx now (codeKey code) generation.payload ttlSeconds.toNat with
    | (true, after) => (.generated code, after)
    | (false, after) =>
        if generation.attempts + 1 < maxGenerationAttempts then
          (.again { generation with attempts := generation.attempts + 1 }, after)
        else (.raised .generationFailed, after)

/-- Everything an attempt can do: it stores the record where no record can be
seen, or it stores nothing. -/
theorem Generation.tryCode_cases
    (ttlSeconds : Int) (now : Nat) (code : PyStr) (store : CodeStore)
    (generation : Generation) :
    (store.get now (codeKey code) = none ∧
        generation.tryCode ttlSeconds now code store =
          (.generated code, store.set (codeKey code) generation.payload
            (some (now + 1000 * ttlSeconds.toNat)))) ∨
      ((generation.tryCode ttlSeconds now code store).2 = store ∧
        ∀ made, (generation.tryCode ttlSeconds now code store).1 ≠ .generated made) := by
  simp only [Generation.tryCode]
  split
  · right
    constructor
    · rfl
    · intro made impossible
      cases impossible
  · rcases store.setNx_cases now (codeKey code) generation.payload ttlSeconds.toNat with
      ⟨unseen, stored⟩ | ⟨seen, kept⟩
    · left
      rw [stored]
      exact ⟨unseen, rfl⟩
    · right
      rw [kept]
      simp only
      constructor
      · split <;> rfl
      · intro made impossible
        split at impossible
        · cases impossible
        · cases impossible

/-! ## Using a code -/

/-- The record of a used code. -/
def CodePayload.used (payload : CodePayload) : CodePayload :=
  { payload with status := .used }

/-- What `MARK_USED_SCRIPT` returns. -/
inductive ScriptReply where
  | notFound
  | alreadyUsed
  | payload (payload : CodePayload)

/-- `MARK_USED_SCRIPT`.  A key in its last millisecond has no time left, and
is set without a time to live. -/
def markUsedScript (now : Nat) (key : PyStr) (store : CodeStore) :
    ScriptReply × CodeStore :=
  match store.get now key with
  | none => (.notFound, store)
  | some payload =>
      if payload.status ≠ .active then (.alreadyUsed, store)
      else
        let ttl := store.pttl now key
        if 0 < ttl then
          (.payload payload.used,
            store.set key payload.used (some (now + ttl.toNat)))
        else (.payload payload.used, store.set key payload.used none)

/-- `mark_used`. -/
def markUsed (now : Nat) (code : PyStr) (store : CodeStore) :
    Except CodeError CodePayload × CodeStore :=
  match markUsedScript now (codeKey code) store with
  | (.notFound, after) => (.error .notFound, after)
  | (.alreadyUsed, after) => (.error .alreadyUsed, after)
  | (.payload payload, after) => (.ok payload, after)

/-- What marking a code does where it succeeds. -/
structure Marks (now : Nat) (code : PyStr) (store : CodeStore)
    (payload : CodePayload) (after : CodeStore) : Prop where
  seen : store.get now (codeKey code) = some payload
  active : payload.status = .active
  stored : after.get now (codeKey code) = some payload.used
  kept : ∃ expiresAt, after (codeKey code) = some ⟨payload.used, expiresAt⟩
  others : ∀ key, key ≠ codeKey code → after key = store key

/-- `mark_used` marks an active code, or raises and changes nothing. -/
theorem markUsed_cases (now : Nat) (code : PyStr) (store : CodeStore) :
    (∃ payload after, markUsed now code store = (.ok payload.used, after) ∧
        Marks now code store payload after) ∨
      (∃ error, (error = .notFound ∨ error = .alreadyUsed) ∧
        markUsed now code store = (.error error, store) ∧
        ∀ payload, store.get now (codeKey code) = some payload →
          payload.status ≠ .active) := by
  -- whichever time the record is set with, it can be seen now
  have marks : ∀ payload expiresAt,
      store.get now (codeKey code) = some payload → payload.status = .active →
        Option.all (fun time => decide (now ≤ time)) expiresAt = true →
          Marks now code store payload
            (store.set (codeKey code) payload.used expiresAt) := by
    intro payload expiresAt seen active live
    constructor
    · exact seen
    · exact active
    · exact store.get_set now (codeKey code) payload.used live
    · exact ⟨expiresAt, store.set_same (codeKey code) payload.used expiresAt⟩
    · intro key different
      exact store.set_other payload.used expiresAt different
  simp only [markUsed, markUsedScript]
  cases seen : store.get now (codeKey code) with
  | none =>
      right
      refine ⟨.notFound, Or.inl rfl, rfl, ?_⟩
      intro payload impossible
      cases impossible
  | some payload =>
      simp only
      by_cases active : payload.status = .active
      · left
        rw [if_neg (not_not.mpr active)]
        by_cases timeLeft : 0 < store.pttl now (codeKey code)
        · rw [if_pos timeLeft]
          exact ⟨payload, _, rfl, marks payload _ seen active (by simp)⟩
        · rw [if_neg timeLeft]
          exact ⟨payload, _, rfl, marks payload none seen active rfl⟩
      · right
        rw [if_pos active]
        refine ⟨.alreadyUsed, Or.inr rfl, rfl, ?_⟩
        intro other same
        cases same
        exact active

end Klik.Codes
