import Klik.Aliases.AliasService
import Klik.Ledger.Recording
import Klik.Lib.ChangeHistory
import Klik.Lib.TransitionSystem

/-!
# Calls of the alias service side by side

Calls of `register`, `unregister` and `lookup_for_bank`, each cut where its
statements are.  The number is unique in the table, so that an insertion next
to another one fails; a row is deleted by its key, whatever has become of it
since it was read.  Keys are drawn at random and never drawn again.
-/

namespace Klik.Aliases

open Klik.Banks
open Klik.Common
open Klik.Ledger
open Klik.Lib

/-! ## Calls -/

inductive RegistryCall where
  | register (request : RegisterRequest)
  | unregister (bank : Bank) (phone : PyStr)
  | lookup (bank : Bank) (phone : PyStr)

/-- How a call ends. -/
inductive RegistryResult where
  | registered (row : Alias)
  | unregistered
  | found (row : Alias)
  | raised (error : AliasError)

/-- What the next statement of a call works on. -/
inductive RegistryStage where
  | started
  /-- `validate_unique` has found no row, and `validate_constraints` looks
  again. -/
  | constraining
  | inserting
  | deleting (row : Alias)
  | counting (row : Alias)
  | ended (result : RegistryResult)

/-- What a call changes. -/
inductive RegistryChange where
  | inserted (row : Alias)
  | deleted (row : Alias)
  /-- The counters of a bank are incremented. -/
  | counted (bankId : Uuid) (day : Date)

/-- The exception for the messages of a `ValidationError`. -/
def RegisterRequest.refusal (problems : List AliasProblem) (request : RegisterRequest) :
    AliasError :=
  if problems.any fun problem => problem.field = "zone" then
    .zoneMismatch (problems.filter fun problem => problem.field = "zone")
  else if problems.any fun problem => problem.field = "phone" then
    .alreadyRegistered request.phone
  else .validation problems

/-- The next statement of a call: its changes, and what comes after it. -/
def nextStatement
    (runtime : PyRuntime) (today : Date) (aliases : List Alias) :
    RegistryCall → RegistryStage → Option (List RegistryChange × RegistryStage)
  | .register request, .started =>
      let problems := request.row.fullClean runtime aliases
      if problems.any fun problem => problem.field = "phone" then
        some ([], .ended (.raised (request.refusal problems)))
      else some ([], .constraining)
  | .register request, .constraining =>
      let problems := request.row.fullClean runtime aliases
      if problems ≠ [] then some ([], .ended (.raised (request.refusal problems)))
      else some ([], .inserting)
  | .register request, .inserting =>
      if request.refused then some ([], .ended (.raised (.database .operational)))
      else if aliases.any fun old => old.phone = request.phone then
        some ([], .ended (.raised (.alreadyRegistered request.phone)))
      else some ([.inserted request.row], .ended (.registered request.row))
  | .unregister bank phone, .started =>
      match getAlias phone aliases with
      | none => some ([], .ended (.raised (.doesNotExist phone)))
      | some row =>
          if row.bank.id ≠ bank.id then some ([], .ended (.raised (.ownership phone bank.id)))
          else some ([], .deleting row)
  | .unregister _ _, .deleting row =>
      if aliases.any fun old => old.id = row.id then
        some ([.deleted row], .ended .unregistered)
      else some ([], .ended .unregistered)
  | .lookup _ phone, .started =>
      match getAlias phone aliases with
      | none => some ([], .ended (.raised (.doesNotExist phone)))
      | some row => some ([], .counting row)
  | .lookup bank _, .counting row =>
      some ([.counted bank.id today], .ended (.found row))
  | _, _ => none

/-! ## States -/

/-- A call, the moments of its start and of its last statement, and where it
is. -/
structure CallRecord where
  call : RegistryCall
  since : Nat
  last : Nat
  stage : RegistryStage

/-- The table after a change. -/
def applyChange (aliases : List Alias) : Nat × RegistryChange → List Alias
  | (_, .inserted row) => aliases ++ [row]
  | (_, .deleted row) => aliases.filter fun old => old.id ≠ row.id
  | (_, .counted _ _) => aliases

/-- The daily counters after a change. -/
def countDaily (daily : LookupCounters) : RegistryChange → LookupCounters
  | .counted bankId day => daily.increment bankId day
  | _ => daily

/-- The cumulative counters after a change. -/
def countTotal (total : Uuid → Nat) : RegistryChange → Uuid → Nat
  | .counted bankId _ => Function.update total bankId (total bankId + 1)
  | _ => total

/-- The table and the counters, all calls, and all changes with the call which
made them. -/
structure RegistryState where
  aliases : List Alias
  daily : LookupCounters
  total : Uuid → Nat
  calls : List CallRecord
  history : List (Nat × RegistryChange)

/-- The key which a call has drawn for its row. -/
def RegistryCall.drawn : RegistryCall → Option Uuid
  | .register request => some request.aliasId
  | _ => none

inductive RegistryAction where
  | start (call : RegistryCall)
  /-- The next statement of a call. -/
  | advance (call : Nat) (today : Date)

/-- The state after a statement of a call. -/
def RegistryState.advanced
    (call : Nat) (record : CallRecord) (changes : List RegistryChange)
    (stage : RegistryStage) (state : RegistryState) : RegistryState :=
  let made := changes.map fun change => (call, change)
  { aliases := made.foldl applyChange state.aliases
    daily := changes.foldl countDaily state.daily
    total := changes.foldl countTotal state.total
    calls := state.calls.set call
      { record with last := state.history.length + changes.length, stage := stage }
    history := state.history ++ made }

/-- One step, where it is possible. -/
def registryStep (runtime : PyRuntime) (state : RegistryState) :
    RegistryAction → Option RegistryState
  | .start call =>
      if state.calls.any fun record =>
          record.call.drawn.isSome && record.call.drawn = call.drawn then
        none
      else
        some { state with
          calls := state.calls ++
            [⟨call, state.history.length, state.history.length, .started⟩] }
  | .advance call today =>
      match state.calls[call]? with
      | none => none
      | some record =>
          (nextStatement runtime today state.aliases record.call record.stage).map
            fun next => state.advanced call record next.1 next.2

/-- A register without aliases. -/
structure RegistryState.IsStart (state : RegistryState) : Prop where
  aliases : state.aliases = []
  daily : ∀ bankId day, state.daily bankId day = 0
  total : ∀ bankId, state.total bankId = 0
  calls : state.calls = []
  history : state.history = []

def registrySystem (runtime : PyRuntime) : TransitionSystem RegistryState RegistryAction :=
  .ofStep RegistryState.IsStart (registryStep runtime)

/-! ## Calls alone -/

/-- The statements of a call which no other call disturbs. -/
def runCall (runtime : PyRuntime) (today : Date) (call : RegistryCall) :
    Nat → List Alias → RegistryStage → List Alias × RegistryStage
  | 0, aliases, stage => (aliases, stage)
  | turns + 1, aliases, stage =>
      match nextStatement runtime today aliases call stage with
      | none => (aliases, stage)
      | some (changes, next) =>
          runCall runtime today call turns
            ((changes.map fun change => (0, change)).foldl applyChange aliases) next

/-- A call of `register` alone does what the function does. -/
theorem runCall_register
    (runtime : PyRuntime) (today : Date) (request : RegisterRequest) (aliases : List Alias) :
    runCall runtime today (.register request) 3 aliases .started =
      match register runtime request aliases with
      | .ok after => (after, .ended (.registered request.row))
      | .error error => (aliases, .ended (.raised error)) := by
  by_cases clean : request.row.fullClean runtime aliases = []
  · have free := (Alias.clean_of_fullClean clean).free
    have untaken : (aliases.any fun old => old.phone = request.phone) = false := by
      rw [List.any_eq_false]
      intro old member
      exact ne_true_of_eq_false (decide_eq_false (free old member))
    simp only [runCall, nextStatement, register, clean, List.any_nil, Bool.false_eq_true,
      if_false, List.map_nil, List.foldl_nil, ne_eq, not_true_eq_false, untaken]
    cases request.refused <;> rfl
  · have refused : runCall runtime today (.register request) 3 aliases .started =
        (aliases, .ended (.raised
          (request.refusal (request.row.fullClean runtime aliases)))) := by
      simp only [runCall, nextStatement]
      split
      · rename_i nothing
        split at nothing <;> cases nothing
      · rename_i next
        split at next
        · cases next
          rfl
        · cases next
          simp only [List.map_nil, List.foldl_nil, ne_eq, clean, not_false_eq_true, if_true]
    have raises : register runtime request aliases =
        .error (request.refusal (request.row.fullClean runtime aliases)) := by
      simp only [register, RegisterRequest.refusal, ne_eq, clean, not_false_eq_true, if_true]
      split
      · rfl
      · split <;> rfl
    rw [refused, raises]

theorem runCall_unregister
    (runtime : PyRuntime) (today : Date) (bank : Bank) (phone : PyStr) (aliases : List Alias) :
    runCall runtime today (.unregister bank phone) 2 aliases .started =
      match unregister bank phone aliases with
      | .ok after => (after, .ended .unregistered)
      | .error error => (aliases, .ended (.raised error)) := by
  simp only [runCall, nextStatement, unregister]
  cases found : getAlias phone aliases with
  | none => rfl
  | some row =>
      by_cases own : row.bank.id = bank.id
      · have present : (aliases.any fun old => old.id = row.id) = true := by
          rw [List.any_eq_true]
          exact ⟨row, (mem_of_getAlias found).1, decide_eq_true rfl⟩
        simp [own, present, applyChange]
      · simp [own]

end Klik.Aliases
