import Klik.Aliases.RegistryOwnership
import Klik.Common.AccountGrammar

/-!
# The accounts in the register

A row of the register has passed the checks of its account, so that an account
which a lookup hands out is in the grammar or wider than it.
-/

namespace Klik.Aliases

open Klik.Banks
open Klik.Common
open Klik.Lib

/-! ## Rows have been checked -/

/-- The checks of a row but that its number is free. -/
def Alias.Checked (runtime : PyRuntime) (row : Alias) : Prop :=
  row.cleanFields = [] ∧ row.clean runtime = .ok ()

theorem Alias.checked_of_fullClean
    {runtime : PyRuntime} {aliases : List Alias} {row : Alias}
    (clean : row.fullClean runtime aliases = []) :
    row.Checked runtime := by
  simp only [fullClean, List.append_eq_nil_iff] at clean
  refine ⟨clean.1.1, ?_⟩
  cases checked : row.clean runtime with
  | error problem => simp [checked] at clean
  | ok done => rfl

/-- Where the account counts as true, its own check has passed. -/
theorem Alias.Checked.account
    {runtime : PyRuntime} {row : Alias} (checked : row.Checked runtime)
    (truthy : row.accountIdentifier.truthy = true) :
    validateAccountIdentifier runtime row.accountIdentifier row.zone = .ok () := by
  have passed := checked.2
  simp only [clean, truthy] at passed
  split at passed
  · cases passed
  · split at passed
    · cases passed
    · rw [if_neg (by decide)] at passed
      split at passed
      · cases passed
      · assumption

section Statements

variable {runtime : PyRuntime} {today : Date} {aliases : List Alias}
variable {call : RegistryCall} {stage next : RegistryStage} {changes : List RegistryChange}

/-- A call gets to the insertion when the checks have passed. -/
theorem checked_of_inserting
    (moved : nextStatement runtime today aliases call stage = some (changes, .inserting)) :
    ∃ request, call = .register request ∧ request.row.Checked runtime := by
  simp only [nextStatement] at moved
  split at moved
  · split at moved <;> cases moved
  · rename_i request
    split at moved
    · cases moved
    · rename_i clean
      exact ⟨request, rfl, Alias.checked_of_fullClean (not_not.mp clean)⟩
  · split at moved
    · cases moved
    · split at moved <;> cases moved
  · split at moved
    · cases moved
    · split at moved <;> cases moved
  · split at moved <;> cases moved
  · split at moved <;> cases moved
  · cases moved
  · cases moved

/-- Rows come from the insertion alone. -/
theorem inserting_of_inserted
    {row : Alias} (moved : nextStatement runtime today aliases call stage = some (changes, next))
    (inserted : .inserted row ∈ changes) :
    ∃ request, call = .register request ∧ stage = .inserting ∧ row = request.row := by
  simp only [nextStatement] at moved
  split at moved
  · split at moved <;> cases moved <;> cases inserted
  · split at moved <;> cases moved <;> cases inserted
  · rename_i request
    split at moved
    · cases moved
      cases inserted
    · split at moved
      · cases moved
        cases inserted
      · cases moved
        cases List.mem_singleton.mp inserted
        exact ⟨request, rfl, rfl, rfl⟩
  · split at moved
    · cases moved
      cases inserted
    · split at moved <;> cases moved <;> cases inserted
  · split at moved
    · cases moved
      cases List.mem_singleton.mp inserted
    · cases moved
      cases inserted
  · split at moved <;> cases moved <;> cases inserted
  · cases moved
    cases List.mem_singleton.mp inserted
  · cases moved

end Statements

/-- The rows which were inserted, and those which are about to be. -/
structure RegistryChecked (runtime : PyRuntime) (state : RegistryState) : Prop where
  inserting : ∀ (call : Nat) (record : CallRecord) (request : RegisterRequest),
    state.calls[call]? = some record → record.call = .register request →
      record.stage = .inserting → request.row.Checked runtime
  inserted : ∀ call row, (call, .inserted row) ∈ state.history → row.Checked runtime

section Steps

variable {runtime : PyRuntime} {state : RegistryState}
variable {record : CallRecord} {stage : RegistryStage} {changes : List RegistryChange}

theorem RegistryChecked.called
    (checked : RegistryChecked runtime state) (new : RegistryCall) :
    RegistryChecked runtime { state with
      calls := state.calls ++ [⟨new, state.history.length, state.history.length, .started⟩] } := by
  refine ⟨?_, checked.inserted⟩
  intro call record request here called inserting
  rcases getElem?_begun here with here | ⟨rfl, rfl⟩
  · exact checked.inserting call record request here called inserting
  · cases inserting

theorem RegistryChecked.advanced
    (checked : RegistryChecked runtime state) {call : Nat} {today : Date}
    (here : state.calls[call]? = some record)
    (moved : nextStatement runtime today state.aliases record.call record.stage =
      some (changes, stage)) :
    RegistryChecked runtime (state.advanced call record changes stage) := by
  constructor
  · intro other after request found called inserting
    rcases getElem?_moved found with ⟨rfl, rfl⟩ | ⟨_, before⟩
    · subst inserting
      rcases checked_of_inserting moved with ⟨requestToo, calledToo, passed⟩
      cases called.symm.trans calledToo
      exact passed
    · exact checked.inserting other after request before called inserting
  · intro other row member
    rcases List.mem_append.mp member with old | new
    · exact checked.inserted other row old
    · rcases List.mem_map.mp new with ⟨change, inside, same⟩
      cases same
      rcases inserting_of_inserted moved inside with ⟨request, called, inserting, rfl⟩
      exact checked.inserting call record request here called inserting

theorem RegistryChecked.of_reachable
    (reached : (registrySystem runtime).Reachable state) : RegistryChecked runtime state := by
  refine reached.invariant ?_ ?_
  · intro start begins
    constructor
    · intro call record request here
      rw [begins.calls] at here
      cases here
    · intro call row member
      rw [begins.history] at member
      cases member
  · intro source action target _ checked move
    simp only [registrySystem, TransitionSystem.ofStep] at move
    cases action with
    | start call =>
        simp only [registryStep] at move
        split at move
        · cases move
        · cases move
          exact checked.called call
    | advance call today =>
        simp only [registryStep] at move
        split at move
        · cases move
        · rename_i record here
          rcases Option.map_eq_some_iff.mp move with ⟨⟨changes, stage⟩, moved, rfl⟩
          exact checked.advanced here moved

/-- Every row which a lookup has found was checked when it was registered. -/
theorem checked_of_found
    (reached : (registrySystem runtime).Reachable state) {call : Nat} {row : Alias}
    (here : state.calls[call]? = some record) (found : record.stage = .ended (.found row)) :
    row.Checked runtime := by
  have progress := ((RegistryHeld.of_reachable reached).calls call record here).progress
  rw [found] at progress
  rcases progress.found_counts with ⟨_, _, _, _, moment, _, _, present⟩
  rcases inserted_of_mem_tableAt present with ⟨registration, inserted⟩
  exact (RegistryChecked.of_reachable reached).inserted registration row inserted

end Steps

/-! ## What is usable -/

/-- An identifier of the grammar is an object with entries. -/
theorem truthy_of_usable
    {zone : Zone} {identifier : PyValue} (usable : UsableAccount zone identifier) :
    identifier.truthy = true := by
  cases identifier with
  | dict items =>
      cases items with
      | nil =>
          have absent : PyValue.none = .str (zoneToAccountType zone) := usable.1
          cases absent
      | cons item rest => rfl
  | none | bool _ | number _ _ | str _ | list _ => exact absurd usable id

/-- The check decides an identifier by the grammar exactly if it is not wider.
So does the register: an account which a lookup hands out is usable exactly if
it counts as true, as all accounts of requests do, and is not wider. -/
theorem accounts_usable_iff
    {runtime : PyRuntime} {value : Nat → Option Nat}
    (digits : ReadsDigits runtime value) (upper : UppersAscii runtime) :
    (∀ identifier zone,
      (validateAccountIdentifier runtime identifier zone = .ok () ↔
          UsableAccount zone identifier) ↔
        ¬ WiderAccount runtime value zone identifier) ∧
    ∀ state, (registrySystem runtime).Reachable state →
      ∀ (call : Nat) (record : CallRecord) (row : Alias), state.calls[call]? = some record →
        record.stage = .ended (.found row) →
          (UsableAccount row.zone row.accountIdentifier ↔
            row.accountIdentifier.truthy = true ∧
              ¬ WiderAccount runtime value row.zone row.accountIdentifier) := by
  refine ⟨decided_by_grammar_iff digits upper, ?_⟩
  intro state reached call record row here found
  constructor
  · intro usable
    exact ⟨truthy_of_usable usable, not_widerAccount upper usable⟩
  · rintro ⟨truthy, narrow⟩
    have accepted := (checked_of_found reached here found).account truthy
    exact ((decided_by_grammar_iff digits upper _ _).mpr narrow).mp accepted

/-! ## Accounts in other letters and digits -/

/-- The interpreter with the digits of two scripts and with `ß`, whose capital
is `SS`. -/
def foreignRuntime : PyRuntime :=
  { twoScriptsRuntime with
    upper := fun text => text.flatMap fun point =>
      if point = 223 then [83, 83] else asciiUpper [point] }

theorem readsDigits_foreign : ReadsDigits foreignRuntime twoScripts :=
  ⟨readsDigits_twoScripts.isDigit, readsDigits_twoScripts.ascii⟩

theorem uppersAscii_foreign : UppersAscii foreignRuntime := by
  intro text ascii
  induction text with
  | nil => rfl
  | cons point rest induction =>
      have small := ascii point (List.mem_cons_self ..)
      have others := induction fun other member => ascii other (List.mem_cons_of_mem _ member)
      show (if point = 223 then [83, 83] else asciiUpper [point]) ++ _ = _
      rw [if_neg (by omega)]
      exact congrArg (asciiUpper [point] ++ ·) others

/-- An object with an IBAN. -/
def ibanAccount (text : PyStr) : PyValue :=
  .dict [(py "type", .str (py "iban")), (py "value", .str text)]

/-- An American account whose routing number has a line feed behind it. -/
def feedAccount : PyValue :=
  .dict [(py "type", .str (py "us_routing")),
    (py "routing_number", .str (py "021000021" ++ [10])),
    (py "account_number", .str (py "1234567890"))]

/-- An IBAN whose first check digit is Arabic. -/
def arabicIban : PyStr :=
  py "PL" ++ [1638] ++ py "1109010140000071219812874"

/-- A British IBAN with `ß`. -/
def sharpIban : PyStr :=
  py "GB82WE" ++ [223] ++ py "12345698765432"

/-- The registration of an account for a Polish number. -/
def registerAccount (identifier : PyValue) : RegisterRequest where
  bank := polishBank 1
  phone := asciiPhone
  accountIdentifier := identifier
  zone := .PL
  aliasId := 10
  refused := false

/-- An IBAN in small letters and with spaces is decided by the grammar. -/
theorem accounts_usable_polish :
    validateAccountIdentifier foreignRuntime
        (ibanAccount (py "pl61 1090 1014 0000 0712 1981 2874")) .PL = .ok () ↔
      UsableAccount .PL (ibanAccount (py "pl61 1090 1014 0000 0712 1981 2874")) := by
  apply ((accounts_usable_iff readsDigits_foreign uppersAscii_foreign).1 _ _).mpr
  rintro ⟨_, text, found, ⟨body, ending, split, _, wider⟩, _⟩
  cases found
  rcases wider with rfl | ⟨_, point, member, wide⟩
  · have last := congrArg List.getLast? split
    rw [List.getLast?_concat] at last
    exact absurd last (by decide)
  · have ascii : ∀ point ∈ py "pl61 1090 1014 0000 0712 1981 2874", point < 128 := by decide
    exact absurd (ascii point member) (Nat.not_lt_of_le wide)

/-- Identifiers in other letters and digits, or with a line feed, are accepted.
The register takes one of them, and a lookup hands it out. -/
theorem unusable_account_handed_out :
    validateAccountIdentifier foreignRuntime (ibanAccount arabicIban) .PL = .ok () ∧
      validateAccountIdentifier foreignRuntime (ibanAccount sharpIban) .UK = .ok () ∧
      validateAccountIdentifier foreignRuntime feedAccount .US = .ok () ∧
      ¬ UsableAccount .PL (ibanAccount arabicIban) ∧
      ¬ UsableAccount .UK (ibanAccount sharpIban) ∧
      ¬ UsableAccount .US feedAccount ∧
      register foreignRuntime (registerAccount (ibanAccount arabicIban)) [] =
        .ok [(registerAccount (ibanAccount arabicIban)).row] ∧
      lookupForBank asciiPhone [(registerAccount (ibanAccount arabicIban)).row] =
        .ok (registerAccount (ibanAccount arabicIban)).row := by
  refine ⟨by decide, by decide, by decide, ?_, ?_, ?_, by rfl, by rfl⟩
  · rintro ⟨_, text, found, form, _⟩
    cases found
    exact absurd (form.ascii 1638 (by decide)).1 (by decide)
  · rintro ⟨_, text, found, form, _⟩
    cases found
    exact absurd (form.ascii 223 (by decide)).1 (by decide)
  · rintro ⟨_, routing, account, found, _, form, _⟩
    cases found
    exact absurd form.1.2 (by decide)

end Klik.Aliases
