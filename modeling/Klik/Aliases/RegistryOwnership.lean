import Klik.Aliases.RegistrySystem
import Klik.Lib.InFlight

/-!
# Who changes the register of aliases

Each call sees the table at moments between its start and its end, and leaves
the changes of its own statements in the history.  What a call has seen and
made is told by its stage alone, so that the statements of other calls do not
matter to it: they only lengthen the history.
-/

namespace Klik.Aliases

open Klik.Banks
open Klik.Common
open Klik.Ledger
open Klik.Lib

/-! ## The history -/

/-- The table at a moment. -/
def tableAt (history : List (Nat × RegistryChange)) (moment : Nat) : List Alias :=
  dataAt applyChange [] history moment

/-- What a call has changed. -/
def changesOf (history : List (Nat × RegistryChange)) (call : Nat) : List RegistryChange :=
  (history.filter fun made => made.1 = call).map fun made => made.2

/-- The changes which one statement of a call adds. -/
def madeBy (call : Nat) (changes : List RegistryChange) : List (Nat × RegistryChange) :=
  changes.map fun change => (call, change)

theorem length_madeBy (call : Nat) (changes : List RegistryChange) :
    (madeBy call changes).length = changes.length :=
  List.length_map ..

theorem changesOf_append_own
    (history : List (Nat × RegistryChange)) (call : Nat) (changes : List RegistryChange) :
    changesOf (history ++ madeBy call changes) call = changesOf history call ++ changes := by
  have own : (madeBy call changes).filter (fun made => made.1 = call) =
      madeBy call changes := by
    rw [List.filter_eq_self]
    intro made member
    rcases List.mem_map.mp member with ⟨change, _, rfl⟩
    exact decide_eq_true rfl
  have second : (madeBy call changes).map (fun made => made.2) = changes := by
    rw [madeBy, List.map_map]
    exact List.map_id changes
  rw [changesOf, List.filter_append, own, List.map_append, second, changesOf]

theorem changesOf_append_other
    (history : List (Nat × RegistryChange)) {call other : Nat} (different : other ≠ call)
    (changes : List RegistryChange) :
    changesOf (history ++ madeBy other changes) call = changesOf history call := by
  have nothing : (madeBy other changes).filter (fun made => made.1 = call) = [] := by
    rw [List.filter_eq_nil_iff]
    intro made member
    rcases List.mem_map.mp member with ⟨change, _, rfl⟩
    exact fun same => different (of_decide_eq_true same)
  rw [changesOf, List.filter_append, nothing, List.append_nil, changesOf]

theorem mem_changesOf
    {history : List (Nat × RegistryChange)} {call : Nat} {change : RegistryChange}
    (member : (call, change) ∈ history) :
    change ∈ changesOf history call :=
  List.mem_map.mpr
    ⟨(call, change), List.mem_filter.mpr ⟨member, decide_eq_true rfl⟩, rfl⟩

/-- A row of the table has been inserted. -/
theorem inserted_of_mem
    {history : List (Nat × RegistryChange)} {row : Alias}
    (member : row ∈ replay applyChange [] history) :
    ∃ call, (call, RegistryChange.inserted row) ∈ history := by
  induction history using List.reverseRecOn with
  | nil => exact absurd member List.not_mem_nil
  | append_singleton before change induction =>
      rw [replay_append] at member
      have earlier (present : row ∈ replay applyChange [] before) :
          ∃ call, (call, RegistryChange.inserted row) ∈ before ++ [change] := by
        rcases induction present with ⟨call, made⟩
        exact ⟨call, List.mem_append_left _ made⟩
      rcases change with ⟨call, change⟩
      cases change with
      | inserted new =>
          rcases List.mem_append.mp member with present | new
          · exact earlier present
          · cases List.mem_singleton.mp new
            exact ⟨call, List.mem_append_right _ (List.mem_singleton_self _)⟩
      | deleted gone => exact earlier (List.mem_filter.mp member).1
      | counted bankId day => exact earlier member

theorem inserted_of_mem_tableAt
    {history : List (Nat × RegistryChange)} {moment : Nat} {row : Alias}
    (member : row ∈ tableAt history moment) :
    ∃ call, (call, RegistryChange.inserted row) ∈ history := by
  rcases inserted_of_mem member with ⟨call, made⟩
  exact ⟨call, List.mem_of_mem_take made⟩

/-- A row goes by a deletion of its key only. -/
theorem deleted_of_leaves
    {history : List (Nat × RegistryChange)} {moment : Nat} {row : Alias}
    (present : row ∈ tableAt history moment) (gone : row ∉ tableAt history (moment + 1)) :
    ∃ call other, history[moment]? = some (call, .deleted other) ∧ other.id = row.id := by
  cases found : history[moment]? with
  | none =>
      have ended : history.length ≤ moment := List.getElem?_eq_none_iff.mp found
      have same : tableAt history (moment + 1) = tableAt history moment := by
        rw [tableAt, tableAt, dataAt, dataAt, List.take_of_length_le ended,
          List.take_of_length_le (Nat.le_succ_of_le ended)]
      exact absurd (same ▸ present) gone
  | some made =>
      rw [tableAt, dataAt_succ found] at gone
      rcases made with ⟨call, change⟩
      cases change with
      | inserted new => exact absurd (List.mem_append_left _ present) gone
      | counted bankId day => exact absurd present gone
      | deleted other =>
          refine ⟨call, other, rfl, ?_⟩
          by_contra different
          apply gone
          refine List.mem_filter.mpr ⟨present, decide_eq_true ?_⟩
          exact fun same => different same.symm

/-! ## One call -/

/-- The arguments pass all checks but that the number is free. -/
structure RegisterRequest.Valid (runtime : PyRuntime) (request : RegisterRequest) : Prop where
  fields : request.row.cleanFields = []
  clean : request.row.clean runtime = .ok ()

/-- No row has the number. -/
def PhoneFree (phone : PyStr) (aliases : List Alias) : Prop :=
  ∀ row ∈ aliases, row.phone ≠ phone

/-- A valid request fails on the number alone. -/
theorem RegisterRequest.Valid.problems
    {runtime : PyRuntime} {request : RegisterRequest} (valid : request.Valid runtime)
    (aliases : List Alias) :
    (request.row.fullClean runtime aliases = [] ∧ PhoneFree request.phone aliases) ∨
      request.row.fullClean runtime aliases = [.phoneTaken] := by
  simp only [Alias.fullClean, valid.fields, valid.clean, List.nil_append, List.any_nil]
  by_cases taken : (aliases.any fun old => old.phone = request.row.phone) = true
  · rw [if_neg Bool.false_ne_true, if_pos taken]
    exact .inr rfl
  · rw [if_neg Bool.false_ne_true, if_neg taken]
    refine .inl ⟨rfl, ?_⟩
    intro row member same
    exact taken (List.any_eq_true.mpr ⟨row, member, decide_eq_true same⟩)

/-- Where no message is about the number, it was free or not looked up. -/
theorem RegisterRequest.Valid.free_of_passed
    {runtime : PyRuntime} {request : RegisterRequest} (valid : request.Valid runtime)
    {aliases : List Alias}
    (passed : ¬ (request.row.fullClean runtime aliases).any
      (fun problem => problem.field = "phone") = true) :
    PhoneFree request.phone aliases := by
  rcases valid.problems aliases with ⟨_, free⟩ | taken
  · exact free
  · rw [taken] at passed
    exact absurd rfl passed

theorem RegisterRequest.Valid.refusal
    {runtime : PyRuntime} {request : RegisterRequest} (valid : request.Valid runtime)
    (aliases : List Alias) (refused : request.row.fullClean runtime aliases ≠ []) :
    request.refusal (request.row.fullClean runtime aliases) =
      .alreadyRegistered request.phone := by
  rcases valid.problems aliases with ⟨none, _⟩ | taken
  · exact absurd none refused
  · rw [taken]
    rfl

/-- How far a call is, by what held of the table during it and what it has
changed. -/
inductive CallProgress (runtime : PyRuntime) (During : (List Alias → Prop) → Prop) :
    RegistryCall → RegistryStage → List RegistryChange → Prop where
  | started {call : RegistryCall} : CallProgress runtime During call .started []
  | constraining {request : RegisterRequest}
      (free : request.Valid runtime → During (PhoneFree request.phone)) :
      CallProgress runtime During (.register request) .constraining []
  | inserting {request : RegisterRequest}
      (free : request.Valid runtime → During (PhoneFree request.phone)) :
      CallProgress runtime During (.register request) .inserting []
  | registered {request : RegisterRequest}
      (free : During (PhoneFree request.phone)) :
      CallProgress runtime During (.register request) (.ended (.registered request.row))
        [.inserted request.row]
  | refused {request : RegisterRequest} {error : AliasError}
      (said : request.Valid runtime →
        error = .alreadyRegistered request.phone ∨ During (PhoneFree request.phone)) :
      CallProgress runtime During (.register request) (.ended (.raised error)) []
  | deleting {bank : Bank} {phone : PyStr} {row : Alias}
      (live : During fun aliases => row ∈ aliases)
      (own : row.bank.id = bank.id) (called : row.phone = phone) :
      CallProgress runtime During (.unregister bank phone) (.deleting row) []
  | unregistered {bank : Bank} {phone : PyStr} {row : Alias}
      (live : During fun aliases => row ∈ aliases)
      (own : row.bank.id = bank.id) (called : row.phone = phone) :
      CallProgress runtime During (.unregister bank phone) (.ended .unregistered)
        [.deleted row]
  /-- Another call has deleted the row. -/
  | vanished {bank : Bank} {phone : PyStr} :
      CallProgress runtime During (.unregister bank phone) (.ended .unregistered) []
  | kept {bank : Bank} {phone : PyStr} {error : AliasError} :
      CallProgress runtime During (.unregister bank phone) (.ended (.raised error)) []
  | counting {bank : Bank} {phone : PyStr} {row : Alias}
      (live : During fun aliases => row ∈ aliases) (called : row.phone = phone) :
      CallProgress runtime During (.lookup bank phone) (.counting row) []
  | found {bank : Bank} {phone : PyStr} {row : Alias} {day : Date}
      (live : During fun aliases => row ∈ aliases) (called : row.phone = phone) :
      CallProgress runtime During (.lookup bank phone) (.ended (.found row))
        [.counted bank.id day]
  | missed {bank : Bank} {phone : PyStr} {error : AliasError} :
      CallProgress runtime During (.lookup bank phone) (.ended (.raised error)) []

section Progress

variable {runtime : PyRuntime} {During Later : (List Alias → Prop) → Prop}
variable {call : RegistryCall} {stage next : RegistryStage}
variable {made changes : List RegistryChange}

/-- What held during a part of the call held during the call. -/
theorem CallProgress.mono
    (progress : CallProgress runtime During call stage made)
    (longer : ∀ {Property}, During Property → Later Property) :
    CallProgress runtime Later call stage made := by
  cases progress with
  | started => exact .started
  | constraining free => exact .constraining fun valid => longer (free valid)
  | inserting free => exact .inserting fun valid => longer (free valid)
  | registered free => exact .registered (longer free)
  | refused said => exact .refused fun valid => (said valid).imp_right longer
  | deleting live own called => exact .deleting (longer live) own called
  | unregistered live own called => exact .unregistered (longer live) own called
  | vanished => exact .vanished
  | kept => exact .kept
  | counting live called => exact .counting (longer live) called
  | found live called => exact .found (longer live) called
  | missed => exact .missed

/-- The next statement of a call sees the table of that moment. -/
theorem CallProgress.advance
    (progress : CallProgress runtime During call stage made)
    {today : Date} {aliases : List Alias}
    (now : ∀ {Property}, Property aliases → During Property)
    (advanced : nextStatement runtime today aliases call stage = some (changes, next)) :
    CallProgress runtime During call next (made ++ changes) := by
  cases progress with
  | started =>
      cases call with
      | register request =>
          simp only [nextStatement] at advanced
          split at advanced
          · rename_i taken
            cases advanced
            refine .refused fun valid => .inl (valid.refusal aliases ?_)
            intro nothing
            rw [nothing] at taken
            exact Bool.false_ne_true taken
          · rename_i passed
            cases advanced
            exact .constraining fun valid => now (valid.free_of_passed passed)
      | unregister bank phone =>
          simp only [nextStatement] at advanced
          cases found : getAlias phone aliases with
          | none =>
              simp only [found] at advanced
              cases advanced
              exact .kept
          | some row =>
              simp only [found] at advanced
              rcases mem_of_getAlias found with ⟨member, called⟩
              split at advanced
              · cases advanced
                exact .kept
              · rename_i own
                cases advanced
                exact .deleting (now member) (not_not.mp own) called
      | lookup bank phone =>
          simp only [nextStatement] at advanced
          cases found : getAlias phone aliases with
          | none =>
              simp only [found] at advanced
              cases advanced
              exact .missed
          | some row =>
              simp only [found] at advanced
              rcases mem_of_getAlias found with ⟨member, called⟩
              cases advanced
              exact .counting (now member) called
  | constraining free =>
      simp only [nextStatement] at advanced
      split at advanced
      · rename_i refused
        cases advanced
        exact .refused fun valid => .inl (valid.refusal aliases refused)
      · cases advanced
        exact .inserting free
  | @inserting request free =>
      simp only [nextStatement] at advanced
      split at advanced
      · cases advanced
        exact .refused fun valid => .inr (free valid)
      · split at advanced
        · cases advanced
          exact .refused fun _ => .inl rfl
        · rename_i untaken
          cases advanced
          refine .registered (now ?_)
          intro row member same
          exact untaken (List.any_eq_true.mpr ⟨row, member, decide_eq_true same⟩)
  | deleting live own called =>
      simp only [nextStatement] at advanced
      split at advanced
      · cases advanced
        exact .unregistered live own called
      · cases advanced
        exact .vanished
  | counting live called =>
      cases advanced
      exact .found live called
  | registered | refused | unregistered | vanished | kept | found | missed =>
      cases advanced

/-- A call which has not ended has a next statement. -/
theorem CallProgress.goes_on
    (progress : CallProgress runtime During call stage made)
    (going : ∀ result, stage ≠ .ended result) (today : Date) (aliases : List Alias) :
    (nextStatement runtime today aliases call stage).isSome = true := by
  cases progress with
  | started =>
      cases call with
      | register request =>
          simp only [nextStatement]
          split <;> rfl
      | unregister bank phone =>
          simp only [nextStatement]
          split
          · rfl
          · split <;> rfl
      | lookup bank phone =>
          simp only [nextStatement]
          split <;> rfl
  | constraining =>
      simp only [nextStatement]
      split <;> rfl
  | inserting =>
      simp only [nextStatement]
      split
      · rfl
      · split <;> rfl
  | deleting =>
      simp only [nextStatement]
      split <;> rfl
  | counting => rfl
  | registered | refused | unregistered | vanished | kept | found | missed =>
      exact absurd rfl (going _)

/-- Only a registration of the row inserts it. -/
theorem CallProgress.inserts
    (progress : CallProgress runtime During call stage made)
    {row : Alias} (member : .inserted row ∈ made) :
    ∃ request, call = .register request ∧ row = request.row := by
  cases progress with
  | @registered request _ =>
      cases List.mem_singleton.mp member
      exact ⟨request, rfl, rfl⟩
  | unregistered | found => cases List.mem_singleton.mp member
  | started | constraining | inserting | refused | deleting | vanished | kept | counting
  | missed => cases member

/-- Only the owner of a row deletes it. -/
theorem CallProgress.deletes
    (progress : CallProgress runtime During call stage made)
    {row : Alias} (member : .deleted row ∈ made) :
    ∃ bank, call = .unregister bank row.phone ∧ row.bank.id = bank.id ∧
      During fun aliases => row ∈ aliases := by
  cases progress with
  | @unregistered bank _ deleted live own called =>
      cases List.mem_singleton.mp member
      cases called
      exact ⟨bank, rfl, own, live⟩
  | registered | found => cases List.mem_singleton.mp member
  | started | constraining | inserting | refused | deleting | vanished | kept | counting
  | missed => cases member

/-- A call which fails changes nothing. -/
theorem CallProgress.raised_changes_nothing
    {error : AliasError}
    (progress : CallProgress runtime During call (.ended (.raised error)) made) :
    made = [] := by
  cases progress <;> rfl

/-- A lookup which succeeds has counted once. -/
theorem CallProgress.found_counts
    {row : Alias}
    (progress : CallProgress runtime During call (.ended (.found row)) made) :
    ∃ bank day, call = .lookup bank row.phone ∧ made = [.counted bank.id day] ∧
      During fun aliases => row ∈ aliases := by
  cases progress with
  | @found bank _ _ day live called =>
      cases called
      exact ⟨bank, day, rfl, rfl, live⟩

/-- A registration which never saw its number free ends with the exception,
at the latest at its first statement. -/
theorem CallProgress.over_live
    {request : RegisterRequest}
    (progress : CallProgress runtime During (.register request) stage made)
    (valid : request.Valid runtime) (taken : ¬ During (PhoneFree request.phone)) :
    made = [] ∧ (stage = .started ∨
      stage = .ended (.raised (.alreadyRegistered request.phone))) := by
  cases progress with
  | started => exact ⟨rfl, .inl rfl⟩
  | constraining free => exact absurd (free valid) taken
  | inserting free => exact absurd (free valid) taken
  | registered free => exact absurd free taken
  | refused said =>
      rcases said valid with same | free
      · rw [same]
        exact ⟨rfl, .inr rfl⟩
      · exact absurd free taken

end Progress

/-! ## All calls -/

/-- What held at a moment of a call. -/
def CallRecord.During
    (history : List (Nat × RegistryChange)) (record : CallRecord)
    (Property : List Alias → Prop) : Prop :=
  Sometime applyChange [] history record.since record.last Property

/-- A call, with its moments in the history. -/
structure CallHeld
    (runtime : PyRuntime) (history : List (Nat × RegistryChange)) (call : Nat)
    (record : CallRecord) : Prop where
  since : record.since ≤ record.last
  last : record.last ≤ history.length
  progress : CallProgress runtime (record.During history) record.call record.stage
    (changesOf history call)

/-- The change increments the counter of a bank on a day. -/
def RegistryChange.countsDaily (bankId : Uuid) (day : Date) : RegistryChange → Bool
  | .counted other date => other = bankId ∧ date = day
  | _ => false

/-- The change increments the counter of a bank. -/
def RegistryChange.countsTotal (bankId : Uuid) : RegistryChange → Bool
  | .counted other _ => other = bankId
  | _ => false

/-- What the statements of all calls keep. -/
structure RegistryHeld (runtime : PyRuntime) (state : RegistryState) : Prop where
  aliases : state.aliases = replay applyChange [] state.history
  phones : (state.aliases.map fun row => row.phone).Nodup
  daily : ∀ bankId day, state.daily bankId day =
    state.history.countP fun made => made.2.countsDaily bankId day
  total : ∀ bankId, state.total bankId =
    state.history.countP fun made => made.2.countsTotal bankId
  known : ∀ call change, (call, change) ∈ state.history → call < state.calls.length
  keys : ∀ (one other : Nat) (key : Uuid) (first second : CallRecord),
    state.calls[one]? = some first → state.calls[other]? = some second →
      first.call.drawn = some key → second.call.drawn = some key → one = other
  calls : ∀ call record, state.calls[call]? = some record →
    CallHeld runtime state.history call record

section Steps

variable {runtime : PyRuntime} {state next : RegistryState}
variable {history : List (Nat × RegistryChange)} {call : Nat} {record : CallRecord}
variable {stage : RegistryStage} {changes : List RegistryChange}

/-- The statements of other calls only lengthen the history. -/
theorem CallHeld.frame
    (held : CallHeld runtime history call record) {other : Nat} (different : other ≠ call)
    (changes : List RegistryChange) :
    CallHeld runtime (history ++ madeBy other changes) call record := by
  refine ⟨held.since, ?_, ?_⟩
  · rw [List.length_append]
    exact Nat.le_trans held.last (Nat.le_add_right ..)
  · rw [changesOf_append_other history different changes]
    apply held.progress.mono
    intro Property during
    exact Sometime.append during held.last

/-- A statement of the call itself comes after all changes so far. -/
theorem CallHeld.advance
    (held : CallHeld runtime history call record) {today : Date}
    (advanced : nextStatement runtime today (replay applyChange [] history)
      record.call record.stage = some (changes, stage)) :
    CallHeld runtime (history ++ madeBy call changes) call
      { record with last := history.length + changes.length, stage := stage } := by
  have within : history.length ≤ history.length + changes.length := Nat.le_add_right ..
  have since : record.since ≤ history.length := Nat.le_trans held.since held.last
  refine ⟨Nat.le_trans since within, ?_, ?_⟩
  · rw [List.length_append, length_madeBy]
  · rw [changesOf_append_own]
    refine (held.progress.mono ?_).advance ?_ advanced
    · intro Property during
      exact (Sometime.append during held.last).mono (Nat.le_trans held.last within)
    · intro Property now
      refine ⟨history.length, since, within, ?_⟩
      rw [dataAt_append (Nat.le_refl _), dataAt_length]
      exact now

/-- What one statement can change. -/
theorem nextStatement_changes
    {today : Date} {aliases : List Alias} {called : RegistryCall} {before : RegistryStage}
    (advanced : nextStatement runtime today aliases called before = some (changes, stage)) :
    changes = [] ∨ (∃ row, changes = [.inserted row] ∧ PhoneFree row.phone aliases) ∨
      (∃ row, changes = [.deleted row]) ∨ ∃ bankId day, changes = [.counted bankId day] := by
  simp only [nextStatement] at advanced
  split at advanced
  · split at advanced <;> cases advanced <;> exact .inl rfl
  · split at advanced <;> cases advanced <;> exact .inl rfl
  · rename_i request
    split at advanced
    · cases advanced
      exact .inl rfl
    · split at advanced
      · cases advanced
        exact .inl rfl
      · rename_i untaken
        cases advanced
        refine .inr (.inl ⟨_, rfl, ?_⟩)
        intro row member same
        exact untaken (List.any_eq_true.mpr ⟨row, member, decide_eq_true same⟩)
  · split at advanced
    · cases advanced
      exact .inl rfl
    · split at advanced <;> cases advanced <;> exact .inl rfl
  · split at advanced <;> cases advanced
    · exact .inr (.inr (.inl ⟨_, rfl⟩))
    · exact .inl rfl
  · split at advanced <;> cases advanced <;> exact .inl rfl
  · cases advanced
    exact .inr (.inr (.inr ⟨_, _, rfl⟩))
  · cases advanced

/-- A row is inserted where its number is free. -/
theorem phones_after
    {today : Date} {aliases : List Alias} {called : RegistryCall} {before : RegistryStage}
    (advanced : nextStatement runtime today aliases called before = some (changes, stage))
    (phones : (aliases.map fun row => row.phone).Nodup) :
    (((madeBy call changes).foldl applyChange aliases).map fun row => row.phone).Nodup := by
  rcases nextStatement_changes advanced with rfl | ⟨row, rfl, free⟩ | ⟨row, rfl⟩ | ⟨_, _, rfl⟩
  · exact phones
  · show ((aliases ++ [row]).map fun row => row.phone).Nodup
    rw [List.map_append]
    refine List.Nodup.append phones (List.nodup_singleton _) ?_
    intro phone old new
    rcases List.mem_map.mp old with ⟨other, member, rfl⟩
    exact free other member (List.mem_singleton.mp new)
  · exact phones.sublist (List.filter_sublist.map _)
  · exact phones

theorem countDaily_foldl (daily : LookupCounters) (bankId : Uuid) (day : Date) :
    changes.foldl countDaily daily bankId day =
      daily bankId day + changes.countP (RegistryChange.countsDaily bankId day) := by
  have moves : ∀ (counters : LookupCounters) change,
      countDaily counters change bankId day =
        counters bankId day + if RegistryChange.countsDaily bankId day change then 1 else 0 := by
    intro counters change
    cases change with
    | inserted row => rfl
    | deleted row => rfl
    | counted other date =>
        simp only [countDaily, LookupCounters.increment, RegistryChange.countsDaily,
          decide_eq_true_eq, eq_comm (a := bankId), eq_comm (a := day)]
        split
        · rename_i same
          rw [same.1, same.2]
        · rfl
  exact replay_counts (fun counters : LookupCounters => counters bankId day) moves

theorem countTotal_foldl (total : Uuid → Nat) (bankId : Uuid) :
    changes.foldl countTotal total bankId =
      total bankId + changes.countP (RegistryChange.countsTotal bankId) := by
  have moves : ∀ (counters : Uuid → Nat) change,
      countTotal counters change bankId =
        counters bankId + if RegistryChange.countsTotal bankId change then 1 else 0 := by
    intro counters change
    cases change with
    | inserted row => rfl
    | deleted row => rfl
    | counted other date =>
        simp only [countTotal, RegistryChange.countsTotal, decide_eq_true_eq]
        by_cases same : other = bankId
        · rw [if_pos same, same, Function.update_self]
        · rw [if_neg same, Function.update_of_ne (Ne.symm same), Nat.add_zero]
  exact replay_counts (fun counters : Uuid → Nat => counters bankId) moves

theorem countP_madeBy (call : Nat) (counts : RegistryChange → Bool) :
    (madeBy call changes).countP (fun made => counts made.2) = changes.countP counts := by
  rw [madeBy, List.countP_map]
  rfl

theorem RegistryHeld.start
    (start : state.IsStart) : RegistryHeld runtime state := by
  constructor
  · rw [start.aliases, start.history]
    rfl
  · rw [start.aliases]
    exact List.nodup_nil
  · intro bankId day
    rw [start.daily, start.history]
    rfl
  · intro bankId
    rw [start.total, start.history]
    rfl
  · intro call change member
    rw [start.history] at member
    cases member
  · intro one other key first second here
    rw [start.calls] at here
    cases here
  · intro call record here
    rw [start.calls] at here
    cases here

theorem RegistryHeld.called
    (held : RegistryHeld runtime state) (new : RegistryCall)
    (fresh : ¬ (state.calls.any fun record =>
      record.call.drawn.isSome && record.call.drawn = new.drawn) = true) :
    RegistryHeld runtime { state with
      calls := state.calls ++ [⟨new, state.history.length, state.history.length, .started⟩] } := by
  have unused {call : Nat} {record : CallRecord} {key : Uuid}
      (here : state.calls[call]? = some record) (drawn : record.call.drawn = some key) :
      new.drawn ≠ some key := by
    intro same
    apply fresh
    rw [List.any_eq_true]
    refine ⟨record, List.mem_of_getElem? here, ?_⟩
    simp [drawn, same]
  constructor
  · exact held.aliases
  · exact held.phones
  · exact held.daily
  · exact held.total
  · intro call change member
    rw [List.length_append]
    exact Nat.lt_add_right _ (held.known call change member)
  · intro one other key first second here there drawn drawnToo
    rcases getElem?_begun here with here | ⟨rfl, rfl⟩ <;>
      rcases getElem?_begun there with there | ⟨rfl, rfl⟩
    · exact held.keys one other key first second here there drawn drawnToo
    · exact absurd drawnToo (unused here drawn)
    · exact absurd drawn (unused there drawnToo)
    · rfl
  · intro call record here
    rcases getElem?_begun here with here | ⟨rfl, rfl⟩
    · exact held.calls call record here
    · have nothing : changesOf state.history state.calls.length = [] := by
        rw [changesOf, List.map_eq_nil_iff, List.filter_eq_nil_iff]
        rintro ⟨other, change⟩ member same
        have other : other = state.calls.length := of_decide_eq_true same
        exact absurd (held.known _ _ member) (by omega)
      refine ⟨Nat.le_refl _, Nat.le_refl _, ?_⟩
      rw [nothing]
      exact .started

theorem RegistryHeld.advanced
    (held : RegistryHeld runtime state) {today : Date}
    (here : state.calls[call]? = some record)
    (moved : nextStatement runtime today state.aliases record.call record.stage =
      some (changes, stage)) :
    RegistryHeld runtime (state.advanced call record changes stage) := by
  have inside : call < state.calls.length := (List.getElem?_eq_some_iff.mp here).1
  have sameCall {other : Nat} {after : CallRecord}
      (found : (state.advanced call record changes stage).calls[other]? = some after) :
      ∃ before, state.calls[other]? = some before ∧ before.call = after.call := by
    rcases getElem?_moved found with ⟨rfl, rfl⟩ | ⟨_, before⟩
    · exact ⟨record, here, rfl⟩
    · exact ⟨after, before, rfl⟩
  constructor
  · show (madeBy call changes).foldl applyChange state.aliases = _
    rw [held.aliases]
    exact replay_append.symm
  · exact phones_after moved held.phones
  · intro bankId day
    show changes.foldl countDaily state.daily bankId day =
      (state.history ++ madeBy call changes).countP _
    rw [countDaily_foldl, held.daily, List.countP_append,
      countP_madeBy call (RegistryChange.countsDaily bankId day)]
  · intro bankId
    show changes.foldl countTotal state.total bankId =
      (state.history ++ madeBy call changes).countP _
    rw [countTotal_foldl, held.total, List.countP_append,
      countP_madeBy call (RegistryChange.countsTotal bankId)]
  · intro other change member
    show other < (state.calls.set call _).length
    rw [List.length_set]
    rcases List.mem_append.mp member with old | new
    · exact held.known other change old
    · rcases List.mem_map.mp new with ⟨_, _, same⟩
      cases same
      exact inside
  · intro one other key first second atOne atOther drawn drawnToo
    rcases sameCall atOne with ⟨before, there, same⟩
    rcases sameCall atOther with ⟨beforeToo, thereToo, sameToo⟩
    rw [← same] at drawn
    rw [← sameToo] at drawnToo
    exact held.keys one other key before beforeToo there thereToo drawn drawnToo
  · intro other after found
    rcases getElem?_moved found with ⟨rfl, rfl⟩ | ⟨different, before⟩
    · rw [held.aliases] at moved
      exact (held.calls call record here).advance moved
    · exact (held.calls other after before).frame different changes

theorem RegistryHeld.of_reachable
    (reached : (registrySystem runtime).Reachable state) : RegistryHeld runtime state := by
  refine reached.invariant (fun _ => RegistryHeld.start) ?_
  intro source action target _ held move
  simp only [registrySystem, TransitionSystem.ofStep] at move
  cases action with
  | start call =>
      simp only [registryStep] at move
      split at move
      · cases move
      · rename_i fresh
        cases move
        exact held.called call fresh
  | advance call today =>
      simp only [registryStep] at move
      split at move
      · cases move
      · rename_i record here
        rcases Option.map_eq_some_iff.mp move with ⟨⟨changes, stage⟩, moved, rfl⟩
        exact held.advanced here moved

/-- The row of a key is the one which the call that drew it registered. -/
theorem RegistryHeld.sole
    (held : RegistryHeld runtime state) {one other : Nat} {row old : Alias}
    (inserted : (one, .inserted row) ∈ state.history)
    (earlier : (other, .inserted old) ∈ state.history) (same : old.id = row.id) :
    ∃ record request, state.calls[one]? = some record ∧
      record.call = .register request ∧ row = request.row ∧ old = row := by
  have origin {call : Nat} {row : Alias} (member : (call, .inserted row) ∈ state.history) :
      ∃ record request, state.calls[call]? = some record ∧
        record.call = .register request ∧ row = request.row := by
    have here := List.getElem?_eq_getElem (held.known _ _ member)
    rcases (held.calls _ _ here).progress.inserts (mem_changesOf member) with
      ⟨request, called, rfl⟩
    exact ⟨_, request, here, called, rfl⟩
  rcases origin inserted with ⟨record, request, here, called, rfl⟩
  rcases origin earlier with ⟨recordToo, requestToo, there, calledToo, rfl⟩
  refine ⟨record, request, here, called, rfl, ?_⟩
  have drawn : record.call.drawn = some request.aliasId := by
    rw [called]
    rfl
  have drawnToo : recordToo.call.drawn = some request.aliasId := by
    rw [calledToo]
    exact congrArg some same
  cases held.keys one other _ record recordToo here there drawn drawnToo
  rw [here] at there
  cases there
  rw [called] at calledToo
  cases calledToo
  rfl

end Steps

/-! ## The register belongs to the banks -/

/-- The law of the register in a state, about all which has happened. -/
structure RegistryState.Owned (runtime : PyRuntime) (state : RegistryState) : Prop where
  onePerPhone : (state.aliases.map fun row => row.phone).Nodup
  /-- The table is what the changes have made of the empty one. -/
  replayed : state.aliases = tableAt state.history state.history.length
  /-- An alias goes by a call of the bank which registered it. -/
  leaves : ∀ moment row,
    row ∈ tableAt state.history moment → row ∉ tableAt state.history (moment + 1) →
      ∃ call record bank registration registered request,
        state.history[moment]? = some (call, .deleted row) ∧
        state.calls[call]? = some record ∧ record.call = .unregister bank row.phone ∧
        (registration, .inserted row) ∈ state.history ∧
        state.calls[registration]? = some registered ∧
        registered.call = .register request ∧ request.row = row ∧
        request.bank.id = bank.id
  /-- A call which has not ended can go on. -/
  goesOn : ∀ call record today, state.calls[call]? = some record →
    (∀ result, record.stage ≠ .ended result) →
      (registryStep runtime state (.advance call today)).isSome = true
  /-- Over an alias which is there during the whole call, the call does
  nothing but raise. -/
  registerOver : ∀ (call : Nat) (record : CallRecord) (request : RegisterRequest),
    state.calls[call]? = some record → record.call = .register request →
      request.Valid runtime →
        Throughout applyChange [] state.history record.since record.last
          (fun aliases => ∃ row ∈ aliases, row.phone = request.phone) →
          changesOf state.history call = [] ∧ (record.stage = .started ∨
            record.stage = .ended (.raised (.alreadyRegistered request.phone)))
  failed : ∀ (call : Nat) (record : CallRecord) (error : AliasError),
    state.calls[call]? = some record → record.stage = .ended (.raised error) →
      changesOf state.history call = []
  found : ∀ (call : Nat) (record : CallRecord) (row : Alias),
    state.calls[call]? = some record → record.stage = .ended (.found row) →
      ∃ bank day, record.call = .lookup bank row.phone ∧
        record.During state.history (fun aliases => row ∈ aliases) ∧
        changesOf state.history call = [.counted bank.id day]
  /-- The counters count what lookups have counted. -/
  daily : ∀ bankId day, state.daily bankId day =
    state.history.countP fun made => made.2.countsDaily bankId day
  total : ∀ bankId, state.total bankId =
    state.history.countP fun made => made.2.countsTotal bankId

/-- Whatever calls of whatever banks come between the statements of one
another, the law holds. -/
theorem registry_owned
    (runtime : PyRuntime) {state : RegistryState}
    (reached : (registrySystem runtime).Reachable state) :
    state.Owned runtime := by
  have held := RegistryHeld.of_reachable reached
  constructor
  · exact held.phones
  · rw [held.aliases, tableAt, dataAt_length]
  · intro moment row present gone
    rcases deleted_of_leaves present gone with ⟨call, other, made, sameKey⟩
    have inHistory := List.mem_of_getElem? made
    have here := List.getElem?_eq_getElem (held.known _ _ inHistory)
    rcases (held.calls _ _ here).progress.deletes (mem_changesOf inHistory) with
      ⟨bank, called, own, live⟩
    -- The row which the call read and the one which goes have one key.
    rcases live with ⟨seen, _, _, member⟩
    rcases inserted_of_mem_tableAt member with ⟨earlier, insertedOther⟩
    rcases inserted_of_mem_tableAt present with ⟨registration, inserted⟩
    rcases held.sole inserted insertedOther sameKey with
      ⟨registered, request, there, calledToo, rfl, rfl⟩
    exact ⟨call, _, bank, registration, registered, request, made, here, called, inserted,
      there, calledToo, rfl, own⟩
  · intro call record today here going
    have next := (held.calls _ _ here).progress.goes_on going today state.aliases
    simp only [registryStep, here, Option.isSome_map, next]
  · intro call record request here called valid taken
    have progress := (held.calls _ _ here).progress
    rw [called] at progress
    apply progress.over_live valid
    rintro ⟨moment, since, within, free⟩
    rcases taken moment since within with ⟨row, member, same⟩
    exact free row member same
  · intro call record error here ended
    have progress := (held.calls _ _ here).progress
    rw [ended] at progress
    exact progress.raised_changes_nothing
  · intro call record row here ended
    have progress := (held.calls _ _ here).progress
    rw [ended] at progress
    rcases progress.found_counts with ⟨bank, day, called, counted, live⟩
    exact ⟨bank, day, called, live, counted⟩
  · exact held.daily
  · exact held.total

/-- No calls yet. -/
def emptyRegistry : RegistryState where
  aliases := []
  daily _ _ := 0
  total _ := 0
  calls := []
  history := []

/-- A bank registers the number, with a key. -/
def registerNumber (bank key : Uuid) : RegistryCall :=
  .register
    { bank := polishBank bank
      phone := py "+48501234567"
      accountIdentifier := .dict [(py "type", .str (py "iban")),
        (py "value", .str (py "PL61109010140000071219812874"))]
      zone := .PL
      aliasId := key
      refused := false }

/-- Two banks race for the number.  Two calls of the winner remove it, next to
a lookup of a third bank and a new registration by the loser. -/
def raceForNumber : List RegistryAction :=
  let turn call := RegistryAction.advance call (.firstOfJune 2025)
  let number := py "+48501234567"
  [.start (registerNumber 1 10), .start (registerNumber 2 20),
    turn 0, turn 1, turn 0, turn 1, turn 0, turn 1,
    .start (.unregister (polishBank 1) number), .start (.unregister (polishBank 1) number),
    .start (.lookup (polishBank 3) number), .start (registerNumber 2 21),
    turn 2, turn 3, turn 4, turn 2, turn 5, turn 4, turn 5, turn 5, turn 3]

theorem run_raceForNumber :
    ((TransitionSystem.runLabels (registryStep .ascii) emptyRegistry raceForNumber).map
        fun state => (state.aliases.map fun row => (row.id, row.bank.id), state.total 3,
          state.calls.map fun record => (record.since, record.last))) =
      some ([(21, 2)], 1, [(0, 1), (0, 1), (1, 2), (1, 4), (1, 3), (1, 4)]) := by
  decide +kernel

theorem registry_owned_race :
    ∃ state,
      TransitionSystem.runLabels (registryStep .ascii) emptyRegistry raceForNumber = some state ∧
      (registrySystem .ascii).Reachable state ∧ state.Owned .ascii := by
  rcases Option.map_eq_some_iff.mp run_raceForNumber with ⟨state, run, _⟩
  have start : emptyRegistry.IsStart := ⟨rfl, fun _ _ => rfl, fun _ => rfl, rfl, rfl⟩
  have reached : (registrySystem .ascii).Reachable state :=
    TransitionSystem.reachable_of_runLabels start run
  exact ⟨state, run, reached, registry_owned .ascii reached⟩

end Klik.Aliases
