import Klik.Agents.AgentService
import Klik.Common.Exceptions
import Klik.Lib.AtomicBlock
import Klik.Lib.HalfOpen
import Klik.Lib.RowTable

/-!
# Saving fee agreements

An agent may have many agreements over time, but never two at once.  `save`
runs `full_clean`, which refuses an agreement whose period overlaps with
another one of the agent.  The overlap test, `is_active_at` and the filter of
`get_active_msc` are written separately; each is read here as a statement on
the half-open period of an agreement.
-/

namespace Klik.Agents

open Klik.Common
open Klik.Lib

/-- `is_active_at`. -/
def MSCAgreement.isActiveAt (agreement : MSCAgreement) (when_ : Instant) : Bool :=
  if when_ < agreement.validFrom then false
  else if agreement.validTo.any (fun validTo => validTo ≤ when_) then false
  else true

/-- `_overlaps_with`. -/
def MSCAgreement.overlapsWith (agreement other : MSCAgreement) : Bool :=
  let selfEndBeforeOtherStart :=
    agreement.validTo.any fun validTo => validTo ≤ other.validFrom
  let selfStartAfterOtherEnd :=
    other.validTo.any fun validTo => validTo ≤ agreement.validFrom
  !(selfEndBeforeOtherStart || selfStartAfterOtherEnd)

/-! ## Validation -/

/-- An error of `full_clean`. -/
inductive AgreementError where
  /-- A column's own validators refuse its value. -/
  | column (error : ValidationError)
  /-- The fees take `sum` percent, which is not less than 100. -/
  | feesSum (sum : Decimal)
  /-- The period overlaps with the one of an agreement already there. -/
  | overlaps (other : MSCAgreement)
  /-- A constraint of the table refuses the row. -/
  | constraint (name : String)
deriving DecidableEq, Repr

/-- `clean_fields`, where `agents` are the ids of the agents' table. -/
def MSCAgreement.cleanFields (agreement : MSCAgreement) (agents : List Uuid) :
    Except AgreementError Unit :=
  if agreement.agentId ∉ agents then .error (.column ⟨"agent", "invalid"⟩)
  else if fitsDecimalField 5 2 agreement.klikFeePerc = false then
    .error (.column ⟨"klik_fee_perc", "max_digits"⟩)
  else if fitsDecimalField 5 2 agreement.agentFeePerc = false then
    .error (.column ⟨"agent_fee_perc", "max_digits"⟩)
  else .ok ()

/-- The other agreements of the agent, in the order of the table's `Meta`. -/
def MSCAgreement.overlapping (agreement : MSCAgreement)
    (agreements : List MSCAgreement) : List MSCAgreement :=
  (agreements.filter fun other =>
      other.agentId = agreement.agentId && other.id ≠ agreement.id).insertionSort
    fun left right => right.validFrom ≤ left.validFrom

/-- `MSCAgreement.clean`. -/
def MSCAgreement.clean (agreement : MSCAgreement) (agreements : List MSCAgreement) :
    Except AgreementError Unit :=
  if 100 ≤ agreement.klikFeePerc + agreement.agentFeePerc then
    .error (.feesSum (agreement.klikFeePerc + agreement.agentFeePerc))
  else
    match (agreement.overlapping agreements).find? agreement.overlapsWith with
    | some other => .error (.overlaps other)
    | none => .ok ()

/-- The constraints of the table's `Meta`. -/
def MSCAgreement.validateConstraints (agreement : MSCAgreement) :
    Except AgreementError Unit :=
  if agreement.validTo.any (fun validTo => validTo ≤ agreement.validFrom) then
    .error (.constraint "msc_valid_to_after_valid_from")
  else if agreement.klikFeePerc < 0 ∨ agreement.agentFeePerc < 0 then
    .error (.constraint "msc_fees_non_negative")
  else .ok ()

/-- `full_clean`: the first check which fails raises.  The primary key is
checked for an object which is not saved yet. -/
def MSCAgreement.fullClean (agreement : MSCAgreement) (adding : Bool)
    (agents : List Uuid) (agreements : List MSCAgreement) :
    Except AgreementError Unit :=
  match agreement.cleanFields agents with
  | .error error => .error error
  | .ok () =>
      match agreement.clean agreements with
      | .error error => .error error
      | .ok () =>
          if adding = true ∧ ∃ other ∈ agreements, other.id = agreement.id then
            .error (.constraint "id")
          else agreement.validateConstraints

/-- `MSCAgreement.save`: a new object is inserted, an edited one overwrites
the row with its key, or is inserted where there is none. -/
def MSCAgreement.save (agreement : MSCAgreement) (adding : Bool)
    (agents : List Uuid) (agreements : List MSCAgreement) :
    Except AgreementError (List MSCAgreement) :=
  match agreement.fullClean adding agents agreements with
  | .error error => .error error
  | .ok () =>
      if ∃ other ∈ agreements, other.id = agreement.id then
        .ok (saveRow MSCAgreement.id agreement agreements)
      else .ok (agreements ++ [agreement])

/-! ## Agreements as periods -/

/-- The time in which the agreement is meant to apply. -/
def MSCAgreement.period (agreement : MSCAgreement) : HalfOpen Instant where
  start := agreement.validFrom
  stop := agreement.validTo

theorem MSCAgreement.stopsBy_iff {agreement : MSCAgreement} {time : Instant} :
    agreement.period.StopsBy time ↔
      agreement.validTo.any (fun validTo => validTo ≤ time) = true := by
  simp [HalfOpen.StopsBy, period, Option.any_eq_true]

theorem MSCAgreement.isActiveAt_iff {agreement : MSCAgreement} {time : Instant} :
    agreement.isActiveAt time = true ↔ agreement.period.Contains time := by
  show _ ↔ agreement.validFrom ≤ time ∧ ∀ stop ∈ agreement.validTo, time < stop
  cases ends : agreement.validTo with
  | none => simp [isActiveAt, ends]
  | some validTo => simp [isActiveAt, ends]

theorem MSCAgreement.overlapsWith_iff {agreement other : MSCAgreement} :
    agreement.overlapsWith other = true ↔
      ¬ (agreement.period.StopsBy other.validFrom ∨
        other.period.StopsBy agreement.validFrom) := by
  rw [stopsBy_iff, stopsBy_iff]
  simp only [overlapsWith, Bool.not_eq_true', Bool.or_eq_false_iff, not_or,
    Bool.not_eq_true]

/-- The filters of `get_active_msc` select what is active. -/
theorem selectedAt_iff
    {agent : Agent} {now : Instant} {agreement : MSCAgreement} :
    selectedAt agent now agreement = true ↔
      agreement.agentId = agent.id ∧ agreement.isActiveAt now = true := by
  rw [MSCAgreement.isActiveAt_iff]
  show _ ↔ _ ∧ agreement.validFrom ≤ now ∧ ∀ stop ∈ agreement.validTo, now < stop
  cases ends : agreement.validTo with
  | none => simp [selectedAt, ends]
  | some validTo => simp [selectedAt, ends, and_assoc]

/-- For periods which are not empty the overlap test finds a common instant. -/
theorem MSCAgreement.overlapsWith_iff_common
    {agreement other : MSCAgreement}
    (proper : agreement.period.Proper) (otherProper : other.period.Proper) :
    agreement.overlapsWith other = true ↔
      ∃ time, agreement.isActiveAt time = true ∧ other.isActiveAt time = true := by
  simp only [overlapsWith_iff, isActiveAt_iff]
  exact (HalfOpen.common_iff proper otherProper).symm

/-- Agreements which the overlap test tells apart have no common instant. -/
theorem MSCAgreement.apart_of_not_overlapsWith
    {agreement other : MSCAgreement}
    (proper : agreement.period.Proper) (otherProper : other.period.Proper)
    (passed : agreement.overlapsWith other = false) :
    agreement.period.Apart other.period := by
  rintro time ⟨active, otherActive⟩
  have overlap := (overlapsWith_iff_common proper otherProper).mpr
    ⟨time, isActiveAt_iff.mpr active, isActiveAt_iff.mpr otherActive⟩
  rw [passed] at overlap
  cases overlap

/-! ## What validation ensures -/

/-- Fees which leave something of every payment. -/
structure MSCAgreement.Rates (agreement : MSCAgreement) : Prop where
  klik_fits : fitsDecimalField 5 2 agreement.klikFeePerc = true
  agent_fits : fitsDecimalField 5 2 agreement.agentFeePerc = true
  klik_nonneg : 0 ≤ agreement.klikFeePerc
  agent_nonneg : 0 ≤ agreement.agentFeePerc
  sum_lt : agreement.klikFeePerc + agreement.agentFeePerc < 100

/-- What `full_clean` has checked. -/
structure MSCAgreement.Accepted
    (agreement : MSCAgreement) (agreements : List MSCAgreement) : Prop where
  rates : agreement.Rates
  proper : agreement.period.Proper
  noOverlap : ∀ other ∈ agreements, other.agentId = agreement.agentId →
    other.id ≠ agreement.id → agreement.overlapsWith other = false

theorem MSCAgreement.cleanFields_ok
    {agreement : MSCAgreement} {agents : List Uuid}
    (checked : agreement.cleanFields agents = .ok ()) :
    fitsDecimalField 5 2 agreement.klikFeePerc = true ∧
      fitsDecimalField 5 2 agreement.agentFeePerc = true := by
  simp only [cleanFields, check_eq_ok, Bool.not_eq_false] at checked
  exact ⟨checked.2.1, checked.2.2.1⟩

theorem MSCAgreement.clean_ok
    {agreement : MSCAgreement} {agreements : List MSCAgreement}
    (checked : agreement.clean agreements = .ok ()) :
    agreement.klikFeePerc + agreement.agentFeePerc < 100 ∧
      ∀ other ∈ agreements, other.agentId = agreement.agentId →
        other.id ≠ agreement.id → agreement.overlapsWith other = false := by
  simp only [clean, check_eq_ok, not_le] at checked
  rcases checked with ⟨sum, rest⟩
  refine ⟨sum, ?_⟩
  intro other member sameAgent otherId
  split at rest
  · cases rest
  · rename_i none_found
    have all := List.find?_eq_none.mp none_found other
    simp only [overlapping, List.mem_insertionSort, List.mem_filter, member,
      sameAgent, true_and] at all
    simpa [otherId] using all

theorem MSCAgreement.validateConstraints_ok
    {agreement : MSCAgreement} (checked : agreement.validateConstraints = .ok ()) :
    agreement.period.Proper ∧
      0 ≤ agreement.klikFeePerc ∧ 0 ≤ agreement.agentFeePerc := by
  simp only [validateConstraints, check_eq_ok, not_or, not_lt] at checked
  rcases checked with ⟨order, ⟨klik, agent⟩, _⟩
  refine ⟨?_, klik, agent⟩
  intro stop ends
  by_contra early
  exact order (stopsBy_iff.mp ⟨stop, ends, not_lt.mp early⟩)

theorem MSCAgreement.accepted_of_fullClean
    {agreement : MSCAgreement} {adding : Bool} {agents : List Uuid}
    {agreements : List MSCAgreement}
    (checked : agreement.fullClean adding agents agreements = .ok ()) :
    agreement.Accepted agreements := by
  simp only [fullClean] at checked
  split at checked
  · cases checked
  · rename_i fields
    split at checked
    · cases checked
    · rename_i cross
      rw [check_eq_ok] at checked
      have columns := cleanFields_ok fields
      have between := clean_ok cross
      have table := validateConstraints_ok checked.2
      exact ⟨⟨columns.1, columns.2, table.2.1, table.2.2, between.1⟩,
        table.1, between.2⟩

theorem MSCAgreement.save_ok
    {agreement : MSCAgreement} {adding : Bool} {agents : List Uuid}
    {agreements after : List MSCAgreement}
    (saved : agreement.save adding agents agreements = .ok after) :
    agreement.Accepted agreements ∧
      (after = saveRow MSCAgreement.id agreement agreements ∧
          (∃ other ∈ agreements, other.id = agreement.id) ∨
        after = agreements ++ [agreement] ∧
          ∀ other ∈ agreements, other.id ≠ agreement.id) := by
  simp only [save] at saved
  split at saved
  · cases saved
  · rename_i checked
    refine ⟨accepted_of_fullClean checked, ?_⟩
    split at saved
    · rename_i present
      cases saved
      exact Or.inl ⟨rfl, present⟩
    · rename_i absent
      cases saved
      exact Or.inr ⟨rfl, fun other member same => absent ⟨other, member, same⟩⟩

/-! ## The table after any sequence of saves -/

/-- A call of `save`, with the ids in the agents' table at that time. -/
structure SaveCall where
  agreement : MSCAgreement
  adding : Bool
  agents : List Uuid

/-- Successful creates and edits, one after another, from the empty table. -/
def agreementSystem : TransitionSystem (List MSCAgreement) SaveCall where
  Init agreements := agreements = []
  Step agreements call after :=
    call.agreement.save call.adding call.agents agreements = .ok after

/-- Every agreement is well-formed and no two of one agent share an instant. -/
structure OneAtATime (agreements : List MSCAgreement) : Prop where
  ids : (agreements.map MSCAgreement.id).Nodup
  rates : ∀ agreement ∈ agreements, agreement.Rates
  proper : ∀ agreement ∈ agreements, agreement.period.Proper
  apart : ∀ first ∈ agreements, ∀ second ∈ agreements,
    first.id ≠ second.id → first.agentId = second.agentId →
      first.period.Apart second.period

theorem OneAtATime.empty : OneAtATime [] :=
  ⟨List.nodup_nil, by simp, by simp, by simp⟩

/-- An accepted agreement is apart from the others of its agent. -/
theorem OneAtATime.apart_of_accepted
    {agreements : List MSCAgreement} (held : OneAtATime agreements)
    {agreement other : MSCAgreement} (accepted : agreement.Accepted agreements)
    (member : other ∈ agreements) (otherId : other.id ≠ agreement.id)
    (sameAgent : other.agentId = agreement.agentId) :
    agreement.period.Apart other.period :=
  MSCAgreement.apart_of_not_overlapsWith accepted.proper (held.proper other member)
    (accepted.noOverlap other member sameAgent otherId)

/-- The invariant carries over to a table whose rows are the saved agreement
and earlier ones with other ids. -/
theorem OneAtATime.of_origin
    {agreements after : List MSCAgreement} (held : OneAtATime agreements)
    {agreement : MSCAgreement} (accepted : agreement.Accepted agreements)
    (ids : (after.map MSCAgreement.id).Nodup)
    (origin : ∀ row ∈ after,
      row = agreement ∨ row ∈ agreements ∧ row.id ≠ agreement.id) :
    OneAtATime after := by
  constructor
  · exact ids
  · intro row member
    rcases origin row member with rfl | ⟨earlier, _⟩
    · exact accepted.rates
    · exact held.rates row earlier
  · intro row member
    rcases origin row member with rfl | ⟨earlier, _⟩
    · exact accepted.proper
    · exact held.proper row earlier
  · intro first firstMember second secondMember different sameAgent
    rcases origin first firstMember with rfl | ⟨firstEarlier, firstOther⟩
    · rcases origin second secondMember with rfl | ⟨secondEarlier, secondOther⟩
      · exact absurd rfl different
      · exact held.apart_of_accepted accepted secondEarlier secondOther sameAgent.symm
    · rcases origin second secondMember with rfl | ⟨secondEarlier, secondOther⟩
      · exact (held.apart_of_accepted accepted firstEarlier firstOther sameAgent).symm
      · exact held.apart first firstEarlier second secondEarlier different sameAgent

/-- A save keeps the invariant, whichever end of a period it moves. -/
theorem OneAtATime.save
    {agreements after : List MSCAgreement} (held : OneAtATime agreements)
    {call : SaveCall}
    (saved : call.agreement.save call.adding call.agents agreements = .ok after) :
    OneAtATime after := by
  rcases MSCAgreement.save_ok saved with ⟨accepted, ⟨rfl, _⟩ | ⟨rfl, fresh⟩⟩
  · apply held.of_origin accepted
    · rw [keys_saveRow]
      exact held.ids
    · intro row member
      exact mem_saveRow member
  · apply held.of_origin accepted
    · rw [List.map_append, List.map_singleton]
      apply List.Nodup.append held.ids (List.nodup_singleton _)
      intro shared member single
      rcases List.mem_map.mp member with ⟨other, otherMember, rfl⟩
      exact fresh other otherMember (List.mem_singleton.mp single)
    · intro row member
      rcases List.mem_append.mp member with earlier | new
      · exact Or.inr ⟨earlier, fresh row earlier⟩
      · exact Or.inl (List.mem_singleton.mp new)

theorem oneAtATime_of_reachable
    {agreements : List MSCAgreement}
    (reached : agreementSystem.Reachable agreements) :
    OneAtATime agreements := by
  apply reached.invariant
  · rintro _ rfl
    exact .empty
  · intro before call after _ held saved
    exact held.save saved

/-! ## The agreement in force -/

/-- An agreement of the agent which applies at an instant. -/
def AppliesAt (agreements : List MSCAgreement) (agent : Agent) (now : Instant)
    (agreement : MSCAgreement) : Prop :=
  agreement ∈ agreements ∧ agreement.agentId = agent.id ∧
    agreement.isActiveAt now = true

/-- What `get_active_msc` returns applies. -/
theorem appliesAt_of_getActiveMsc
    {agreements : List MSCAgreement} {agent : Agent} {now : Instant}
    {msc : MSCAgreement} (found : getActiveMsc agreements agent now = .ok msc) :
    AppliesAt agreements agent now msc := by
  simp only [getActiveMsc] at found
  split at found
  · cases found
  · rename_i agreement first
    cases found
    have member := List.mem_of_mem_head? first
    rw [List.mem_insertionSort, List.mem_filter, selectedAt_iff] at member
    exact member

/-- `get_active_msc` raises exactly if nothing applies. -/
theorem getActiveMsc_eq_error
    {agreements : List MSCAgreement} {agent : Agent} {now : Instant}
    {error : NoActiveMSCAgreementError} :
    getActiveMsc agreements agent now = .error error ↔
      error = ⟨agent.id, now⟩ ∧ ∀ msc, ¬ AppliesAt agreements agent now msc := by
  constructor
  · intro raised
    simp only [getActiveMsc] at raised
    split at raised
    · rename_i nothing
      cases raised
      refine ⟨rfl, ?_⟩
      rintro msc ⟨member, applies⟩
      have selected : msc ∈ (agreements.filter (selectedAt agent now)).insertionSort
          fun left right => right.validFrom ≤ left.validFrom := by
        rw [List.mem_insertionSort, List.mem_filter, selectedAt_iff]
        exact ⟨member, applies⟩
      rw [List.head?_eq_none_iff.mp nothing] at selected
      cases selected
    · cases raised
  · rintro ⟨rfl, nothing⟩
    cases found : getActiveMsc agreements agent now with
    | ok msc => exact absurd (appliesAt_of_getActiveMsc found) (nothing msc)
    | error raised =>
        simp only [getActiveMsc] at found
        split at found
        · cases found
          rfl
        · cases found

/-- Two agreements which apply at one instant are the same. -/
theorem OneAtATime.unique
    {agreements : List MSCAgreement} (held : OneAtATime agreements)
    {agent : Agent} {now : Instant} {first second : MSCAgreement}
    (firstApplies : AppliesAt agreements agent now first)
    (secondApplies : AppliesAt agreements agent now second) :
    first = second := by
  rcases firstApplies with ⟨firstMember, firstAgent, firstActive⟩
  rcases secondApplies with ⟨secondMember, secondAgent, secondActive⟩
  by_cases sameId : first.id = second.id
  · exact List.inj_on_of_nodup_map held.ids firstMember secondMember sameId
  · have apart := held.apart first firstMember second secondMember sameId
      (firstAgent.trans secondAgent.symm)
    exact absurd ⟨MSCAgreement.isActiveAt_iff.mp firstActive,
      MSCAgreement.isActiveAt_iff.mp secondActive⟩ (apart now)

theorem OneAtATime.getActiveMsc_eq_ok
    {agreements : List MSCAgreement} (held : OneAtATime agreements)
    {agent : Agent} {now : Instant} {msc : MSCAgreement} :
    getActiveMsc agreements agent now = .ok msc ↔
      AppliesAt agreements agent now msc := by
  constructor
  · exact appliesAt_of_getActiveMsc
  · intro applies
    cases found : getActiveMsc agreements agent now with
    | ok other => rw [held.unique (appliesAt_of_getActiveMsc found) applies]
    | error raised => exact absurd applies ((getActiveMsc_eq_error.mp found).2 msc)

/-- In every table reached by successful creates and edits, the agreements of
one agent are half-open periods of which no two share an instant, the overlap
test finds the common instants, and `get_active_msc` returns the one agreement
which is active, or raises if there is none. -/
theorem one_agreement_at_a_time
    {agreements : List MSCAgreement}
    (reached : agreementSystem.Reachable agreements) :
    (agreements.Pairwise fun first second =>
      first.agentId = second.agentId → first.period.Apart second.period) ∧
    (∀ agreement ∈ agreements, agreement.period.Proper ∧
      ∀ time, agreement.isActiveAt time = true ↔ agreement.period.Contains time) ∧
    (∀ first ∈ agreements, ∀ second ∈ agreements,
      (first.overlapsWith second = true ↔
        ∃ time, first.isActiveAt time = true ∧ second.isActiveAt time = true)) ∧
    ∀ agent now,
      (∀ msc, getActiveMsc agreements agent now = .ok msc ↔
        AppliesAt agreements agent now msc ∧
          ∀ other, AppliesAt agreements agent now other → other = msc) ∧
      ((∃ error, getActiveMsc agreements agent now = .error error) ↔
        ∀ msc, ¬ AppliesAt agreements agent now msc) := by
  have held := oneAtATime_of_reachable reached
  refine ⟨?_, ?_, ?_, ?_⟩
  · have ids := List.pairwise_map.mp held.ids
    apply List.Pairwise.imp_of_mem _ ids
    intro first second firstMember secondMember different sameAgent
    exact held.apart first firstMember second secondMember different sameAgent
  · intro agreement member
    exact ⟨held.proper agreement member, fun time => MSCAgreement.isActiveAt_iff⟩
  · intro first firstMember second secondMember
    exact MSCAgreement.overlapsWith_iff_common (held.proper first firstMember)
      (held.proper second secondMember)
  · intro agent now
    constructor
    · intro msc
      rw [held.getActiveMsc_eq_ok]
      constructor
      · intro applies
        exact ⟨applies, fun other otherApplies => held.unique otherApplies applies⟩
      · exact fun both => both.1
    · constructor
      · rintro ⟨error, raised⟩
        exact (getActiveMsc_eq_error.mp raised).2
      · intro nothing
        exact ⟨⟨agent.id, now⟩, getActiveMsc_eq_error.mpr ⟨rfl, nothing⟩⟩

/-- An agreement of agent 1 with the given period. -/
def exampleAgreement (id : Uuid) (validFrom : Instant) (validTo : Option Instant) :
    MSCAgreement where
  id := id
  agentId := 1
  klikFeePerc := 1
  agentFeePerc := 2
  validFrom := validFrom
  validTo := validTo

/-- An open-ended agreement is ended, and one which starts at its end is
added. -/
theorem one_agreement_at_a_time_consecutive :
    [exampleAgreement 1 0 (some 10), exampleAgreement 2 10 none].Pairwise
      fun first second =>
        first.agentId = second.agentId → first.period.Apart second.period := by
  have create : agreementSystem.Step [] ⟨exampleAgreement 1 0 none, true, [1]⟩
      [exampleAgreement 1 0 none] := by
    show MSCAgreement.save _ _ _ _ = _
    decide +kernel
  have edit : agreementSystem.Step [exampleAgreement 1 0 none]
      ⟨exampleAgreement 1 0 (some 10), false, [1]⟩
      [exampleAgreement 1 0 (some 10)] := by
    show MSCAgreement.save _ _ _ _ = _
    decide +kernel
  have add : agreementSystem.Step [exampleAgreement 1 0 (some 10)]
      ⟨exampleAgreement 2 10 none, true, [1]⟩
      [exampleAgreement 1 0 (some 10), exampleAgreement 2 10 none] := by
    show MSCAgreement.save _ _ _ _ = _
    decide +kernel
  exact (one_agreement_at_a_time (.step (.step (.step (.init rfl) create) edit) add)).1

end Klik.Agents
