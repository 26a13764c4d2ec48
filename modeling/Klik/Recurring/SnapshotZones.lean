import Klik.Aliases.AliasZones
import Klik.Recurring.CreateView

/-!
# Zones of mandates

The lookup of a run compares no zones.  The number of the recipient is fixed
by the mandate, and an alias is in the zone of its number, so that a snapshot
names a bank of the zone in which the mandate was created.
-/

namespace Klik.Recurring

open Klik.Aliases
open Klik.Banks
open Klik.Common
open Klik.Lib

section Zones

variable (zoneOf : Uuid → Zone)

/-- The bank of the payer, the currency and the number of the recipient are in
the zone of a mandate. -/
structure RecurringTransfer.InZone (mandate : RecurringTransfer) : Prop where
  payer : zoneOf mandate.payerBank.id = mandate.zone
  currency : mandate.currency = zoneCurrency mandate.zone
  recipient : resolveZoneFromPhone mandate.recipientPhone = some mandate.zone

/-- The snapshot of an execution, if it has one, names a bank of the zone. -/
def RecurringExecution.SnapshotIn (zone : Zone) (execution : RecurringExecution) : Prop :=
  ∀ recipient, execution.lookupResponseSnapshot = some recipient →
    zoneOf recipient.bankId = zone

/-- A mandate and all its snapshots are in one zone. -/
structure RecurringDb.InZone (db : RecurringDb) : Prop where
  mandate : db.mandate.InZone zoneOf
  snapshots : ∀ execution ∈ db.executions, execution.SnapshotIn zoneOf db.mandate.zone

end Zones

variable {zoneOf : Uuid → Zone}

/-- The columns of a mandate which tell its zone. -/
def RecurringTransfer.terms (mandate : RecurringTransfer) :
    Bank × PyStr × Currency × Zone :=
  (mandate.payerBank, mandate.recipientPhone, mandate.currency, mandate.zone)

theorem terms_afterSuccess
    (now : DateTime) (executionId : Uuid) (mandate : RecurringTransfer) :
    (mandate.afterSuccess now executionId).1.terms = mandate.terms := by
  simp only [RecurringTransfer.afterSuccess]
  split
  · rfl
  · rfl

theorem terms_afterFailure
    (threshold : Int) (now : DateTime) (reason : ExecutionFailureReason)
    (mandate : RecurringTransfer) :
    (mandate.afterFailure threshold now reason).1.terms = mandate.terms := by
  simp only [RecurringTransfer.afterFailure]
  split
  · rfl
  · split
    · rfl
    · split
      · rfl
      · rfl

/-- A change which keeps the terms, and adds no snapshot. -/
theorem RecurringDb.InZone.of_terms
    {db after : RecurringDb} (inZone : db.InZone zoneOf)
    (terms : after.mandate.terms = db.mandate.terms)
    (executions : ∀ execution ∈ after.executions,
      execution.lookupResponseSnapshot = none ∨
        ∃ old ∈ db.executions,
          old.lookupResponseSnapshot = execution.lookupResponseSnapshot) :
    after.InZone zoneOf := by
  simp only [RecurringTransfer.terms, Prod.mk.injEq] at terms
  rcases terms with ⟨payer, phone, currency, zone⟩
  refine ⟨⟨?_, ?_, ?_⟩, ?_⟩
  · rw [payer, zone]
    exact inZone.mandate.payer
  · rw [currency, zone]
    exact inZone.mandate.currency
  · rw [phone, zone]
    exact inZone.mandate.recipient
  · intro execution member recipient snapshot
    rw [zone]
    rcases executions execution member with none | ⟨old, oldMember, same⟩
    · rw [none] at snapshot
      cases snapshot
    · exact inZone.snapshots old oldMember recipient (same.trans snapshot)

/-- The executions are the ones before. -/
theorem snapshots_same
    {executions : List RecurringExecution} :
    ∀ execution ∈ executions, execution.lookupResponseSnapshot = none ∨
      ∃ old ∈ executions,
        old.lookupResponseSnapshot = execution.lookupResponseSnapshot :=
  fun execution member => .inr ⟨execution, member, rfl⟩

/-- An execution is saved with the snapshot which it had. -/
theorem snapshots_saveRow
    {executions : List RecurringExecution} {old row : RecurringExecution}
    (member : old ∈ executions)
    (same : old.lookupResponseSnapshot = row.lookupResponseSnapshot) :
    ∀ execution ∈ saveRow RecurringExecution.id row executions,
      execution.lookupResponseSnapshot = none ∨
        ∃ old ∈ executions,
          old.lookupResponseSnapshot = execution.lookupResponseSnapshot := by
  intro execution saved
  right
  rcases mem_saveRow saved with rfl | ⟨other, _⟩
  · exact ⟨old, member, same⟩
  · exact ⟨execution, other, rfl⟩

/-! ## Blocks -/

theorem Claims.inZone
    {env : ScheduleEnv} {now : DateTime} {executionId : Uuid} {db : RecurringDb}
    {outcome : Outcome (Option RecurringExecution)}
    (claims : Claims env now executionId db outcome) (inZone : db.InZone zoneOf) :
    outcome.db.InZone zoneOf := by
  cases claims with
  | raised error => exact inZone
  | skipped inactive =>
      refine inZone.of_terms rfl ?_
      intro execution member
      rcases List.mem_map.mp member with ⟨old, oldMember, rfl⟩
      refine .inr ⟨old, oldMember, ?_⟩
      split
      · rfl
      · rfl
  | early before => exact inZone
  | ended active isOver => exact inZone.of_terms rfl snapshots_same
  | claimed next active due inTime fresh computed =>
      refine inZone.of_terms rfl ?_
      intro execution member
      rcases List.mem_append.mp member with old | new
      · exact snapshots_same execution old
      · rw [List.mem_singleton.mp new]
        exact .inl rfl

theorem Finalizes.inZone
    {env : RecurringEnv} {now : DateTime} {executionId : Uuid} {refused : Bool}
    {db : RecurringDb} {finalizer : Finalizer} {outcome : Outcome RecurringExecution}
    (finalizes : Finalizes env now executionId refused db finalizer outcome)
    (inZone : db.InZone zoneOf) :
    outcome.db.InZone zoneOf := by
  cases finalizes with
  | raised finalizer error => exact inZone
  | success rtpReference raw execution time found parsed storable carried =>
      apply inZone.of_terms (terms_afterSuccess now executionId db.mandate)
      exact snapshots_saveRow (mem_of_rowAt found).1 rfl
  | failure reason execution found carried =>
      apply inZone.of_terms (terms_afterFailure env.threshold now reason db.mandate)
      exact snapshots_saveRow (mem_of_rowAt found).1 rfl

theorem inZone_pause
    {request : MandateRequest} {db : RecurringDb} (inZone : db.InZone zoneOf) :
    (pause request db).db.InZone zoneOf := by
  rcases pause_cases request db with ⟨error, raised⟩ | ⟨_, carried⟩
  · rw [raised]
    exact inZone
  · rw [carried]
    exact inZone.of_terms rfl snapshots_same

theorem inZone_resume
    {env : ScheduleEnv} {request : MandateRequest} {db : RecurringDb}
    (inZone : db.InZone zoneOf) :
    (resume env request db).db.InZone zoneOf := by
  rcases resume_cases env request db with ⟨error, raised⟩ | ⟨next, _, _, _, carried⟩
  · rw [raised]
    exact inZone
  · rw [carried]
    exact inZone.of_terms rfl snapshots_same

theorem inZone_cancel
    {request : MandateRequest} {db : RecurringDb} (inZone : db.InZone zoneOf) :
    (cancel request db).db.InZone zoneOf := by
  rcases cancel_cases request db with ⟨error, raised⟩ | ⟨_, carried⟩
  · rw [raised]
    exact inZone
  · rw [carried]
    exact inZone.of_terms rfl snapshots_same

/-- The snapshot of a lookup in the zone is in the zone. -/
theorem inZone_saveSnapshot
    {db : RecurringDb} (inZone : db.InZone zoneOf) (executionId : Uuid)
    {recipient : Recipient} (own : zoneOf recipient.bankId = db.mandate.zone) :
    (db.saveSnapshot executionId recipient).InZone zoneOf := by
  simp only [RecurringDb.saveSnapshot]
  split
  · exact inZone
  · refine ⟨inZone.mandate, ?_⟩
    intro execution member
    rcases mem_saveRow member with rfl | ⟨other, _⟩
    · rintro found same
      cases same
      exact own
    · exact inZone.snapshots execution other

/-! ## Steps -/

/-- A step keeps to the zone of the mandate if its lookup does. -/
theorem RecurringDb.InZone.step
    {env : RecurringEnv} {state after : MandateState} {action : MandateAction}
    (inZone : state.db.InZone zoneOf)
    (lookup : ∀ index recipient, action = .lookUp index (some recipient) →
      zoneOf recipient.bankId = state.db.mandate.zone)
    (moved : mandateStep env state action = some after) :
    after.db.InZone zoneOf := by
  cases action with
  | tick clock =>
      simp only [mandateStep] at moved
      split at moved
      · cases moved
      · cases moved
        exact inZone
  | dispatch now =>
      simp only [mandateStep] at moved
      split at moved
      · cases moved
        simp only [MandateState.dispatched]
        split
        · exact inZone
        · exact inZone
      · cases moved
  | startRun now executionId refused =>
      simp only [mandateStep] at moved
      split at moved
      · cases moved
        exact (claims_claimExecution env.schedule now executionId refused
          state.db).inZone inZone
      · cases moved
  | startRetry executionId retries =>
      cases moved
      simp only [MandateState.retryStarted]
      split
      · exact inZone
      · split
        · exact inZone
        · exact inZone
  | lookUp index alias_ =>
      simp only [mandateStep] at moved
      split at moved
      · rename_i attempt _
        split at moved
        · cases moved
          cases alias_ with
          | none => exact inZone
          | some recipient =>
              exact inZone_saveSnapshot inZone attempt.executionId
                (lookup index recipient rfl)
        · cases moved
      · cases moved
  | callBank index answer =>
      simp only [mandateStep] at moved
      split at moved
      · split at moved
        · cases moved
          simp only [MandateState.bankCalled]
          split
          · exact inZone
          · exact inZone
        · cases moved
      · cases moved
  | finalize index now refused =>
      simp only [mandateStep] at moved
      split at moved
      · rename_i attempt _
        split at moved
        · rename_i finalizer _
          split at moved
          · cases moved
            exact (finalizes_finalize env now attempt.executionId finalizer refused
              state.db).inZone inZone
          · cases moved
        · cases moved
      · cases moved
  | pause request =>
      simp only [mandateStep] at moved
      split at moved
      · cases moved
        exact inZone_pause inZone
      · cases moved
  | resume request =>
      simp only [mandateStep] at moved
      split at moved
      · cases moved
        exact inZone_resume inZone
      · cases moved
  | cancel request =>
      simp only [mandateStep] at moved
      split at moved
      · cases moved
        exact inZone_cancel inZone
      · cases moved

/-- A created mandate is in one zone. -/
theorem Creates.inZone
    {env : RecurringEnv} {request : CreateRequest} {aliases : List Alias}
    {mandate : RecurringTransfer}
    (creates : Creates env request aliases mandate)
    (bank : request.bank.Zoned zoneOf) (inZone : ∀ row ∈ aliases, row.InZone zoneOf) :
    RecurringDb.InZone zoneOf ⟨mandate, []⟩ := by
  rcases creates.recipient with ⟨row, member, phone, zone⟩
  refine ⟨⟨?_, creates.currency, ?_⟩, ?_⟩
  · rw [creates.bank, creates.zone]
    exact bank.symm
  · rw [← phone, ← zone]
    exact (inZone row member).phone
  · intro execution none
    exact absurd none List.not_mem_nil

end Klik.Recurring
