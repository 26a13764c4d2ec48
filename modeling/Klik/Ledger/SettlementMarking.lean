import Klik.Ledger.SettlementSteps

/-!
# What `mark_settled` does

Every item of the results answers one transfer and, when it is a success,
marks the entries between the two banks of that transfer.  The loop over all
items is one pass over the transfers and one pass over the entries.
-/

namespace Klik.Ledger

open Klik.Common
open Klik.Ledger.Rtgs
open Klik.Lib

/-! ## One pass over the entries -/

theorem markIf_of_false
    {sessionId : Uuid} {now : Instant} {condition : LedgerEntry → Bool}
    {entry : LedgerEntry}
    (unmarked : (entry.isOpenIn sessionId && condition entry) = false) :
    entry.markIf sessionId now condition = entry := by
  simp only [LedgerEntry.markIf]
  rw [if_neg (by simp [unmarked])]

/-- Marking twice is marking under either condition. -/
theorem markIf_markIf
    (sessionId : Uuid) (now : Instant)
    (first second : LedgerEntry → Bool) (entry : LedgerEntry) :
    (entry.markIf sessionId now first).markIf sessionId now second =
      entry.markIf sessionId now fun entry => first entry || second entry := by
  cases selected : entry.isOpenIn sessionId && first entry with
  | false =>
      rw [markIf_of_false selected]
      simp only [LedgerEntry.markIf]
      cases opened : entry.isOpenIn sessionId with
      | false => simp
      | true =>
          rw [opened, Bool.true_and] at selected
          simp [selected]
  | true =>
      have marked :
          entry.markIf sessionId now first =
            { entry with settled := true, settledAt := some now } := by
        simp only [LedgerEntry.markIf]
        rw [if_pos selected]
      have closed :
          (entry.markIf sessionId now first).isOpenIn sessionId = false := by
        rw [marked]
        simp [LedgerEntry.isOpenIn]
      rw [markIf_of_false (by simp [closed]), marked]
      simp only [Bool.and_eq_true] at selected
      simp only [LedgerEntry.markIf]
      rw [if_pos (by simp [selected.1, selected.2])]

/-! ## One pass over the transfers -/

/-- Effect of one item of the results on a transfer. -/
def answer
    (sessionId : Uuid) (now : Instant)
    (result : Uuid × SettlementTransferStatus) (row : SettlementTransfer) :
    SettlementTransfer :=
  if row.id = result.1 ∧ row.session = sessionId then
    if result.2 = .completed then
      { row with status := .completed, completedAt := some now }
    else { row with status := .failed }
  else row

@[simp]
theorem answer_id
    (sessionId : Uuid) (now : Instant)
    (result : Uuid × SettlementTransferStatus) (row : SettlementTransfer) :
    (answer sessionId now result row).id = row.id := by
  simp only [answer]
  split
  · split <;> rfl
  · rfl

@[simp]
theorem answer_session
    (sessionId : Uuid) (now : Instant)
    (result : Uuid × SettlementTransferStatus) (row : SettlementTransfer) :
    (answer sessionId now result row).session = row.session := by
  simp only [answer]
  split
  · split <;> rfl
  · rfl

@[simp]
theorem answer_net
    (sessionId : Uuid) (now : Instant)
    (result : Uuid × SettlementTransferStatus) (row : SettlementTransfer) :
    (answer sessionId now result row).net = row.net := by
  simp only [answer]
  split
  · split <;> rfl
  · rfl

/-- Whether a transfer goes from the payer to the payee of an entry. -/
def SettlementTransfer.joins
    (transfer : SettlementTransfer) (entry : LedgerEntry) : Bool :=
  entry.fromBankId = transfer.net.fromBankId
    && entry.toBankId = transfer.net.toBankId

@[simp]
theorem joins_answer
    (sessionId : Uuid) (now : Instant)
    (result : Uuid × SettlementTransferStatus) (row : SettlementTransfer)
    (entry : LedgerEntry) :
    (answer sessionId now result row).joins entry = row.joins entry := by
  simp only [SettlementTransfer.joins, answer_net]

/-- Whether an item of the results marks an entry. -/
def marks
    (transfers : List SettlementTransfer) (sessionId : Uuid) (entry : LedgerEntry)
    (result : Uuid × SettlementTransferStatus) : Bool :=
  result.2 = .completed && transfers.any fun row =>
    row.id = result.1 && row.session = sessionId && row.joins entry

/-- Whether an item of the results sets `any_failed`. -/
def fails
    (transfers : List SettlementTransfer) (sessionId : Uuid)
    (result : Uuid × SettlementTransferStatus) : Bool :=
  result.2 ≠ .completed || !transfers.any fun row =>
    row.id = result.1 && row.session = sessionId

theorem marks_answered
    (transfers : List SettlementTransfer) (sessionId : Uuid) (now : Instant)
    (earlier : Uuid × SettlementTransferStatus) :
    marks (transfers.map (answer sessionId now earlier)) sessionId =
      marks transfers sessionId := by
  funext entry result
  simp only [marks, List.any_map, Function.comp_def, answer_id, answer_session,
    joins_answer]

theorem fails_answered
    (transfers : List SettlementTransfer) (sessionId : Uuid) (now : Instant)
    (earlier : Uuid × SettlementTransferStatus) :
    fails (transfers.map (answer sessionId now earlier)) sessionId =
      fails transfers sessionId := by
  funext result
  simp only [fails, List.any_map, Function.comp_def, answer_id, answer_session]

theorem ids_answered
    (transfers : List SettlementTransfer) (sessionId : Uuid) (now : Instant)
    (earlier : Uuid × SettlementTransferStatus) :
    (transfers.map (answer sessionId now earlier)).map SettlementTransfer.id =
      transfers.map SettlementTransfer.id := by
  rw [List.map_map]
  apply List.map_congr_left
  intro row _
  exact answer_id sessionId now earlier row

/-- Rows with one id are one row. -/
theorem eq_of_id_eq
    {transfers : List SettlementTransfer}
    (nodup : (transfers.map SettlementTransfer.id).Nodup)
    {left right : SettlementTransfer}
    (leftMember : left ∈ transfers) (rightMember : right ∈ transfers)
    (same : left.id = right.id) :
    left = right :=
  List.inj_on_of_nodup_map nodup leftMember rightMember same

/-- One round of the loop of `mark_settled`. -/
theorem applyResult_eq
    {db : LedgerDb} (nodup : (db.transfers.map SettlementTransfer.id).Nodup)
    (sessionId : Uuid) (now : Instant) (anyFailed : Bool)
    (result : Uuid × SettlementTransferStatus) :
    applyResult sessionId now (db, anyFailed) result =
      ({ db with
          transfers := db.transfers.map (answer sessionId now result)
          entries := db.entries.map (LedgerEntry.markIf sessionId now
            fun entry => marks db.transfers sessionId entry result) },
        anyFailed || fails db.transfers sessionId result) := by
  simp only [applyResult]
  cases found : db.getTransfer result.1 sessionId with
  | none =>
      have absent : ∀ row ∈ db.transfers,
          ¬ (row.id = result.1 ∧ row.session = sessionId) := by
        intro row member
        have refused := List.find?_eq_none.mp found row member
        simpa using refused
      have known : (db.transfers.any fun row =>
          row.id = result.1 && row.session = sessionId) = false := by
        rw [List.any_eq_false]
        intro row member
        simpa using absent row member
      have unanswered : db.transfers.map (answer sessionId now result) =
          db.transfers := by
        rw [List.map_congr_left (g := id), List.map_id]
        intro row member
        exact if_neg (absent row member)
      have unmarked : db.entries.map (LedgerEntry.markIf sessionId now
          fun entry => marks db.transfers sessionId entry result) =
            db.entries := by
        rw [List.map_congr_left (g := id), List.map_id]
        intro entry _
        apply markIf_of_false
        have none : marks db.transfers sessionId entry result = false := by
          simp only [marks, Bool.and_eq_false_iff]
          right
          rw [List.any_eq_false]
          intro row member selected
          simp only [Bool.and_eq_true, decide_eq_true_eq] at selected
          exact absent row member selected.1
        simp [none]
      simp [unanswered, unmarked, fails, known]
  | some transfer =>
      have member : transfer ∈ db.transfers := List.mem_of_find?_eq_some found
      have selected := List.find?_some found
      simp only [Bool.and_eq_true, decide_eq_true_eq] at selected
      have hit : ∀ row ∈ db.transfers,
          (row.id = result.1 ∧ row.session = sessionId) ↔ row.id = transfer.id := by
        intro row rowMember
        constructor
        · intro both
          rw [both.1, selected.1]
        · intro same
          rw [eq_of_id_eq nodup rowMember member same]
          exact selected
      have known : (db.transfers.any fun row =>
          row.id = result.1 && row.session = sessionId) = true := by
        rw [List.any_eq_true]
        exact ⟨transfer, member, by simp [selected]⟩
      have joined : ∀ entry : LedgerEntry,
          (db.transfers.any fun row =>
            row.id = result.1 && row.session = sessionId && row.joins entry) =
              transfer.joins entry := by
        intro entry
        rw [Bool.eq_iff_iff, List.any_eq_true]
        constructor
        · rintro ⟨row, rowMember, chosen⟩
          simp only [Bool.and_eq_true, decide_eq_true_eq] at chosen
          rw [← eq_of_id_eq nodup rowMember member
            ((hit row rowMember).mp chosen.1)]
          exact chosen.2
        · intro joins
          exact ⟨transfer, member, by simp [selected, joins]⟩
      by_cases success : result.2 = .completed
      · simp only [success, if_true]
        congr 1
        · simp only [LedgerDb.updateTransfer]
          congr 1
          · have paid : ∀ entry : LedgerEntry,
                marks db.transfers sessionId entry result =
                  (decide (entry.fromBankId = transfer.fromBankId) &&
                    decide (entry.toBankId = transfer.toBankId)) := by
              intro entry
              simp only [marks, joined, success]
              rfl
            simp only [paid]
          · apply List.map_congr_left
            intro row rowMember
            simp only [answer, hit row rowMember, success, if_true]
        · simp [fails, success, known]
      · simp only [success, if_false]
        congr 1
        · simp only [LedgerDb.updateTransfer]
          congr 1
          · symm
            rw [List.map_congr_left (g := id), List.map_id]
            intro entry _
            apply markIf_of_false
            simp [marks, success]
          · apply List.map_congr_left
            intro row rowMember
            simp only [answer, hit row rowMember, success, if_false]
        · simp [fails, success]

/-- The whole loop of `mark_settled`. -/
theorem foldl_applyResult_eq
    (results : List (Uuid × SettlementTransferStatus))
    {db : LedgerDb} (nodup : (db.transfers.map SettlementTransfer.id).Nodup)
    (sessionId : Uuid) (now : Instant) (anyFailed : Bool) :
    results.foldl (applyResult sessionId now) (db, anyFailed) =
      ({ db with
          transfers := db.transfers.map fun row =>
            results.foldl (fun row result => answer sessionId now result row) row
          entries := db.entries.map (LedgerEntry.markIf sessionId now
            fun entry => results.any (marks db.transfers sessionId entry)) },
        anyFailed || results.any (fails db.transfers sessionId)) := by
  induction results generalizing db anyFailed with
  | nil =>
      have unmarked : db.entries.map
          (LedgerEntry.markIf sessionId now fun _ => false) = db.entries := by
        rw [List.map_congr_left (g := id), List.map_id]
        intro entry _
        exact markIf_of_false (by simp)
      simp [unmarked]
  | cons result rest induction =>
      rw [List.foldl_cons, applyResult_eq nodup, induction]
      · simp only [List.map_map, marks_answered, fails_answered, List.foldl_cons,
          List.any_cons, Bool.or_assoc]
        congr 2
        · apply List.map_congr_left
          intro entry _
          exact markIf_markIf sessionId now _ _ entry
      · exact (ids_answered _ sessionId now result).symm ▸ nodup

/-! ## Results which answer every transfer once -/

/-- A transfer is answered by the item with its id. -/
theorem foldl_answer_of_mem
    {results : List (Uuid × SettlementTransferStatus)}
    (distinct : (results.map Prod.fst).Nodup)
    {row : SettlementTransfer} {status : SettlementTransferStatus}
    (listed : (row.id, status) ∈ results)
    (sessionId : Uuid) (now : Instant) :
    results.foldl (fun row result => answer sessionId now result row) row =
      answer sessionId now (row.id, status) row := by
  have skipped : ∀ (others : List (Uuid × SettlementTransferStatus))
      (other : SettlementTransfer), other.id ∉ others.map Prod.fst →
        others.foldl (fun row result => answer sessionId now result row) other =
          other := by
    intro others
    induction others with
    | nil => intro other _; rfl
    | cons item rest induction =>
        intro other absent
        rw [List.map_cons, List.mem_cons, not_or] at absent
        have untouched : answer sessionId now item other = other :=
          if_neg fun both => absent.1 both.1
        rw [List.foldl_cons, untouched]
        exact induction other absent.2
  induction results with
  | nil => cases listed
  | cons item rest induction =>
      rw [List.map_cons, List.nodup_cons] at distinct
      rw [List.foldl_cons]
      rcases List.mem_cons.mp listed with rfl | inRest
      · rw [skipped]
        rw [answer_id]
        exact distinct.1
      · have untouched : answer sessionId now item row = row := by
          apply if_neg
          intro both
          exact distinct.1 (both.1 ▸ List.mem_map_of_mem inRest)
        rw [untouched]
        exact induction distinct.2 inRest

/-- Whether some completed transfer joins the banks of an entry. -/
def pairSettled (made : List SettlementTransfer) (entry : LedgerEntry) : Bool :=
  made.any fun row => row.status = .completed && row.joins entry

/-- Whether the end of a session settles one of its entries. -/
def settles
    (row : SettlementSession) (made : List SettlementTransfer)
    (entry : LedgerEntry) : Bool :=
  row.status = .completed || pairSettled made entry

/-- Status of a session whose transfers ended as given. -/
def endStatus (made : List SettlementTransfer) : SettlementSessionStatus :=
  if made.all fun row => row.status = .completed then .completed else .failed

/-- The rows `ended` are the rows `made`, each completed or failed. -/
structure Ended (made ended : List SettlementTransfer) : Prop where
  ids : ended.map SettlementTransfer.id = made.map SettlementTransfer.id
  nets : ended.map SettlementTransfer.net = made.map SettlementTransfer.net
  sessions : ended.map SettlementTransfer.session = made.map SettlementTransfer.session
  status : ∀ row ∈ ended, row.status = .completed ∨ row.status = .failed

theorem LedgerDb.Owns.congr
    {db : LedgerDb} {made other : List SettlementTransfer}
    (owned : db.Owns made)
    (ids : other.map SettlementTransfer.id = made.map SettlementTransfer.id)
    (sessions :
      other.map SettlementTransfer.session = made.map SettlementTransfer.session) :
    db.Owns other where
  nodup := ids ▸ owned.nodup
  later := by
    intro row member
    have listed : row.id ∈ made.map SettlementTransfer.id :=
      ids ▸ List.mem_map_of_mem member
    rcases List.mem_map.mp listed with ⟨same, sameMember, sameId⟩
    rw [← sameId]
    exact owned.later same sameMember
  session := by
    intro row member
    have listed : row.session ∈ made.map SettlementTransfer.session :=
      sessions ▸ List.mem_map_of_mem member
    rcases List.mem_map.mp listed with ⟨same, sameMember, sameSession⟩
    rw [← sameSession]
    exact owned.session same sameMember

theorem LedgerDb.extend_nodup
    {db : LedgerDb} (wellFormed : db.WellFormed)
    {made : List SettlementTransfer} (owned : db.Owns made)
    (entries : List LedgerEntry) (row : SettlementSession) :
    ((db.extend entries row made).transfers.map SettlementTransfer.id).Nodup := by
  simp only [LedgerDb.extend, List.map_append]
  apply List.Nodup.append wellFormed.transfer_nodup owned.nodup
  intro id older newer
  rcases List.mem_map.mp older with ⟨old, oldMember, rfl⟩
  rcases List.mem_map.mp newer with ⟨new, newMember, same⟩
  have before := wellFormed.transfer_ids old oldMember
  have after := owned.later new newMember
  rw [same] at after
  exact Nat.not_lt_of_le after before

/-- Transfers of other sessions keep what they have. -/
theorem foldl_answer_of_other
    (results : List (Uuid × SettlementTransferStatus))
    {row : SettlementTransfer} {sessionId : Uuid}
    (other : row.session ≠ sessionId) (now : Instant) :
    results.foldl (fun row result => answer sessionId now result row) row = row := by
  induction results with
  | nil => rfl
  | cons item rest induction =>
      have untouched : answer sessionId now item row = row :=
        if_neg fun both => other both.2
      rw [List.foldl_cons, untouched]
      exact induction

/-- The transfers of a session after all items of the results. -/
def answerAll
    (sessionId : Uuid) (now : Instant)
    (results : List (Uuid × SettlementTransferStatus))
    (made : List SettlementTransfer) : List SettlementTransfer :=
  made.map fun row =>
    results.foldl (fun row result => answer sessionId now result row) row

section Results

variable {db : LedgerDb} {made : List SettlementTransfer}
variable {results : InsertionDict Uuid SettlementTransferStatus}

theorem answerAll_row
    (owned : db.Owns made)
    (distinct : results.keys.Nodup)
    (covers : ∀ id, id ∈ results.keys ↔ id ∈ made.map SettlementTransfer.id)
    (now : Instant)
    {row : SettlementTransfer} (member : row ∈ made) :
    let ended :=
      results.foldl
        (fun row result => answer db.sessions.length now result row) row
    ended.id = row.id ∧ ended.net = row.net ∧ ended.session = row.session ∧
      (ended.status = .completed ∨ ended.status = .failed) ∧
        (ended.status = .completed ↔ (row.id, .completed) ∈ results) := by
  have key := (covers row.id).mpr (List.mem_map_of_mem member)
  rcases List.mem_map.mp key with ⟨⟨id, status⟩, listed, rfl⟩
  have unique : ∀ other, (row.id, other) ∈ results → other = status := by
    intro other otherListed
    have first := (InsertionDict.get?_eq_some_iff distinct row.id status).mpr listed
    have second :=
      (InsertionDict.get?_eq_some_iff distinct row.id other).mpr otherListed
    exact Option.some.inj (second.symm.trans first)
  simp only [foldl_answer_of_mem distinct listed, answer_id, answer_net,
    answer_session, true_and]
  unfold answer
  rw [if_pos ⟨rfl, owned.session row member⟩]
  by_cases success : status = .completed
  · rw [if_pos success]
    subst success
    exact ⟨Or.inl rfl, iff_of_true rfl listed⟩
  · rw [if_neg success]
    refine ⟨Or.inr rfl, iff_of_false (by simp) ?_⟩
    intro completed
    exact success (unique _ completed).symm

theorem ended_answerAll
    (owned : db.Owns made)
    (distinct : results.keys.Nodup)
    (covers : ∀ id, id ∈ results.keys ↔ id ∈ made.map SettlementTransfer.id)
    (now : Instant) :
    Ended made (answerAll db.sessions.length now results made) where
  ids := by
    rw [answerAll, List.map_map]
    exact List.map_congr_left fun row member =>
      (answerAll_row owned distinct covers now member).1
  nets := by
    rw [answerAll, List.map_map]
    exact List.map_congr_left fun row member =>
      (answerAll_row owned distinct covers now member).2.1
  sessions := by
    rw [answerAll, List.map_map]
    exact List.map_congr_left fun row member =>
      (answerAll_row owned distinct covers now member).2.2.1
  status := by
    intro row member
    rcases List.mem_map.mp member with ⟨old, oldMember, rfl⟩
    exact (answerAll_row owned distinct covers now oldMember).2.2.2.1

/-- The items of the results mark the pairs of the completed transfers. -/
theorem any_marks_eq
    (wellFormed : db.WellFormed)
    (owned : db.Owns made)
    (distinct : results.keys.Nodup)
    (covers : ∀ id, id ∈ results.keys ↔ id ∈ made.map SettlementTransfer.id)
    (now : Instant) (entry : LedgerEntry) :
    results.any (marks (db.transfers ++ made) db.sessions.length entry) =
      pairSettled (answerAll db.sessions.length now results made) entry := by
  rw [Bool.eq_iff_iff, List.any_eq_true, pairSettled, List.any_eq_true]
  constructor
  · rintro ⟨⟨id, status⟩, listed, marking⟩
    simp only [marks, Bool.and_eq_true, decide_eq_true_eq, List.any_eq_true]
      at marking
    rcases marking with ⟨rfl, row, rowMember, ⟨rfl, here⟩, joins⟩
    rcases List.mem_append.mp rowMember with old | new
    · exact absurd here (wellFormed.transfer_session row old).ne
    · have facts := answerAll_row owned distinct covers now new
      refine ⟨_, List.mem_map_of_mem new, ?_⟩
      simp only [SettlementTransfer.joins, facts.2.1, Bool.and_eq_true,
        decide_eq_true_eq]
      exact ⟨facts.2.2.2.2.mpr listed, by
        simpa [SettlementTransfer.joins] using joins⟩
  · rintro ⟨row, rowMember, marked⟩
    rcases List.mem_map.mp rowMember with ⟨old, oldMember, rfl⟩
    have facts := answerAll_row owned distinct covers now oldMember
    simp only [SettlementTransfer.joins, facts.2.1, Bool.and_eq_true,
      decide_eq_true_eq] at marked
    refine ⟨(old.id, .completed), facts.2.2.2.2.mp marked.1, ?_⟩
    simp only [marks, Bool.and_eq_true, decide_eq_true_eq, List.any_eq_true]
    refine ⟨trivial, old, List.mem_append_right _ oldMember,
      ⟨rfl, owned.session old oldMember⟩, ?_⟩
    simp [SettlementTransfer.joins, marked.2]

/-- The flag is set exactly when some transfer is not completed. -/
theorem any_fails_eq
    (owned : db.Owns made)
    (distinct : results.keys.Nodup)
    (covers : ∀ id, id ∈ results.keys ↔ id ∈ made.map SettlementTransfer.id)
    (now : Instant) :
    results.any (fails (db.transfers ++ made) db.sessions.length) =
      !(answerAll db.sessions.length now results made).all
        fun row => row.status = .completed := by
  rw [Bool.eq_iff_iff, List.any_eq_true, Bool.not_eq_true', List.all_eq_false]
  constructor
  · rintro ⟨⟨id, status⟩, listed, failing⟩
    have key : id ∈ results.keys := List.mem_map_of_mem listed
    rcases List.mem_map.mp ((covers id).mp key) with ⟨row, member, rfl⟩
    have facts := answerAll_row owned distinct covers now member
    have known : ((db.transfers ++ made).any fun other =>
        other.id = row.id && other.session = db.sessions.length) = true := by
      rw [List.any_eq_true]
      exact ⟨row, List.mem_append_right _ member, by
        simp [owned.session row member]⟩
    refine ⟨_, List.mem_map_of_mem member, ?_⟩
    simp only [fails, known, Bool.not_true, Bool.or_false, decide_eq_true_eq]
      at failing
    simp only [decide_eq_true_eq, facts.2.2.2.2]
    intro completed
    have first := (InsertionDict.get?_eq_some_iff distinct row.id status).mpr listed
    have second :=
      (InsertionDict.get?_eq_some_iff distinct row.id _).mpr completed
    exact failing (Option.some.inj (first.symm.trans second))
  · rintro ⟨row, rowMember, notCompleted⟩
    rcases List.mem_map.mp rowMember with ⟨old, oldMember, rfl⟩
    have facts := answerAll_row owned distinct covers now oldMember
    simp only [decide_eq_true_eq, facts.2.2.2.2] at notCompleted
    rcases List.mem_map.mp ((covers old.id).mpr (List.mem_map_of_mem oldMember))
      with ⟨⟨id, status⟩, listed, rfl⟩
    refine ⟨_, listed, ?_⟩
    have failure : status ≠ .completed := by
      rintro rfl
      exact notCompleted listed
    simp [fails, failure]

/-- `mark_settled` with results for exactly the transfers of the session. -/
theorem markSettled_extend
    (wellFormed : db.WellFormed)
    {session : SettlementSession} (last : session.id = db.sessions.length)
    (settling : session.status = .settling)
    (owned : db.Owns made)
    (distinct : results.keys.Nodup)
    (covers : ∀ id, id ∈ results.keys ↔ id ∈ made.map SettlementTransfer.id)
    (entries : List LedgerEntry) (now : Instant) :
    let ended := answerAll db.sessions.length now results made
    let row := session.endedWith (endStatus ended) now
    markSettled session results now (db.extend entries session made) =
      .ok (row,
        db.extend
          (entries.map
            (LedgerEntry.markIf db.sessions.length now (settles row ended)))
          row ended) := by
  intro ended row
  have older : db.transfers.map (fun row =>
      results.foldl (fun row result =>
        answer db.sessions.length now result row) row) = db.transfers := by
    rw [List.map_congr_left (g := id), List.map_id]
    intro old member
    exact foldl_answer_of_other results
      (wellFormed.transfer_session old member).ne now
  have loop :
      results.foldl (applyResult session.id now)
          (db.extend entries session made, false) =
        (db.extend
          (entries.map
            (LedgerEntry.markIf db.sessions.length now (pairSettled ended)))
          session ended,
          !ended.all fun row => row.status = .completed) := by
    rw [foldl_applyResult_eq results
      (LedgerDb.extend_nodup wellFormed owned entries session), last]
    simp only [LedgerDb.extend, List.map_append, older, Bool.false_or,
      any_marks_eq wellFormed owned distinct covers now,
      any_fails_eq owned distinct covers now]
    rfl
  simp only [markSettled]
  rw [if_neg (by simp [settling]), loop]
  cases succeeded : ended.all fun row => row.status = .completed with
  | false =>
      have status : endStatus ended = .failed := by simp [endStatus, succeeded]
      have condition : settles row ended = pairSettled ended := by
        funext entry
        simp [settles, row, SettlementSession.endedWith, status]
      have shape := LedgerDb.updateSession_extend wellFormed
        (entries.map
          (LedgerEntry.markIf db.sessions.length now (pairSettled ended)))
        ended last (SettlementSession.endedWith .failed now)
      simp only [Bool.not_false, if_true, shape, condition]
      simp only [row, status]
  | true =>
      have status : endStatus ended = .completed := by simp [endStatus, succeeded]
      have condition : settles row ended = fun _ => true := by
        funext entry
        simp [settles, row, SettlementSession.endedWith, status]
      have marked :
          (entries.map
            (LedgerEntry.markIf db.sessions.length now (pairSettled ended))).map
              (LedgerEntry.markIf session.id now fun _ => true) =
            entries.map
              (LedgerEntry.markIf db.sessions.length now fun _ => true) := by
        rw [List.map_map, last]
        apply List.map_congr_left
        intro entry _
        simp only [Function.comp_def, markIf_markIf, Bool.or_true]
      have shape := LedgerDb.updateSession_extend wellFormed
        (entries.map
          (LedgerEntry.markIf db.sessions.length now fun _ => true))
        ended last (SettlementSession.endedWith .completed now)
      simp only [LedgerDb.extend] at marked shape ⊢
      simp only [Bool.not_true, Bool.false_eq_true, if_false, marked, shape,
        condition]
      simp only [row, status]

end Results

end Klik.Ledger
