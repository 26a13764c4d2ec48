import Klik.Cheques.ChequeEvents

/-!
# Redeeming as a whole

The block of a redeem request is carried out or leaves no trace.  Its ledger
entries are booked after the commit, and an error there is swallowed: whether
the request is whole depends on the booking.
-/

namespace Klik.Cheques

open Klik.Agents
open Klik.Banks
open Klik.Codes
open Klik.Common
open Klik.Ledger
open Klik.Lib

/-! ## What is claimed -/

/-- The row of a cheque and its payment are committed. -/
structure Redemption.Committed (redemption : Redemption) (db : ChequeDb) : Prop where
  cheque : rowAt Cheque.id db.cheques redemption.cheque.id = some redemption.cheque
  redeemed : redemption.cheque.status = .redeemed
  linked : redemption.cheque.transaction = some redemption.transaction.id
  payment : rowAt Transaction.id db.transactions redemption.transaction.id =
    some redemption.transaction
  completed : redemption.transaction.status = .completed

/-- The block of a redeem request raises and leaves every table, or commits a
redemption and nothing else. -/
inductive BlockWhole (request : RedeemRequest) (db : ChequeDb) : Prop where
  | failed (error : ChequeError)
      (result : (redeem request db).result = .error error)
      (unchanged : (redeem request db).db = db)
  | committed (redemption : Redemption)
      (result : (redeem request db).result = .ok redemption)
      (committed : redemption.Committed (redeem request db).db)
      (cheques : (redeem request db).db.cheques =
        saveRow Cheque.id redemption.cheque db.cheques)
      (transactions : (redeem request db).db.transactions =
        db.transactions ++ [redemption.transaction])
      (entries : (redeem request db).db.entries = db.entries)

/-- After the request its redemption is committed, and exactly the entries of
its payment were booked. -/
structure RedeemedWhole
    (banks : List Bank) (redemption : Redemption) (before after : ChequeDb) : Prop where
  committed : redemption.Committed after
  booked : after.entries = before.entries ++ c2bRows banks redemption.transaction

/-- The entries of a payment are in the ledger; one which is not within a bank
has some. -/
structure Booked (tx : Transaction) (entries : List LedgerEntry) : Prop where
  rows : ∃ banks before after, entries = before ++ c2bRows banks tx ++ after
  offUs : tx.isOnUs = false → entriesOf tx.idempotencyKey entries ≠ []

/-- Every redeemed cheque has a completed payment, and unless its request still
has to book this, the entries of the payment. -/
def RedeemedBooked (state : ChequeState) : Prop :=
  ∀ cheque ∈ state.db.cheques, cheque.status = .redeemed →
    ∃ tx, (⟨cheque, tx⟩ : Redemption).Committed state.db ∧
      (⟨cheque, tx⟩ ∈ state.redemptions ∨ Booked tx state.db.entries)

/-! ## When it holds -/

/-- The drafts of the entries of a payment. -/
def draftsOf (banks : List Bank) (tx : Transaction) : List EntryDraft :=
  match tx.merchantNet, tx.klikFee, tx.agentFee with
  | some merchantNet, some klikFee, some agentFee =>
      c2bDrafts banks tx merchantNet klikFee agentFee
  | _, _, _ => []

/-- There is nothing to book, or the server takes the booking, the key of the
payment has no entries yet, and the entries are valid. -/
def Bookable
    (banks : List Bank) (refused : Bool) (tx : Transaction) (entries : List LedgerEntry) :
    Prop :=
  draftsOf banks tx = [] ∨
    (refused = false ∧ entriesOf tx.idempotencyKey entries = [] ∧
      ∀ draft ∈ draftsOf banks tx, draft.Valid)

/-- The redemptions which are finished are bookable. -/
def BooksRedemptions (state : ChequeState) (action : ChequeAction) : Prop :=
  match action with
  | .finishRedeem redemption banks refused =>
      Bookable banks refused redemption.transaction state.db.entries
  | _ => True

/-! ## The block -/

/-- The redemption of a step which redeems is committed. -/
theorem committed_of_redeems
    {request : RedeemRequest} {db after : ChequeDb} {cheque : Cheque} {tx : Transaction}
    (ids : (db.cheques.map Cheque.id).Nodup)
    (redeems : Redeems request db cheque tx)
    (cheques : after.cheques =
      saveRow Cheque.id (cheque.redeemedWith request.now tx.id) db.cheques)
    (transactions : after.transactions = db.transactions ++ [tx]) :
    (⟨cheque.redeemedWith request.now tx.id, tx⟩ : Redemption).Committed after := by
  constructor
  · have found : rowAt Cheque.id db.cheques (cheque.redeemedWith request.now tx.id).id =
        some cheque := rowAt_of_mem ids redeems.member
    rw [cheques, rowAt_saveRow, found, Option.map_some]
    exact congrArg some (if_pos rfl)
  · rfl
  · rfl
  · rw [transactions]
    exact rowAt_append_fresh redeems.fresh
  · exact redeems.completed

theorem blockWhole
    {db : ChequeDb} (ids : (db.cheques.map Cheque.id).Nodup) (request : RedeemRequest) :
    BlockWhole request db := by
  rcases redeem_cases request db with
    ⟨error, raised, unchanged⟩ | ⟨cheque, tx, redeems, carried⟩
  · exact .failed error raised unchanged
  · refine .committed ⟨cheque.redeemedWith request.now tx.id, tx⟩ ?_ ?_ ?_ ?_ ?_
    · rw [carried]
    · apply committed_of_redeems ids redeems
      · rw [carried]
      · rw [carried]
    · rw [carried]
    · rw [carried]
    · rw [carried]

/-! ## The booking -/

theorem c2bRows_eq_map (banks : List Bank) (tx : Transaction) :
    c2bRows banks tx = (draftsOf banks tx).map EntryDraft.row := by
  simp only [c2bRows, draftsOf]
  cases tx.merchantNet with
  | none => rfl
  | some merchantNet =>
      cases tx.klikFee with
      | none => rfl
      | some klikFee =>
          cases tx.agentFee with
          | none => rfl
          | some agentFee => rfl

/-- What recording a completed payment with its fees does. -/
theorem recordC2bTransaction_eq
    {banks : List Bank} {tx : Transaction} {entries : List LedgerEntry}
    (completed : tx.status = .completed)
    (amounts : ∃ merchantNet klikFee agentFee, tx.merchantNet = some merchantNet ∧
      tx.klikFee = some klikFee ∧ tx.agentFee = some agentFee) :
    recordC2bTransaction banks tx entries =
      if entriesOf tx.idempotencyKey entries ≠ [] then
        .ok (entriesOf tx.idempotencyKey entries, entries)
      else
        match createEntries (draftsOf banks tx) with
        | .error error => .error error
        | .ok created => .ok (created, entries ++ created) := by
  rcases amounts with ⟨merchantNet, klikFee, agentFee, net, klik, agent⟩
  simp only [recordC2bTransaction, draftsOf, completed, net, klik, agent]
  rfl

/-- The booking adds exactly the entries of the payment where it can be made. -/
theorem bookRedemption_eq_iff
    {banks : List Bank} {refused : Bool} {redemption : Redemption}
    {entries : List LedgerEntry}
    (completed : redemption.transaction.status = .completed)
    (amounts : ∃ merchantNet klikFee agentFee,
      redemption.transaction.merchantNet = some merchantNet ∧
        redemption.transaction.klikFee = some klikFee ∧
          redemption.transaction.agentFee = some agentFee) :
    bookRedemption banks refused redemption entries =
        entries ++ c2bRows banks redemption.transaction ↔
      Bookable banks refused redemption.transaction entries := by
  have nothing : entries = entries ++ c2bRows banks redemption.transaction ↔
      draftsOf banks redemption.transaction = [] := by
    rw [List.self_eq_append_right, c2bRows_eq_map, List.map_eq_nil_iff]
  simp only [bookRedemption, Bookable]
  cases refused with
  | true => simpa using nothing
  | false =>
      simp only [Bool.false_eq_true, if_false, true_and,
        recordC2bTransaction_eq completed amounts]
      by_cases existing : entriesOf redemption.transaction.idempotencyKey entries = []
      · simp only [existing, ne_eq, not_true_eq_false, if_false, true_and]
        cases creation : createEntries (draftsOf banks redemption.transaction) with
        | error error =>
            simp only
            constructor
            · intro same
              exact Or.inl (nothing.mp same)
            · rintro (empty | valid)
              · exact nothing.mpr empty
              · rw [createEntries_of_valid valid] at creation
                cases creation
        | ok created =>
            simp only [c2bRows_eq_map, (createEntries_ok creation).1, true_iff]
            exact Or.inr (valid_of_createEntries creation)
      · simp only [existing, ne_eq, not_false_eq_true, if_true, false_and, or_false]
        exact nothing

/-- A payment between two banks has entries with its key once its rows are in
the ledger. -/
theorem booked_of_rows
    {banks : List Bank} {tx : Transaction} {before after : List LedgerEntry}
    (amounts : ∃ merchantNet klikFee agentFee, tx.merchantNet = some merchantNet ∧
      tx.klikFee = some klikFee ∧ tx.agentFee = some agentFee) :
    Booked tx (before ++ c2bRows banks tx ++ after) := by
  constructor
  · exact ⟨banks, before, after, rfl⟩
  · intro offUs empty
    rcases amounts with ⟨merchantNet, klikFee, agentFee, net, klik, agent⟩
    rw [entriesOf_append, entriesOf_append, List.append_eq_nil_iff, List.append_eq_nil_iff,
      entriesOf_of_all (c2bRows_sourceRef banks tx), List.reverse_eq_nil_iff] at empty
    simp only [c2bRows, net, klik, agent, c2bDrafts, offUs, Bool.false_eq_true, if_false,
      List.cons_append, List.nil_append, List.map_cons] at empty
    cases empty.2.1

theorem Booked.append
    {tx : Transaction} {entries : List LedgerEntry} (booked : Booked tx entries)
    (created : List LedgerEntry) : Booked tx (entries ++ created) := by
  constructor
  · rcases booked.rows with ⟨banks, before, after, rfl⟩
    exact ⟨banks, before, after ++ created, List.append_assoc ..⟩
  · intro offUs empty
    rw [entriesOf_append, List.append_eq_nil_iff] at empty
    exact booked.offUs offUs empty.2

/-! ## Runs -/

/-- A committed redemption has the fees of its payment. -/
def Redemption.HasAmounts (redemption : Redemption) : Prop :=
  ∃ merchantNet klikFee agentFee,
    redemption.transaction.merchantNet = some merchantNet ∧
      redemption.transaction.klikFee = some klikFee ∧
        redemption.transaction.agentFee = some agentFee

/-- The redemptions which requests still have to book are committed. -/
def GoingCommitted (state : ChequeState) : Prop :=
  ∀ redemption ∈ state.redemptions,
    redemption.Committed state.db ∧ redemption.HasAmounts

/-- Payments stay. -/
theorem transactions_of_step
    {state after : ChequeState} {action : ChequeAction}
    (move : chequeSystem.Step state action after) :
    ∃ added, after.db.transactions = state.db.transactions ++ added := by
  cases effect_of_step move with
  | same _ transactions => exact ⟨[], by rw [transactions, List.append_nil]⟩
  | issued _ _ _ _ transactions => exact ⟨[], by rw [transactions, List.append_nil]⟩
  | redeemed _ _ tx _ _ transactions => exact ⟨[tx], transactions⟩
  | cancelled _ _ _ _ _ transactions => exact ⟨[], by rw [transactions, List.append_nil]⟩
  | expired _ _ _ _ _ _ transactions => exact ⟨[], by rw [transactions, List.append_nil]⟩

/-- What is committed stays committed. -/
theorem Redemption.Committed.step
    {redemption : Redemption} {state after : ChequeState} {action : ChequeAction}
    (committed : redemption.Committed state.db) (reached : chequeSystem.Reachable state)
    (move : chequeSystem.Step state action after) : redemption.Committed after.db := by
  have path : chequeSystem.Path state _ after := .step (.refl state) move
  constructor
  · apply rowAt_of_ended reached path committed.cheque
    rw [committed.redeemed]
    exact nofun
  · exact committed.redeemed
  · exact committed.linked
  · rcases transactions_of_step move with ⟨added, transactions⟩
    rw [transactions]
    exact rowAt_append committed.payment added
  · exact committed.completed

/-- A row which is overwritten without being redeemed adds no redeemed
cheque. -/
theorem mem_of_mem_saveRow_of_redeemed
    {cheques : List Cheque} {row cheque : Cheque} (notRedeemed : row.status ≠ .redeemed)
    (member : cheque ∈ saveRow Cheque.id row cheques) (redeemed : cheque.status = .redeemed) :
    cheque ∈ cheques := by
  rcases mem_saveRow member with rfl | ⟨old, _⟩
  · exact absurd redeemed notRedeemed
  · exact old

/-- What an action does to the redemptions: it makes one, books one, or leaves
them. -/
inductive RedemptionEvent (state : ChequeState) : ChequeAction → ChequeState → Prop where
  | made {after : ChequeState} (request : RedeemRequest) (cheque : Cheque)
      (tx : Transaction)
      (redeems : Redeems request state.db cheque tx)
      (cheques : after.db.cheques =
        saveRow Cheque.id (cheque.redeemedWith request.now tx.id) state.db.cheques)
      (transactions : after.db.transactions = state.db.transactions ++ [tx])
      (entries : after.db.entries = state.db.entries)
      (redemptions : after.redemptions =
        state.redemptions ++ [⟨cheque.redeemedWith request.now tx.id, tx⟩]) :
      RedemptionEvent state (.redeem request) after
  | finished (redemption : Redemption) (banks : List Bank) (refused : Bool)
      (going : redemption ∈ state.redemptions) :
      RedemptionEvent state (.finishRedeem redemption banks refused)
        (state.redeemFinished redemption banks refused)
  | kept {action : ChequeAction} {after : ChequeState}
      (cheques : ∀ cheque ∈ after.db.cheques, cheque.status = .redeemed →
        cheque ∈ state.db.cheques)
      (entries : ∃ created, after.db.entries = state.db.entries ++ created)
      (redemptions : after.redemptions = state.redemptions) :
      RedemptionEvent state action after

theorem redemptionEvent_of_step
    {state after : ChequeState} {action : ChequeAction}
    (move : chequeSystem.Step state action after) : RedemptionEvent state action after := by
  have nothing : ∀ entries : List LedgerEntry, ∃ created, entries = entries ++ created :=
    fun entries => ⟨[], (List.append_nil entries).symm⟩
  cases event_of_step move with
  | quiet cheques _ entries redemptions _ =>
      refine .kept ?_ entries redemptions
      rw [cheques]
      exact fun _ member _ => member
  | created issuing chequeId refused _ _ cheques _ entries redemptions _ =>
      refine .kept ?_ (entries ▸ nothing _) redemptions
      intro cheque member redeemed
      rw [cheques] at member
      rcases List.mem_append.mp member with old | new
      · exact old
      · rw [List.mem_singleton.mp new] at redeemed
        cases redeemed
  | redeemed request cheque tx redeems cheques transactions entries redemptions _ =>
      exact .made request cheque tx redeems cheques transactions entries redemptions
  | overdue request cheque _ db redemptions _ =>
      refine .kept ?_ (db ▸ nothing _) redemptions
      rw [db]
      exact fun _ member _ => member
  | finished redemption banks refused going => exact .finished redemption banks refused going
  | cancelled request cheque _ _ cheques _ entries redemptions _ =>
      refine .kept ?_ (entries ▸ nothing _) redemptions
      rw [cheques]
      exact fun _ => mem_of_mem_saveRow_of_redeemed nofun
  | expired run refused cheque _ _ cheques _ entries redemptions _ =>
      refine .kept ?_ (entries ▸ nothing _) redemptions
      rw [cheques]
      exact fun _ => mem_of_mem_saveRow_of_redeemed nofun

theorem goingCommitted_of_reachable
    {state : ChequeState} (reached : chequeSystem.Reachable state) :
    GoingCommitted state := by
  apply reached.invariant
  · rintro start ⟨_, _, noRedemptions, _⟩ redemption member
    rw [noRedemptions] at member
    cases member
  · intro source action target sourceReached going move
    have kept : ∀ redemption ∈ source.redemptions,
        redemption.Committed target.db ∧ redemption.HasAmounts := by
      intro redemption member
      exact ⟨(going redemption member).1.step sourceReached move, (going redemption member).2⟩
    cases redemptionEvent_of_step move with
    | made request cheque tx redeems cheques transactions _ redemptions =>
        rw [GoingCommitted, redemptions]
        intro redemption member
        rcases List.mem_append.mp member with old | new
        · exact kept redemption old
        · rw [List.mem_singleton.mp new]
          constructor
          · exact committed_of_redeems (chequeInvariant sourceReached).ids redeems cheques
              transactions
          · exact tx.amounts_of_fullClean redeems.clean redeems.completed
    | finished redemption banks refused _ =>
        exact fun other member => kept other (List.mem_of_mem_erase member)
    | kept _ _ redemptions =>
        rw [GoingCommitted, redemptions]
        exact kept

/-- A redemption which is finished is booked where the booking adds its
entries. -/
theorem booked_of_finished
    {state : ChequeState} (reached : chequeSystem.Reachable state)
    {redemption : Redemption} (going : redemption ∈ state.redemptions)
    {banks : List Bank} {refused : Bool}
    (bookable : Bookable banks refused redemption.transaction state.db.entries) :
    Booked redemption.transaction (state.redeemFinished redemption banks refused).db.entries ∧
      ∃ created, (state.redeemFinished redemption banks refused).db.entries =
        state.db.entries ++ created := by
  have committed := goingCommitted_of_reachable reached redemption going
  have added := (bookRedemption_eq_iff committed.1.completed committed.2).mpr bookable
  simp only [ChequeState.redeemFinished, added]
  constructor
  · rw [← List.append_nil (state.db.entries ++ _)]
    exact booked_of_rows committed.2
  · exact ⟨_, rfl⟩

theorem redeemedBooked_step
    {state after : ChequeState} {action : ChequeAction}
    (booked : RedeemedBooked state) (reached : chequeSystem.Reachable state)
    (books : BooksRedemptions state action)
    (move : chequeSystem.Step state action after) : RedeemedBooked after := by
  cases redemptionEvent_of_step move with
  | made request cheque tx redeems cheques transactions entries redemptions =>
      intro row member redeemed
      rw [cheques] at member
      rcases mem_saveRow member with rfl | ⟨old, _⟩
      · refine ⟨tx, committed_of_redeems (chequeInvariant reached).ids redeems cheques
          transactions, ?_⟩
        rw [redemptions]
        exact Or.inl (List.mem_append_right _ (List.mem_singleton_self _))
      · rcases booked row old redeemed with ⟨its, committed, going⟩
        refine ⟨its, committed.step reached move, ?_⟩
        rw [redemptions, entries]
        exact going.imp_left (List.mem_append_left _)
  | finished redemption banks refused going =>
      rcases booked_of_finished reached going books with ⟨done, created, entries⟩
      intro row member redeemed
      rcases booked row member redeemed with ⟨its, committed, stillGoing | earlier⟩
      · refine ⟨its, committed.step reached move, ?_⟩
        by_cases same : (⟨row, its⟩ : Redemption) = redemption
        · subst same
          exact Or.inr done
        · exact Or.inl ((List.mem_erase_of_ne same).mpr stillGoing)
      · refine ⟨its, committed.step reached move, Or.inr ?_⟩
        rw [entries]
        exact earlier.append created
  | kept cheques entries redemptions =>
      intro row member redeemed
      rcases booked row (cheques row member redeemed) redeemed with ⟨its, committed, going⟩
      refine ⟨its, committed.step reached move, ?_⟩
      rw [redemptions]
      rcases going with stillGoing | earlier
      · exact Or.inl stillGoing
      · rcases entries with ⟨created, entries⟩
        rw [entries]
        exact Or.inr (earlier.append created)

theorem redeemedBooked_of_reachable
    {state : ChequeState}
    (reached : (chequeSystem.guarded BooksRedemptions).Reachable state) :
    RedeemedBooked state := by
  apply reached.invariant
  · rintro start ⟨noCheques, _⟩ cheque member
    rw [noCheques] at member
    cases member
  · intro source action target sourceReached booked move
    exact redeemedBooked_step booked sourceReached.of_guarded move.1 move.2

/-- A redeem request is whole up to its commit; after its booking it is whole
exactly where this can be made; and while all bookings can be made, every
redeemed cheque whose request has ended has its entries. -/
theorem redeem_all_or_nothing (state : ChequeState) :
    (chequeSystem.Reachable state → ∀ request, BlockWhole request state.db) ∧
      (chequeSystem.Reachable state →
        ∀ redemption ∈ state.redemptions, ∀ banks refused,
          RedeemedWhole banks redemption state.db
              (state.redeemFinished redemption banks refused).db ↔
            Bookable banks refused redemption.transaction state.db.entries) ∧
        ((chequeSystem.guarded BooksRedemptions).Reachable state →
          RedeemedBooked state) := by
  refine ⟨?_, ?_, ?_⟩
  · intro reached request
    exact blockWhole (chequeInvariant reached).ids request
  · intro reached redemption member banks refused
    have committed := goingCommitted_of_reachable reached redemption member
    rw [← bookRedemption_eq_iff committed.1.completed committed.2]
    constructor
    · exact RedeemedWhole.booked
    · intro booked
      constructor
      · exact ⟨committed.1.cheque, committed.1.redeemed, committed.1.linked,
          committed.1.payment, committed.1.completed⟩
      · exact booked
  · intro reached
    exact redeemedBooked_of_reachable reached

/-! ## A redeemed cheque -/

/-- A cheque is issued and redeemed. -/
def issueAndRedeem : List ChequeAction :=
  issueActions (py "a") (py "123456789") 1 ++ [.redeem (redeemRequest (py "123456789") 5 [1])]

/-- No redemption is finished. -/
def finishesNothing (action : ChequeAction) : Bool :=
  match action with
  | .finishRedeem _ _ _ => false
  | _ => true

theorem booksRedemptions_of_finishesNothing
    {state : ChequeState} {action : ChequeAction}
    (nothing : finishesNothing action = true) : BooksRedemptions state action := by
  cases action with
  | finishRedeem redemption banks refused => cases nothing
  | _ => trivial

/-- The redemption still has to be booked, and the ledger is empty. -/
theorem soldRedemption_going :
    ∃ state, (chequeSystem.guarded BooksRedemptions).Reachable state ∧
      soldRedemption ∈ state.redemptions ∧ state.db.entries = [] ∧
        state.redemptions.length = 1 := by
  have shown : (TransitionSystem.runLabels
      (TransitionSystem.guardStep chequeStep fun _ action => finishesNothing action)
        noCheques issueAndRedeem).map (fun state =>
          (decide (soldRedemption ∈ state.redemptions), state.db.entries.isEmpty,
            state.redemptions.length)) = some (true, true, 1) := by
    decide +kernel
  rcases Option.map_eq_some_iff.mp shown with ⟨state, run, found⟩
  simp only [Prod.mk.injEq, decide_eq_true_eq, List.isEmpty_iff] at found
  have path : (chequeSystem.guarded fun _ action => finishesNothing action = true).Path
      noCheques issueAndRedeem state :=
    TransitionSystem.guarded_path_of_runLabels run
  have guarded : (chequeSystem.guarded BooksRedemptions).Path
      noCheques issueAndRedeem state := by
    apply path.mono
    intro before action after move
    exact ⟨booksRedemptions_of_finishesNothing move.1, move.2⟩
  exact ⟨state, guarded.reachable (.init ⟨rfl, rfl, rfl, rfl, rfl⟩), found.1, found.2⟩

/-- The entries of the redemption are valid. -/
theorem soldRedemption_valid :
    ∀ draft ∈ draftsOf [] soldRedemption.transaction, draft.Valid := by
  have taken : (createEntries (draftsOf [] soldRedemption.transaction)).toBool = true := by
    decide +kernel
  cases created : createEntries (draftsOf [] soldRedemption.transaction) with
  | error error =>
      rw [created] at taken
      cases taken
  | ok entries => exact valid_of_createEntries created

/-- The redemption is booked, and another request leaves it whole. -/
theorem redeem_all_or_nothing_booked :
    ∃ state, chequeSystem.Reachable state ∧ soldRedemption ∈ state.redemptions ∧
      BlockWhole (redeemRequest (py "123456789") 6 [1]) state.db ∧
        RedeemedWhole [] soldRedemption state.db
          (state.redeemFinished soldRedemption [] false).db ∧
          RedeemedBooked (state.redeemFinished soldRedemption [] false) := by
  rcases soldRedemption_going with ⟨state, guarded, going, entries, _⟩
  have reached : chequeSystem.Reachable state := guarded.of_guarded
  have bookable : Bookable [] false soldRedemption.transaction state.db.entries := by
    rw [entries]
    exact Or.inr ⟨rfl, rfl, soldRedemption_valid⟩
  refine ⟨state, reached, going, ?_, ?_, ?_⟩
  · exact (redeem_all_or_nothing state).1 reached (redeemRequest (py "123456789") 6 [1])
  · exact ((redeem_all_or_nothing state).2.1 reached soldRedemption going [] false).mpr
      bookable
  · apply (redeem_all_or_nothing _).2.2
    have move : (chequeSystem.guarded BooksRedemptions).Step state
        (.finishRedeem soldRedemption [] false)
        (state.redeemFinished soldRedemption [] false) :=
      ⟨bookable, if_pos going⟩
    exact guarded.step move

/-- The booking is refused, and the redeemed cheque has no entries. -/
theorem redeemed_cheque_not_booked :
    ¬ ∀ state, chequeSystem.Reachable state → RedeemedBooked state := by
  intro allBooked
  rcases soldRedemption_going with ⟨state, guarded, going, entries, only⟩
  have reached : chequeSystem.Reachable state := guarded.of_guarded
  have move : chequeSystem.Step state (.finishRedeem soldRedemption [] true)
      (state.redeemFinished soldRedemption [] true) := if_pos going
  have committed := (goingCommitted_of_reachable reached soldRedemption going).1
  have after := committed.step reached move
  have member : soldRedemption.cheque ∈
      (state.redeemFinished soldRedemption [] true).db.cheques :=
    (mem_of_rowAt after.cheque).1
  rcases allBooked _ (reached.step move) soldRedemption.cheque member after.redeemed with
    ⟨tx, its, stillGoing | booked⟩
  · rcases List.length_eq_one_iff.mp only with ⟨one, redemptions⟩
    rw [redemptions] at going
    simp only [ChequeState.redeemFinished, redemptions, ← List.mem_singleton.mp going,
      List.erase_cons_head] at stillGoing
    cases stillGoing
  · have sameId : tx.id = soldRedemption.transaction.id :=
      Option.some.inj (its.linked.symm.trans after.linked)
    have same : tx = soldRedemption.transaction := by
      apply Option.some.inj
      rw [← after.payment, ← sameId]
      exact its.payment.symm
    rw [same] at booked
    have nothing : (state.redeemFinished soldRedemption [] true).db.entries = [] := entries
    apply booked.offUs rfl
    rw [nothing]
    rfl

end Klik.Cheques
