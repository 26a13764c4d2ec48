import Klik.Cheques.Views
import Klik.Idempotency.DurableReplay
import Klik.Idempotency.ReplyOrigin
import Klik.Recurring.CreateView

/-!
# The endpoints which create mandates and cheques

`RecurringCreateView.post` and `ChequeIssueView.post` as endpoints which create
an object under a key.  Both search their table behind all their checks, and
those of a mandate compare its start with today.  The serializers of the
requests and the texts of instants and amounts are parameters.
-/

namespace Klik.Idempotency

open Klik.Aliases
open Klik.Banks
open Klik.Common
open Klik.Lib
open Klik.Recurring

/-! ## POST /recurring/create -/

/-- What a create request reads besides its body and the mandates; the server
may refuse the insertion. -/
structure CreateWorld where
  bank : Bank
  now : DateTime
  aliases : List Alias
  mandateId : Uuid
  mandateId_lt : mandateId < 16 ^ 32
  createdAt : DateTime
  refused : Bool

/-- A mandate with the time of its insertion. -/
structure CreatedMandate where
  row : MandateRow
  createdAt : DateTime

/-- What the reply for a mandate and the query by the key depend on and no
operation changes. -/
structure MandateObject where
  id : Uuid
  bank : Uuid
  key : PyStr
  createdAt : DateTime
deriving DecidableEq

def CreatedMandate.object (created : CreatedMandate) : MandateObject where
  id := created.row.mandate.id
  bank := created.row.mandate.payerBank.id
  key := created.row.idempotencyKey
  createdAt := created.createdAt

/-- The request as the view sees it; the bank is the authenticated one. -/
def CreateWorld.createRequest
    (request : IdempotentRequest) (key : PyStr) (data : CreateData) (world : CreateWorld) :
    CreateRequest where
  bank := { world.bank with id := request.user.id }
  data := data
  idempotencyKey := key
  now := world.now
  mandateId := world.mandateId
  refused := world.refused

/-- `RecurringTransfer.objects.filter(idempotency_key=..., payer_bank=...).first()`. -/
def mandateUnder (bankId : Uuid) (key : PyStr) (rows : List CreatedMandate) :
    Option CreatedMandate :=
  rows.find? fun created =>
    created.row.idempotencyKey = key && created.row.mandate.payerBank.id = bankId

section Create

variable (env : RecurringEnv) (serializer : PyValue → Option CreateData)
variable (isoformat : DateTime → PyStr)

/-- The body of `_created_response`. -/
def createdData (response : CreateResponse) (createdAt : DateTime) : PyValue :=
  .dict
    [(py "recurring_transfer_id", .str (uuidText response.recurringTransferId)),
      (py "status", .str (statusText response.status)),
      (py "next_run_at", .str (isoformat response.nextRunAt)),
      (py "created_at", .str (isoformat createdAt))]

def createdReply (created : CreatedMandate) : Response where
  statusCode := 201
  data := createdData isoformat (createdResponse created.row.mandate) created.createdAt

/-- The checks of the view before its query. -/
def createPasses (request : IdempotentRequest) (world : CreateWorld) : Bool :=
  match serializer request.data with
  | none => false
  | some data =>
      let asked := world.createRequest request (request.idempotencyKey.getD []) data
      match checkBank asked.bank, asked.validateDomain env with
      | .ok (), .ok _ => true
      | _, _ => false

/-- What follows the query: the lookup of the alias, and the insertion, which
the unique constraint `recurring_idempotency_unique` refuses for a known key. -/
def createMandate
    (request : IdempotentRequest) (key : PyStr) (world : CreateWorld)
    (rows : List CreatedMandate) : Option CreatedMandate :=
  match serializer request.data with
  | none => none
  | some data =>
      let asked := world.createRequest request key data
      match asked.validateDomain env with
      | .error _ => none
      | .ok (cycle, zone) =>
          match getAlias data.recipientPhone world.aliases with
          | none => none
          | some recipient =>
              if recipient.zone ≠ zone then none
              else if (mandateUnder asked.bank.id key rows).isSome then none
              else
                match insertMandate asked (asked.mandate env cycle zone)
                    (rows.map CreatedMandate.row) with
                | .error _ => none
                | .ok row => some ⟨row, world.createdAt⟩

end Create

/-- `objects.create` gives a new id. -/
theorem insertMandate_fresh
    {request : CreateRequest} {mandate : RecurringTransfer} {rows : List MandateRow}
    {row : MandateRow} (inserted : insertMandate request mandate rows = .ok row) :
    ∀ old ∈ rows, old.mandate.id ≠ mandate.id := by
  simp only [insertMandate] at inserted
  split at inserted
  · cases inserted
  · split at inserted
    · cases inserted
    · split at inserted
      · cases inserted
      · rename_i fresh
        intro old member same
        exact fresh (List.any_eq_true.mpr ⟨old, member, decide_eq_true same⟩)

/-- A mandate which is created belongs to the request, with an id of its own. -/
theorem createMandate_some
    {env : RecurringEnv} {serializer : PyValue → Option CreateData}
    {request : IdempotentRequest} {key : PyStr} {world : CreateWorld}
    {rows : List CreatedMandate} {created : CreatedMandate}
    (inserted : createMandate env serializer request key world rows = some created) :
    created.object.bank = request.user.id ∧ created.object.key = key ∧
      created.object.id < 16 ^ 32 ∧
      ∀ old ∈ rows, old.object.id ≠ created.object.id := by
  simp only [createMandate] at inserted
  split at inserted
  · cases inserted
  · split at inserted
    · cases inserted
    · split at inserted
      · cases inserted
      · split at inserted
        · cases inserted
        · split at inserted
          · cases inserted
          · split at inserted
            · cases inserted
            · rename_i insertion
              have row := insertMandate_ok insertion
              cases inserted
              cases row
              refine ⟨rfl, rfl, world.mandateId_lt, ?_⟩
              intro old member
              exact insertMandate_fresh insertion old.row (List.mem_map_of_mem member)

/-- `RecurringCreateView.post` under its wrapper. -/
def recurringCreate
    (env : RecurringEnv) (serializer : PyValue → Option CreateData)
    (isoformat : DateTime → PyStr) :
    KeyedEndpoint CreateWorld CreatedMandate MandateObject where
  endpoint := .recurringCreate
  object := CreatedMandate.object
  id := MandateObject.id
  bank := MandateObject.bank
  key := MandateObject.key
  passes := createPasses env serializer
  find := mandateUnder
  insert := createMandate env serializer
  reply := createdReply isoformat
  find_some := List.mem_of_find?_eq_some
  find_none := by
    intro bankId searched rows missing row member same
    have other := List.find?_eq_none.mp missing row member
    simp only [Bool.and_eq_true, decide_eq_true_eq] at other
    exact other ⟨same.2, same.1⟩
  insert_some := createMandate_some
  reply_success := fun _ => rfl
  reply_id := by
    intro first second firstSmall secondSmall same
    have data := congrArg Response.data same
    simp only [createdReply, createdData, PyValue.dict.injEq, List.cons.injEq, Prod.mk.injEq,
      PyValue.str.injEq] at data
    exact uuidText_inj firstSmall secondSmall data.1.2

/-- The key of a request does not matter for its checks. -/
theorem createPasses_eq
    (env : RecurringEnv) {serializer : PyValue → Option CreateData}
    {request : IdempotentRequest} {data : CreateData}
    (parsed : serializer request.data = some data) (key : PyStr) (world : CreateWorld) :
    createPasses env serializer request world =
      match checkBank (world.createRequest request key data).bank,
          (world.createRequest request key data).validateDomain env with
      | .ok (), .ok _ => true
      | _, _ => false := by
  simp only [createPasses, parsed]
  rfl

/-- The endpoint on its own is the view. -/
theorem recurringCreate_alone
    {env : RecurringEnv} {serializer : PyValue → Option CreateData}
    {isoformat : DateTime → PyStr} {request : IdempotentRequest} {data : CreateData}
    (parsed : serializer request.data = some data) (key : PyStr) (world : CreateWorld)
    (rows : List CreatedMandate) :
    match create env (world.createRequest request key data) world.aliases
        (rows.map CreatedMandate.row) with
    | .error _ =>
        (recurringCreate env serializer isoformat).alone request key world rows = none
    | .ok (response, inserted) => ∃ createdAt,
        (recurringCreate env serializer isoformat).alone request key world rows =
          some (⟨201, createdData isoformat response createdAt⟩,
            inserted.map fun row => ⟨row, world.createdAt⟩) := by
  have sameQuery : (rows.map CreatedMandate.row).find? (fun row =>
      row.idempotencyKey = (world.createRequest request key data).idempotencyKey &&
        row.mandate.payerBank.id = (world.createRequest request key data).bank.id) =
      (mandateUnder request.user.id key rows).map CreatedMandate.row := List.find?_map ..
  have sameData : (world.createRequest request key data).data = data := rfl
  have sameBank : (world.createRequest request key data).bank.id = request.user.id := rfl
  have passed := createPasses_eq env parsed key world
  simp only [KeyedEndpoint.alone, recurringCreate, create, sameQuery]
  cases checked : checkBank (world.createRequest request key data).bank with
  | error error =>
      rw [checked] at passed
      simp only [passed, if_true]
  | ok checks =>
      cases valid : (world.createRequest request key data).validateDomain env with
      | error error =>
          rw [checked, valid] at passed
          simp only [passed, if_true]
      | ok parts =>
          rw [checked, valid] at passed
          cases found : mandateUnder request.user.id key rows with
          | some existing =>
              simp only [passed, Bool.true_eq_false, if_false, Option.map_some]
              exact ⟨existing.createdAt, rfl⟩
          | none =>
              have unknown : (mandateUnder (world.createRequest request key data).bank.id key
                  rows).isSome = false := by
                rw [sameBank, found]
                rfl
              simp only [passed, Bool.true_eq_false, if_false, Option.map_none, createMandate,
                parsed, valid, unknown, sameData]
              cases recipient : getAlias data.recipientPhone world.aliases with
              | none => rfl
              | some row =>
                  by_cases sameZone : row.zone ≠ parts.2
                  · simp only [if_pos sameZone]
                  · simp only [if_neg sameZone]
                    cases insertMandate (world.createRequest request key data)
                        ((world.createRequest request key data).mandate env parts.1 parts.2)
                        (rows.map CreatedMandate.row) with
                    | error error => rfl
                    | ok inserted => exact ⟨world.createdAt, rfl⟩

/-! ## POST /cheques/issue -/

/-- What an issue request reads besides its body and the cheques, with the code
which its loop has drawn last; the server may refuse the insertion. -/
structure IssueWorld where
  bank : Bank
  now : Instant
  code : PyStr
  chequeId : Uuid
  chequeId_lt : chequeId < 16 ^ 32
  refused : Bool

/-- What the reply for a cheque and the query by the key depend on: nothing
which an operation changes. -/
structure ChequeObject where
  bank : Uuid
  key : PyStr
  response : Cheques.IssueResponse
deriving DecidableEq

def chequeObject (cheque : Cheques.Cheque) : ChequeObject where
  bank := cheque.issuerBank.id
  key := cheque.idempotencyKey
  response := Cheques.issueResponse cheque

/-- The request as the view sees it; the bank is the authenticated one. -/
def IssueWorld.issueRequest
    (request : IdempotentRequest) (key : PyStr) (data : Cheques.IssueData) (world : IssueWorld) :
    Cheques.IssueRequest where
  bank := { world.bank with id := request.user.id }
  data := data
  idempotencyKey := key
  now := world.now

/-- The end of the loop. -/
def IssueWorld.drawn (request : Cheques.IssueRequest) (world : IssueWorld) : Cheques.Issuing where
  request := request
  code := world.code
  left := 0

section Issue

variable (serializer : PyValue → Option Cheques.IssueData)
variable (decimalText : Decimal → PyStr) (isoformat : Instant → PyStr)

/-- `ChequeIssueResponseSerializer`. -/
def issueData (response : Cheques.IssueResponse) : PyValue :=
  .dict
    [(py "cheque_id", .str (uuidText response.chequeId)),
      (py "code", .str response.code),
      (py "amount", .str (decimalText response.amount)),
      (py "currency", .str (py response.currency.value)),
      (py "expires_at", .str (isoformat response.expiresAt)),
      (py "issued_at", .str (isoformat response.issuedAt))]

def issueReply (cheque : Cheques.Cheque) : Response where
  statusCode := 201
  data := issueData decimalText isoformat (Cheques.issueResponse cheque)

/-- The checks of the view before its query. -/
def issuePasses (request : IdempotentRequest) (world : IssueWorld) : Bool :=
  match serializer request.data with
  | none => false
  | some data =>
      match (world.issueRequest request (request.idempotencyKey.getD []) data).check with
      | .error _ => false
      | .ok () => true

/-- The insertion; no constraint keeps a second cheque from the same key. -/
def issueCheque
    (request : IdempotentRequest) (key : PyStr) (world : IssueWorld)
    (cheques : List Cheques.Cheque) : Option Cheques.Cheque :=
  match serializer request.data with
  | none => none
  | some data =>
      let issuing := world.drawn (world.issueRequest request key data)
      match Cheques.createCheque world.chequeId world.refused issuing cheques with
      | .error _ => none
      | .ok _ => some (issuing.cheque world.chequeId)

end Issue

/-- A cheque which is inserted belongs to the request, with an id of its own. -/
theorem issueCheque_some
    {serializer : PyValue → Option Cheques.IssueData} {request : IdempotentRequest}
    {key : PyStr} {world : IssueWorld} {cheques : List Cheques.Cheque} {cheque : Cheques.Cheque}
    (inserted : issueCheque serializer request key world cheques = some cheque) :
    (chequeObject cheque).bank = request.user.id ∧ (chequeObject cheque).key = key ∧
      (chequeObject cheque).response.chequeId < 16 ^ 32 ∧
      ∀ old ∈ cheques, (chequeObject old).response.chequeId ≠
        (chequeObject cheque).response.chequeId := by
  simp only [issueCheque] at inserted
  split at inserted
  · cases inserted
  · split at inserted
    · cases inserted
    · rename_i created
      cases inserted
      exact ⟨rfl, rfl, world.chequeId_lt, (Cheques.createCheque_ok created).2⟩

/-- `ChequeIssueView.post` under its wrapper. -/
def chequeIssue
    (serializer : PyValue → Option Cheques.IssueData)
    (decimalText : Decimal → PyStr) (isoformat : Instant → PyStr) :
    KeyedEndpoint IssueWorld Cheques.Cheque ChequeObject where
  endpoint := .chequeIssue
  object := chequeObject
  id object := object.response.chequeId
  bank := ChequeObject.bank
  key := ChequeObject.key
  passes := issuePasses serializer
  find := Cheques.issuedUnder
  insert := issueCheque serializer
  reply := issueReply decimalText isoformat
  find_some := fun found => List.mem_reverse.mp (List.mem_of_find?_eq_some found)
  find_none := by
    intro bankId searched cheques missing cheque member same
    have other := List.find?_eq_none.mp missing cheque (List.mem_reverse.mpr member)
    simp only [Bool.and_eq_true, decide_eq_true_eq] at other
    exact other ⟨same.2, same.1⟩
  insert_some := issueCheque_some
  reply_success := fun _ => rfl
  reply_id := by
    intro first second firstSmall secondSmall same
    have data := congrArg Response.data same
    simp only [issueReply, issueData, PyValue.dict.injEq, List.cons.injEq, Prod.mk.injEq,
      PyValue.str.injEq] at data
    exact uuidText_inj firstSmall secondSmall data.1.2

/-- The endpoint on its own is the view; a request which has found no cheque
goes on to insert one with the code which it has drawn. -/
theorem chequeIssue_alone
    {serializer : PyValue → Option Cheques.IssueData}
    {decimalText : Decimal → PyStr} {isoformat : Instant → PyStr}
    {request : IdempotentRequest} {data : Cheques.IssueData}
    (parsed : serializer request.data = some data) (key : PyStr) (world : IssueWorld)
    (cheques : List Cheques.Cheque) :
    (chequeIssue serializer decimalText isoformat).alone request key world cheques =
      match Cheques.startIssue (world.issueRequest request key data) cheques with
      | .error _ => none
      | .ok (.inl response) => some (⟨201, issueData decimalText isoformat response⟩, none)
      | .ok (.inr issuing) =>
          let drawn := { issuing with code := world.code, left := 0 }
          match Cheques.createCheque world.chequeId world.refused drawn cheques with
          | .error _ => none
          | .ok _ =>
              let cheque := drawn.cheque world.chequeId
              some (issueReply decimalText isoformat cheque, some cheque) := by
  have sameBank : (world.issueRequest request key data).bank.id = request.user.id := rfl
  have sameKey : (world.issueRequest request key data).idempotencyKey = key := rfl
  have passed : issuePasses serializer request world =
      match (world.issueRequest request key data).check with
      | .error _ => false
      | .ok () => true := by
    simp only [issuePasses, parsed]
    rfl
  simp only [KeyedEndpoint.alone, chequeIssue, Cheques.startIssue, sameBank, sameKey]
  cases checked : (world.issueRequest request key data).check with
  | error error =>
      rw [checked] at passed
      simp only [passed, if_true]
  | ok checks =>
      rw [checked] at passed
      simp only [passed, Bool.true_eq_false, if_false]
      cases Cheques.issuedUnder request.user.id key cheques with
      | some existing => rfl
      | none =>
          simp only [issueCheque, parsed, IssueWorld.drawn]
          cases Cheques.createCheque world.chequeId world.refused
              ⟨world.issueRequest request key data, world.code, 0⟩ cheques with
          | error error => rfl
          | ok inserted => rfl

end Klik.Idempotency
