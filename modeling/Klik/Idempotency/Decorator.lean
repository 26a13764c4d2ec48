import Klik.Common.Enums
import Klik.Common.Exceptions
import Klik.Lib.ExpiringStore
import Klik.Lib.JsonText

/-!
# The decorator of idempotent endpoints

The wrapper of `idempotent_endpoint` looks the key of the request up in Redis,
calls the view if it finds nothing, and stores the reply of the view if that
is a success.  The hash function is a parameter.
-/

namespace Klik.Idempotency

open Klik.Common
open Klik.Lib

/-! ## Requests -/

/-- The models whose instances authenticate. -/
inductive ClientType where
  | bank
  | agent
deriving DecidableEq, Repr

/-- `request.user`. -/
structure Client where
  type : ClientType
  id : Uuid
  id_lt : id < 16 ^ 32
deriving DecidableEq

/-- The decorated endpoints, with their path parameters. -/
inductive Endpoint where
  | codeGenerate
  | paymentInitiate
  | chequeIssue
  | chequeRedeem
  | chequeCancel
  | recurringCreate
  | recurringPause (recurringTransferId : Uuid)
  | recurringResume (recurringTransferId : Uuid)
  | recurringCancel (recurringTransferId : Uuid)
deriving DecidableEq, Repr

/-- The model which the `authentication_classes` of an endpoint look in. -/
def Endpoint.clientType : Endpoint → ClientType
  | .paymentInitiate => .agent
  | .chequeRedeem => .agent
  | _ => .bank

/-- An authenticated request, with its decoded body. -/
structure IdempotentRequest where
  user : Client
  endpoint : Endpoint
  authenticated : user.type = endpoint.clientType
  idempotencyKey : Option PyStr
  data : PyValue
  decoded : data.decoded = true

/-- A reply of a view. -/
structure Response where
  statusCode : Nat
  data : PyValue

/-- Whether a reply is stored. -/
def Response.isSuccess (response : Response) : Bool :=
  200 ≤ response.statusCode && response.statusCode < 300

/-- A request of the same client with the same key and the same payload, up to
the order of keys, to the same endpoint. -/
structure Duplicate (request other : IdempotentRequest) : Prop where
  user : other.user = request.user
  idempotencyKey : other.idempotencyKey = request.idempotencyKey
  endpoint : other.endpoint = request.endpoint
  data : other.data.canonical = request.data.canonical

instance (request other : IdempotentRequest) : Decidable (Duplicate request other) :=
  decidable_of_iff
    (other.user = request.user ∧ other.idempotencyKey = request.idempotencyKey ∧
      other.endpoint = request.endpoint ∧
      other.data.dumpsSorted = request.data.dumpsSorted)
    ⟨fun parts => ⟨parts.1, parts.2.1, parts.2.2.1,
        (PyValue.dumpsSorted_eq_iff other.decoded request.decoded).mp parts.2.2.2⟩,
      fun same => ⟨same.user, same.idempotencyKey, same.endpoint,
        (PyValue.dumpsSorted_eq_iff other.decoded request.decoded).mpr same.data⟩⟩

/-! ## Keys and hashes -/

/-- `_identify_client`. -/
def identifyClient (user : Client) : PyStr × PyStr :=
  match user.type with
  | .bank => (py "bank", uuidText user.id)
  | .agent => (py "agent", uuidText user.id)

/-- The key of a reply in Redis. -/
def redisKeyOf (user : Client) (idempotencyKey : PyStr) : PyStr :=
  let client := identifyClient user
  py "idempotency:" ++ client.1 ++ py ":" ++ client.2 ++ py ":" ++ idempotencyKey

/-- The key of a client and the key of a request are read back. -/
theorem idText_inj
    {left right : Uuid} {leftKey rightKey : PyStr}
    (leftSmall : left < 16 ^ 32) (rightSmall : right < 16 ^ 32)
    (same : uuidText left ++ (py ":" ++ leftKey) = uuidText right ++ (py ":" ++ rightKey)) :
    left = right ∧ leftKey = rightKey := by
  have lengths : (uuidText left).length = (uuidText right).length := by
    rw [length_uuidText, length_uuidText]
  rcases List.append_inj same lengths with ⟨ids, keys⟩
  exact ⟨uuidText_inj leftSmall rightSmall ids, List.append_cancel_left keys⟩

/-- Clients have keys of their own. -/
theorem redisKeyOf_inj
    {left right : Client} {leftKey rightKey : PyStr}
    (same : redisKeyOf left leftKey = redisKeyOf right rightKey) :
    left = right ∧ leftKey = rightKey := by
  rcases left with ⟨leftType, leftId, leftSmall⟩
  rcases right with ⟨rightType, rightId, rightSmall⟩
  simp only [redisKeyOf, identifyClient, List.append_assoc] at same
  replace same := List.append_cancel_left same
  cases leftType with
  | bank =>
      cases rightType with
      | bank =>
          have parts := idText_inj leftSmall rightSmall
            (List.append_cancel_left (List.append_cancel_left same))
          cases parts.1
          exact ⟨rfl, parts.2⟩
      | agent => exact absurd (List.cons.inj same).1 (by decide)
  | agent =>
      cases rightType with
      | bank => exact absurd (List.cons.inj same).1 (by decide)
      | agent =>
          have parts := idText_inj leftSmall rightSmall
            (List.append_cancel_left (List.append_cancel_left same))
          cases parts.1
          exact ⟨rfl, parts.2⟩

variable (sha256 : PyStr → PyStr)

/-- `_hash_payload`. -/
def hashPayload (data : PyValue) : PyStr :=
  sha256 data.dumpsSorted

/-- Payloads which agree up to the order of keys have one hash. -/
theorem hashPayload_congr
    {first second : IdempotentRequest}
    (same : first.data.canonical = second.data.canonical) :
    hashPayload sha256 first.data = hashPayload sha256 second.data := by
  simp only [hashPayload,
    (PyValue.dumpsSorted_eq_iff first.decoded second.decoded).mpr same]

/-- The order in which a body lists its keys does not matter. -/
theorem hashPayload_perm
    {items others : List (PyStr × PyValue)}
    (perm : items.Perm others) (distinct : (items.map Prod.fst).Nodup) :
    hashPayload sha256 (.dict items) = hashPayload sha256 (.dict others) := by
  simp only [hashPayload, PyValue.dumpsSorted, PyValue.canonical_dict_perm perm distinct]

/-- The key and the payload of a request. -/
structure Keyed (request : IdempotentRequest) (redisKey payloadHash : PyStr) : Prop where
  redisKey : ∃ key, request.idempotencyKey = some key ∧ redisKey = redisKeyOf request.user key
  payloadHash : payloadHash = hashPayload sha256 request.data

/-! ## The wrapper -/

/-- A stored reply, as `json.loads` returns it. -/
structure CachedReply where
  payloadHash : PyStr
  statusCode : Nat
  responseData : PyValue

abbrev ReplyCache := ExpiringStore PyStr CachedReply

/-- `IDEMPOTENCY_TTL_SECONDS`. -/
def idempotencyTtlSeconds : Nat := 24 * 60 * 60

/-- The reply which a stored one is replayed as. -/
def CachedReply.response (cached : CachedReply) : Response where
  statusCode := cached.statusCode
  data := cached.responseData

/-- What the wrapper does before it calls the view. -/
inductive Lookup where
  | raised (error : KlikAPIException)
  | replay (redisKey : PyStr) (response : Response)
  | call (redisKey payloadHash : PyStr)

/-- The wrapper up to the call of the view, at a time. -/
def lookUp (cache : ReplyCache) (now : Nat) (request : IdempotentRequest) : Lookup :=
  match request.idempotencyKey with
  | none => .raised missingIdempotencyKeyError
  | some [] => .raised missingIdempotencyKeyError
  | some key =>
      let redisKey := redisKeyOf request.user key
      let payloadHash := hashPayload sha256 request.data
      match cache.get now redisKey with
      | some cached =>
          if cached.payloadHash ≠ payloadHash then .raised idempotencyConflictError
          else .replay redisKey cached.response
      | none => .call redisKey payloadHash

/-- The stored form of a reply. -/
def Response.cached (payloadHash : PyStr) (response : Response) : CachedReply where
  payloadHash := payloadHash
  statusCode := response.statusCode
  responseData := response.data

/-- The cache after a call of the view has returned. -/
def storeReply
    (now : Nat) (redisKey payloadHash : PyStr) (response : Response) (cache : ReplyCache) :
    ReplyCache :=
  if response.isSuccess then
    cache.set redisKey (response.cached payloadHash)
      (some (now + 1000 * idempotencyTtlSeconds))
  else cache

/-- A lookup raises, or it finds a reply for the payload, or it finds none.  A
request which has a key is refused as a conflict only. -/
theorem lookUp_cases
    (cache : ReplyCache) (now : Nat) (request : IdempotentRequest) :
    (∃ error, lookUp sha256 cache now request = .raised error ∧
        ∀ key, request.idempotencyKey = some key → key ≠ [] →
          error = idempotencyConflictError) ∨
      ∃ key, request.idempotencyKey = some key ∧ key ≠ [] ∧
        ((∃ cached, cache.get now (redisKeyOf request.user key) = some cached ∧
            cached.payloadHash = hashPayload sha256 request.data ∧
            lookUp sha256 cache now request =
              .replay (redisKeyOf request.user key) cached.response) ∨
          (cache.get now (redisKeyOf request.user key) = none ∧
            lookUp sha256 cache now request =
              .call (redisKeyOf request.user key) (hashPayload sha256 request.data))) := by
  simp only [lookUp]
  split
  · rename_i missing
    left
    refine ⟨_, rfl, ?_⟩
    intro key given
    rw [missing] at given
    cases given
  · rename_i empty
    left
    refine ⟨_, rfl, ?_⟩
    intro key given notEmpty
    rw [empty] at given
    exact absurd (Option.some.inj given).symm notEmpty
  · rename_i key notEmpty given
    cases found : cache.get now (redisKeyOf request.user key) with
    | none => exact Or.inr ⟨key, given, notEmpty, Or.inr ⟨found, rfl⟩⟩
    | some cached =>
        simp only
        split
        · exact Or.inl ⟨_, rfl, fun _ _ _ => rfl⟩
        · rename_i samePayload
          right
          refine ⟨key, given, notEmpty, Or.inl ⟨cached, found, ?_, rfl⟩⟩
          exact not_not.mp samePayload

end Klik.Idempotency
