import Klik.Lib.InsertionDict

/-!
# Remembered replies

A receiver which keeps its reply to a request under the key of the request,
and answers every later request with the same key from its memory.  A request
may also be left without a reply, and is then not remembered.  Requests with
one key get one reply, however often and in whatever order they are received,
and what a request brings about happens when its reply is remembered.
-/

namespace Klik.Lib

universe u v

variable {Key : Type u} {Reply : Type v} [DecidableEq Key]

/-- The reply to a request: the remembered one, or the one decided now. -/
def replyTo (memory : InsertionDict Key Reply) (key : Key) (decided : Option Reply) :
    Option Reply :=
  match memory.get? key with
  | some reply => some reply
  | none => decided

/-- The memory after a request. -/
def remember (memory : InsertionDict Key Reply) (key : Key) (decided : Option Reply) :
    InsertionDict Key Reply :=
  match memory.get? key, decided with
  | none, some reply => memory.set key reply
  | _, _ => memory

/-- The request is new, and its reply says that it is carried out. -/
def carriesOut (does : Reply → Bool) (memory : InsertionDict Key Reply) (key : Key)
    (decided : Option Reply) : Bool :=
  (memory.get? key).isNone && decided.any does

variable {memory : InsertionDict Key Reply} {key : Key} {decided : Option Reply}

section Known

variable {reply : Reply}

theorem replyTo_known (known : memory.get? key = some reply) :
    replyTo memory key decided = some reply := by
  simp only [replyTo, known]

theorem remember_known (known : memory.get? key = some reply) :
    remember memory key decided = memory := by
  simp only [remember, known]

theorem carriesOut_known {does : Reply → Bool} (known : memory.get? key = some reply) :
    carriesOut does memory key decided = false := by
  simp only [carriesOut, known, Option.isNone_some, Bool.false_and]

theorem replyTo_new (new : memory.get? key = none) : replyTo memory key decided = decided := by
  simp only [replyTo, new]

theorem remember_new (new : memory.get? key = none) :
    remember memory key (some reply) = memory.set key reply := by
  simp only [remember, new]

end Known

/-! ## One request -/

theorem get?_remember (memory : InsertionDict Key Reply) (key : Key) (decided : Option Reply)
    (other : Key) :
    (remember memory key decided).get? other =
      if key = other then replyTo memory key decided else memory.get? other := by
  cases known : memory.get? key with
  | some reply =>
      rw [remember_known known, replyTo_known known]
      split
      · rename_i same
        rw [← same, known]
      · rfl
  | none =>
      rw [replyTo_new known]
      cases decided with
      | none =>
          simp only [remember, known]
          split
          · rename_i same
            rw [← same, known]
          · rfl
      | some reply => rw [remember_new known, InsertionDict.get?_set]

/-- What was remembered stays. -/
theorem get?_remember_of_get? {other : Key} {reply : Reply}
    (known : memory.get? other = some reply) (key : Key) (decided : Option Reply) :
    (remember memory key decided).get? other = some reply := by
  rw [get?_remember]
  split
  · rename_i same
    subst same
    exact replyTo_known known
  · exact known

/-- The reply which was given is remembered. -/
theorem get?_remember_of_replyTo {reply : Reply}
    (replied : replyTo memory key decided = some reply) :
    (remember memory key decided).get? key = some reply := by
  rw [get?_remember, if_pos rfl, replied]

/-! ## All requests -/

/-- Every reply of a log is the remembered one. -/
def RepliesKept (memory : InsertionDict Key Reply) (log : List (Key × Reply)) : Prop :=
  ∀ entry ∈ log, memory.get? entry.1 = some entry.2

theorem RepliesKept.nil : RepliesKept memory [] := by
  intro entry member
  cases member

/-- Replies to one key are equal. -/
theorem RepliesKept.same
    {log : List (Key × Reply)} (kept : RepliesKept memory log) {first second : Reply}
    (one : (key, first) ∈ log) (other : (key, second) ∈ log) : first = second := by
  have remembered : memory.get? key = some first := kept _ one
  rw [show memory.get? key = some second from kept _ other] at remembered
  exact (Option.some.inj remembered).symm

/-- A request adds its reply to the log. -/
theorem RepliesKept.remember
    {log : List (Key × Reply)} (kept : RepliesKept memory log)
    (key : Key) (decided : Option Reply) :
    RepliesKept (remember memory key decided)
      (log ++ ((replyTo memory key decided).map fun reply => (key, reply)).toList) := by
  intro entry member
  rcases List.mem_append.mp member with earlier | new
  · exact get?_remember_of_get? (kept entry earlier) key decided
  · rcases Option.map_eq_some_iff.mp (Option.mem_toList.mp new) with ⟨reply, replied, rfl⟩
    exact get?_remember_of_replyTo replied

/-- The requests which were carried out are those whose remembered reply says
so, and no request was carried out twice. -/
structure CarriedOnce (does : Reply → Bool) (memory : InsertionDict Key Reply)
    (done : List Key) : Prop where
  nodup : done.Nodup
  mem_iff : ∀ key, key ∈ done ↔ (memory.get? key).any does = true

theorem CarriedOnce.nil {does : Reply → Bool} :
    CarriedOnce does ([] : InsertionDict Key Reply) [] where
  nodup := List.nodup_nil
  mem_iff key := by simp

theorem CarriedOnce.remember
    {does : Reply → Bool} {done : List Key} (once : CarriedOnce does memory done)
    (key : Key) (decided : Option Reply) :
    CarriedOnce does (remember memory key decided)
      (done ++ if carriesOut does memory key decided then [key] else []) := by
  cases known : memory.get? key with
  | some reply =>
      rw [remember_known known, carriesOut_known known, if_neg Bool.false_ne_true,
        List.append_nil]
      exact once
  | none =>
      have absent : key ∉ done := by
        rw [once.mem_iff, known]
        exact Bool.false_ne_true
      constructor
      · split
        · rw [List.nodup_append]
          refine ⟨once.nodup, List.nodup_singleton key, ?_⟩
          intro old member other single same
          rw [List.mem_singleton.mp single] at same
          exact absent (same ▸ member)
        · rw [List.append_nil]
          exact once.nodup
      · intro other
        rw [List.mem_append, get?_remember, replyTo_new known, once.mem_iff]
        by_cases same : key = other
        · subst same
          simp [carriesOut, known]
        · rw [if_neg same]
          constructor
          · rintro (old | new)
            · exact old
            · split at new
              · exact absurd (List.mem_singleton.mp new).symm same
              · cases new
          · exact Or.inl

end Klik.Lib
