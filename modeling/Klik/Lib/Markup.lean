import Mathlib.Data.List.Basic

/-!
# Tags and character data

A document is read point by point: one point opens a tag, another one closes
it, and what stands between two tags is character data.
-/

namespace Klik.Lib

/-- The points which open and close a tag. -/
structure Brackets (Point : Type*) where
  opening : Point
  closing : Point
  differ : opening ≠ closing

inductive Token (Point : Type*) where
  | data (text : List Point)
  | tag (text : List Point)
  deriving DecidableEq

/-- Where a reader stands: inside a tag or not, and what it read there. -/
structure Reader (Point : Type*) where
  inTag : Bool
  read : List Point
  deriving DecidableEq

namespace Reader

variable {Point : Type*}

/-- The reader before a document, and behind every tag. -/
def start : Reader Point := ⟨false, []⟩

/-- The token which ends here. -/
def token (reader : Reader Point) : Token Point :=
  if reader.inTag then .tag reader.read else .data reader.read

/-- The point which ends the token. -/
def awaited (brackets : Brackets Point) (reader : Reader Point) : Point :=
  if reader.inTag then brackets.closing else brackets.opening

def turn (reader : Reader Point) : Reader Point :=
  ⟨!reader.inTag, []⟩

def push (reader : Reader Point) (point : Point) : Reader Point :=
  { reader with read := reader.read ++ [point] }

variable [DecidableEq Point] (brackets : Brackets Point)

/-- The reader behind a text. -/
def after : Reader Point → List Point → Reader Point
  | reader, [] => reader
  | reader, point :: rest =>
      if point = reader.awaited brackets then reader.turn.after rest
      else (reader.push point).after rest

/-- The tokens which end inside a text. -/
def completed : Reader Point → List Point → List (Token Point)
  | _, [] => []
  | reader, point :: rest =>
      if point = reader.awaited brackets then reader.token :: reader.turn.completed rest
      else (reader.push point).completed rest

theorem after_append (reader : Reader Point) (left right : List Point) :
    reader.after brackets (left ++ right) =
      (reader.after brackets left).after brackets right := by
  induction left generalizing reader with
  | nil => rfl
  | cons point rest induction =>
      simp only [List.cons_append, after]
      split
      · exact induction _
      · exact induction _

theorem completed_append (reader : Reader Point) (left right : List Point) :
    reader.completed brackets (left ++ right) =
      reader.completed brackets left ++
        (reader.after brackets left).completed brackets right := by
  induction left generalizing reader with
  | nil => rfl
  | cons point rest induction =>
      simp only [List.cons_append, completed, after]
      split
      · rw [induction, List.cons_append]
      · exact induction _

/-- A text without the point which the reader waits for ends no token. -/
theorem read_plain
    (reader : Reader Point) {text : List Point}
    (plain : reader.awaited brackets ∉ text) :
    reader.after brackets text = { reader with read := reader.read ++ text } ∧
      reader.completed brackets text = [] := by
  induction text generalizing reader with
  | nil => exact ⟨by rw [List.append_nil]; rfl, rfl⟩
  | cons point rest induction =>
      have other : point ≠ reader.awaited brackets := fun same =>
        plain (same ▸ List.mem_cons_self ..)
      have remaining : (reader.push point).awaited brackets ∉ rest := fun inside =>
        plain (List.mem_cons_of_mem point inside)
      rcases induction (reader.push point) remaining with ⟨rest_after, rest_completed⟩
      refine ⟨?_, ?_⟩
      · rw [after, if_neg other, rest_after]
        simp only [push, List.append_assoc, List.singleton_append]
      · rw [completed, if_neg other, rest_completed]

theorem after_awaited (reader : Reader Point) (text : List Point) :
    reader.after brackets (reader.awaited brackets :: text) =
      reader.turn.after brackets text := by
  rw [after, if_pos rfl]

theorem completed_awaited (reader : Reader Point) (text : List Point) :
    reader.completed brackets (reader.awaited brackets :: text) =
      reader.token :: reader.turn.completed brackets text := by
  rw [completed, if_pos rfl]

end Reader

variable {Point : Type*} (brackets : Brackets Point)

/-- `<name>`. -/
def tagText (name : List Point) : List Point :=
  brackets.opening :: name ++ [brackets.closing]

/-- After a tag, and possibly some character data, a reader is outside of all
tags, wherever it was before. -/
def Settles (text : List Point) : Prop :=
  ∃ front data, text = front ++ brackets.closing :: data ∧ brackets.opening ∉ data

variable {brackets} in
theorem Settles.append_left
    {text : List Point} (settles : Settles brackets text) (before : List Point) :
    Settles brackets (before ++ text) := by
  rcases settles with ⟨front, data, rfl, plain⟩
  exact ⟨before ++ front, data, (List.append_assoc ..).symm, plain⟩

variable [DecidableEq Point]

/-- The tokens of a document.  What the document ends in is a token as well. -/
def tokens (text : List Point) : List (Token Point) :=
  Reader.start.completed brackets text ++ [(Reader.start.after brackets text).token]

/-! ## Reading a document in parts -/

/-- A reader outside of a tag which reads one. -/
theorem read_tag
    {reader : Reader Point} (outside : reader.inTag = false)
    {name : List Point} (plain : brackets.closing ∉ name) :
    reader.after brackets (tagText brackets name) = Reader.start ∧
      reader.completed brackets (tagText brackets name) =
        [.data reader.read, .tag name] := by
  have opens : brackets.opening = reader.awaited brackets := by
    rw [Reader.awaited, outside]
    rfl
  have inside : reader.turn = ⟨true, []⟩ := by
    rw [Reader.turn, outside]
    rfl
  have token : reader.token = .data reader.read := by
    rw [Reader.token, outside]
    rfl
  rcases Reader.read_plain brackets ⟨true, []⟩ plain with ⟨named, silent⟩
  constructor
  · rw [tagText, List.cons_append, opens, Reader.after_awaited, inside,
      Reader.after_append, named]
    exact Reader.after_awaited brackets ⟨true, name⟩ []
  · rw [tagText, List.cons_append, opens, Reader.completed_awaited, inside, token,
      Reader.completed_append, named, silent]
    exact congrArg _ (Reader.completed_awaited brackets ⟨true, name⟩ [])

/-- Character data between two tags is one token, and so is each tag. -/
theorem read_element
    {reader : Reader Point} (outside : reader.inTag = false)
    {name text close : List Point} (plainName : brackets.closing ∉ name)
    (plainText : brackets.opening ∉ text) (plainClose : brackets.closing ∉ close) :
    reader.after brackets (tagText brackets name ++ text ++ tagText brackets close) =
        Reader.start ∧
      reader.completed brackets (tagText brackets name ++ text ++ tagText brackets close) =
        [.data reader.read, .tag name, .data text, .tag close] := by
  rcases read_tag brackets outside plainName with ⟨opened, openTokens⟩
  rcases Reader.read_plain brackets Reader.start plainText with ⟨read, silent⟩
  have between : Reader.start.after brackets text = ⟨false, text⟩ := read
  have outsideAgain : (⟨false, text⟩ : Reader Point).inTag = false := rfl
  rcases read_tag brackets outsideAgain plainClose with ⟨closed, closeTokens⟩
  constructor
  · rw [Reader.after_append, Reader.after_append, opened, between, closed]
  · rw [Reader.completed_append, Reader.completed_append, Reader.after_append, opened,
      openTokens, silent, between, closeTokens, List.append_nil]
    rfl

variable {brackets}

theorem outside_of_data
    {reader : Reader Point} (outside : reader.inTag = false)
    {data : List Point} (plain : brackets.opening ∉ data) :
    (reader.after brackets data).inTag = false := by
  have awaited : reader.awaited brackets = brackets.opening := by
    rw [Reader.awaited, outside]
    rfl
  rw [(Reader.read_plain brackets reader (awaited.symm ▸ plain)).1]
  exact outside

/-- Whatever came before it, a text which settles leaves no tag open. -/
theorem Settles.outside
    {text : List Point} (settles : Settles brackets text) (reader : Reader Point) :
    (reader.after brackets text).inTag = false := by
  rcases settles with ⟨front, data, rfl, plain⟩
  rw [Reader.after_append]
  have closed : ((reader.after brackets front).after brackets
      [brackets.closing]).inTag = false := by
    cases inTag : (reader.after brackets front).inTag with
    | true =>
        have awaited : brackets.closing = (reader.after brackets front).awaited brackets := by
          rw [Reader.awaited, inTag]
          rfl
        rw [Reader.after, if_pos awaited]
        exact congrArg not inTag
    | false =>
        have other : brackets.closing ≠ (reader.after brackets front).awaited brackets := by
          rw [Reader.awaited, inTag]
          exact brackets.differ.symm
        rw [Reader.after, if_neg other]
        exact inTag
  rw [← List.singleton_append, Reader.after_append]
  exact outside_of_data closed plain

/-- An element with plain character data stands in the tokens of its document
as it was written, and does not touch the other tokens. -/
theorem tokens_element
    {before : List Point} (settles : Settles brackets before)
    {name text close : List Point} (plainName : brackets.closing ∉ name)
    (plainText : brackets.opening ∉ text) (plainClose : brackets.closing ∉ close)
    (rest : List Point) :
    tokens brackets
        (before ++ (tagText brackets name ++ text ++ tagText brackets close) ++ rest) =
      tokens brackets before ++ [.tag name, .data text, .tag close] ++
        tokens brackets rest := by
  have outside := settles.outside Reader.start
  rcases read_element brackets outside plainName plainText plainClose with ⟨ended, between⟩
  have token : (Reader.start.after brackets before).token =
      .data (Reader.start.after brackets before).read := by
    rw [Reader.token, outside]
    rfl
  have reached : Reader.start.after brackets
      (before ++ (tagText brackets name ++ text ++ tagText brackets close)) = Reader.start :=
    (Reader.after_append ..).trans ended
  rw [tokens, Reader.completed_append, Reader.completed_append, between,
    Reader.after_append _ _ (before ++ _) rest, reached]
  simp only [tokens, token, List.append_assoc, List.cons_append, List.nil_append]

end Klik.Lib
