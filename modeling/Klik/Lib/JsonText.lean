import Klik.Lib.JsonEscape
import Klik.Lib.PyValue
import Mathlib.Data.List.Lex
import Mathlib.Data.List.Sort

/-!
# Written JSON documents

`json.dumps(value, sort_keys=True)`, and what its text says about the value:
two decoded values have the same text exactly when they are equal up to the
order of the keys of their dictionaries.
-/

namespace Klik.Lib

namespace PyValue

/-! ## Decoded values -/

/-- The letters of a finite number. -/
def isNumeral (point : Nat) : Bool :=
  (48 ≤ point && point ≤ 57) || point == 43 || point == 45 || point == 46 || point == 101

/-- The `str` of a number which a decoder makes: an integer, a float, or a
float out of range. -/
def decodedNumber (text : PyStr) : Bool :=
  text == py "inf" || text == py "-inf" ||
    (text.all isNumeral && text.head?.any fun point => point == 45 || (48 ≤ point && point ≤ 57))

/-- Whether a number with this `str` differs from zero: a digit before the
exponent does. -/
def nonzeroNumber (text : PyStr) : Bool :=
  text == py "inf" || text == py "-inf" ||
    (text.takeWhile (· != 101)).any fun point => 49 ≤ point && point ≤ 57

mutual

/-- A value as a JSON decoder makes it: texts have no separate halves of a
surrogate pair, and no dictionary has a key twice. -/
def decoded : PyValue → Bool
  | .none => true
  | .bool _ => true
  | .number text nonzero => decodedNumber text && nonzero == nonzeroNumber text
  | .str text => decodedText text
  | .list items => decodedItems items
  | .dict items => decide (items.map Prod.fst).Nodup && decodedPairs items

def decodedItems : List PyValue → Bool
  | [] => true
  | item :: items => decoded item && decodedItems items

def decodedPairs : List (PyStr × PyValue) → Bool
  | [] => true
  | (key, value) :: items => decodedText key && decoded value && decodedPairs items

end

theorem decodedPairs_iff {items : List (PyStr × PyValue)} :
    decodedPairs items = true ↔
      ∀ item ∈ items, decodedText item.1 = true ∧ decoded item.2 = true := by
  induction items with
  | nil => simp [decodedPairs]
  | cons item items induction =>
      simp only [decodedPairs, Bool.and_eq_true, induction, List.forall_mem_cons]

/-! ## The order of keys -/

/-- The order of dictionary items, that of their keys. -/
def keyLe (left right : PyStr × PyValue) : Prop :=
  left.1 ≤ right.1

instance : DecidableRel keyLe := fun left right =>
  inferInstanceAs (Decidable (left.1 ≤ right.1))

instance : Std.Total keyLe where
  total left right := le_total left.1 right.1

instance : IsTrans (PyStr × PyValue) keyLe where
  trans left middle right first second := by
    simp only [keyLe] at first second ⊢
    exact le_trans first second

mutual

/-- The value with the items of each dictionary in the order of their keys. -/
def canonical : PyValue → PyValue
  | .none => .none
  | .bool value => .bool value
  | .number text nonzero => .number text nonzero
  | .str text => .str text
  | .list items => .list (canonicalItems items)
  | .dict items => .dict ((canonicalPairs items).insertionSort keyLe)

def canonicalItems : List PyValue → List PyValue
  | [] => []
  | item :: items => canonical item :: canonicalItems items

def canonicalPairs : List (PyStr × PyValue) → List (PyStr × PyValue)
  | [] => []
  | (key, value) :: items => (key, canonical value) :: canonicalPairs items

end

theorem canonicalPairs_eq_map (items : List (PyStr × PyValue)) :
    canonicalPairs items = items.map fun item => (item.1, canonical item.2) := by
  induction items with
  | nil => rfl
  | cons item items induction => simp only [canonicalPairs, induction, List.map_cons]

theorem keys_canonicalPairs (items : List (PyStr × PyValue)) :
    (canonicalPairs items).map Prod.fst = items.map Prod.fst := by
  rw [canonicalPairs_eq_map, List.map_map]
  rfl

/-- Items of one dictionary with the same key are the same. -/
theorem eq_of_key_eq
    {items : List (PyStr × PyValue)} (distinct : (items.map Prod.fst).Nodup)
    {left right : PyStr × PyValue} (leftMember : left ∈ items) (rightMember : right ∈ items)
    (same : left.1 = right.1) : left = right :=
  List.inj_on_of_nodup_map distinct leftMember rightMember same

/-- The order in which a dictionary got its keys does not matter. -/
theorem canonical_dict_perm
    {items others : List (PyStr × PyValue)}
    (perm : items.Perm others) (distinct : (items.map Prod.fst).Nodup) :
    canonical (.dict items) = canonical (.dict others) := by
  have canonicalPerm : (canonicalPairs items).Perm (canonicalPairs others) := by
    rw [canonicalPairs_eq_map, canonicalPairs_eq_map]
    exact perm.map _
  have canonicalDistinct : ((canonicalPairs items).map Prod.fst).Nodup := by
    rw [keys_canonicalPairs]
    exact distinct
  have sortedPerm := (List.perm_insertionSort keyLe (canonicalPairs items)).trans
    (canonicalPerm.trans (List.perm_insertionSort keyLe (canonicalPairs others)).symm)
  have sorted : (canonicalPairs items).insertionSort keyLe =
      (canonicalPairs others).insertionSort keyLe := by
    refine sortedPerm.eq_of_pairwise ?_
      (List.pairwise_insertionSort keyLe _) (List.pairwise_insertionSort keyLe _)
    intro left right leftMember rightMember below above
    refine eq_of_key_eq canonicalDistinct
      ((List.mem_insertionSort keyLe).mp leftMember)
      (canonicalPerm.mem_iff.mpr ((List.mem_insertionSort keyLe).mp rightMember)) ?_
    exact le_antisymm below above
  simp only [canonical, sorted]

mutual

theorem decoded_canonical :
    (value : PyValue) → decoded value = true → decoded (canonical value) = true
  | .none, _ => rfl
  | .bool _, _ => rfl
  | .number _ _, isDecoded => isDecoded
  | .str _, isDecoded => isDecoded
  | .list items, isDecoded => by
      simp only [decoded, canonical] at isDecoded ⊢
      exact decodedItems_canonicalItems items isDecoded
  | .dict items, isDecoded => by
      simp only [decoded, canonical, Bool.and_eq_true, decide_eq_true_eq] at isDecoded ⊢
      have perm := List.perm_insertionSort keyLe (canonicalPairs items)
      constructor
      · rw [(perm.map Prod.fst).nodup_iff, keys_canonicalPairs]
        exact isDecoded.1
      · rw [decodedPairs_iff]
        intro item member
        exact decodedPairs_iff.mp (decodedPairs_canonicalPairs items isDecoded.2) item
          (perm.mem_iff.mp member)

theorem decodedItems_canonicalItems :
    (items : List PyValue) → decodedItems items = true →
      decodedItems (canonicalItems items) = true
  | [], _ => rfl
  | item :: items, isDecoded => by
      simp only [decodedItems, canonicalItems, Bool.and_eq_true] at isDecoded ⊢
      exact ⟨decoded_canonical item isDecoded.1,
        decodedItems_canonicalItems items isDecoded.2⟩

theorem decodedPairs_canonicalPairs :
    (items : List (PyStr × PyValue)) → decodedPairs items = true →
      decodedPairs (canonicalPairs items) = true
  | [], _ => rfl
  | (key, value) :: items, isDecoded => by
      simp only [decodedPairs, canonicalPairs, Bool.and_eq_true] at isDecoded ⊢
      exact ⟨⟨isDecoded.1.1, decoded_canonical value isDecoded.1.2⟩,
        decodedPairs_canonicalPairs items isDecoded.2⟩

end

/-! ## The written text -/

/-- How `json.dumps` writes a number. -/
def dumpsNumber (text : PyStr) : PyStr :=
  if text = py "inf" then py "Infinity"
  else if text = py "-inf" then py "-Infinity"
  else text

mutual

/-- `json.dumps(value)`. -/
def dumps : PyValue → PyStr
  | .none => py "null"
  | .bool true => py "true"
  | .bool false => py "false"
  | .number text _ => dumpsNumber text
  | .str text => 34 :: (escapeText text ++ [34])
  | .list [] => py "[]"
  | .list (item :: items) => 91 :: (dumps item ++ dumpsItems items)
  | .dict [] => py "\x7b\x7d"
  | .dict ((key, value) :: items) =>
      123 :: 34 :: (escapeText key ++ (py "\": " ++ (dumps value ++ dumpsPairs items)))

/-- The items of a list after its first one. -/
def dumpsItems : List PyValue → PyStr
  | [] => py "]"
  | item :: items => py ", " ++ (dumps item ++ dumpsItems items)

/-- The items of a dictionary after its first one. -/
def dumpsPairs : List (PyStr × PyValue) → PyStr
  | [] => py "\x7d"
  | (key, value) :: items =>
      py ", \"" ++ (escapeText key ++ (py "\": " ++ (dumps value ++ dumpsPairs items)))

end

/-! ## What the text says -/

/-- The letters of a written number. -/
def isNumberLetter (point : Nat) : Bool :=
  isNumeral point || (py "Infinity").contains point

/-- A text before which a written number ends. -/
def EndsNumber (rest : PyStr) : Prop :=
  ∀ point, rest.head? = some point → isNumberLetter point = false

/-- Two texts of some letters which end where the letters do are read alike. -/
theorem append_inj_of_letters
    {left right rest other : PyStr}
    (leftLetters : left.all isNumberLetter = true)
    (rightLetters : right.all isNumberLetter = true)
    (restEnds : EndsNumber rest) (otherEnds : EndsNumber other)
    (same : left ++ rest = right ++ other) : left = right ∧ rest = other := by
  induction left generalizing right with
  | nil =>
      cases right with
      | nil => exact ⟨rfl, same⟩
      | cons point points =>
          rw [List.nil_append] at same
          have stops := restEnds point (by rw [same]; rfl)
          simp only [List.all_cons, Bool.and_eq_true] at rightLetters
          rw [rightLetters.1] at stops
          cases stops
  | cons point points induction =>
      simp only [List.all_cons, Bool.and_eq_true] at leftLetters
      cases right with
      | nil =>
          rw [List.nil_append] at same
          have stops := otherEnds point (by rw [← same]; rfl)
          rw [leftLetters.1] at stops
          cases stops
      | cons head tail =>
          simp only [List.all_cons, Bool.and_eq_true] at rightLetters
          simp only [List.cons_append, List.cons.injEq] at same
          have tails := induction leftLetters.2 rightLetters.2 same.2
          rw [same.1, tails.1]
          exact ⟨rfl, tails.2⟩

/-- The forms of a decoded number. -/
theorem decodedNumber_cases
    {text : PyStr} (isDecoded : decodedNumber text = true) :
    text = py "inf" ∨ text = py "-inf" ∨
      (text ≠ py "inf" ∧ text ≠ py "-inf" ∧ text.all isNumeral = true ∧
        ∃ point points, text = point :: points ∧
          (point = 45 ∨ (48 ≤ point ∧ point ≤ 57))) := by
  by_cases infinite : text = py "inf"
  · exact .inl infinite
  · by_cases negative : text = py "-inf"
    · exact .inr (.inl negative)
    · refine .inr (.inr ⟨infinite, negative, ?_⟩)
      simp only [decodedNumber, Bool.or_eq_true, beq_iff_eq, infinite, negative, false_or,
        Bool.and_eq_true] at isDecoded
      refine ⟨isDecoded.1, ?_⟩
      cases text with
      | nil => cases isDecoded.2
      | cons point points =>
          refine ⟨point, points, rfl, ?_⟩
          simpa using isDecoded.2

theorem dumpsNumber_letters
    {text : PyStr} (isDecoded : decodedNumber text = true) :
    (dumpsNumber text).all isNumberLetter = true := by
  rcases decodedNumber_cases isDecoded with rfl | rfl | ⟨infinite, negative, numerals, -⟩
  · decide
  · decide
  · simp only [dumpsNumber, if_neg infinite, if_neg negative]
    rw [List.all_eq_true] at numerals ⊢
    intro point member
    simp only [isNumberLetter, numerals point member, Bool.true_or]

theorem dumpsNumber_inj
    {left right : PyStr}
    (leftDecoded : decodedNumber left = true) (rightDecoded : decodedNumber right = true)
    (same : dumpsNumber left = dumpsNumber right) : left = right := by
  have foreign : ∀ text : PyStr, text.all isNumeral = true →
      text ≠ py "Infinity" ∧ text ≠ py "-Infinity" := by
    intro text numerals
    constructor
    · rintro rfl
      exact absurd numerals (by decide)
    · rintro rfl
      exact absurd numerals (by decide)
  rcases decodedNumber_cases leftDecoded with
    rfl | rfl | ⟨leftInfinite, leftNegative, leftNumerals, -⟩
  · rcases decodedNumber_cases rightDecoded with
      rfl | rfl | ⟨infinite, negative, numerals, -⟩
    · rfl
    · exact absurd same (by decide)
    · simp only [dumpsNumber, if_neg infinite, if_neg negative] at same
      exact absurd same.symm (foreign right numerals).1
  · rcases decodedNumber_cases rightDecoded with
      rfl | rfl | ⟨infinite, negative, numerals, -⟩
    · exact absurd same (by decide)
    · rfl
    · simp only [dumpsNumber, if_neg infinite, if_neg negative] at same
      exact absurd same.symm (foreign right numerals).2
  · simp only [dumpsNumber, if_neg leftInfinite, if_neg leftNegative] at same
    rcases decodedNumber_cases rightDecoded with
      rfl | rfl | ⟨infinite, negative, numerals, -⟩
    · exact absurd same (foreign left leftNumerals).1
    · exact absurd same (foreign left leftNumerals).2
    · simpa only [dumpsNumber, if_neg infinite, if_neg negative] using same

/-- What a value is written like. -/
inductive Form where
  | null | true | false | number | text | list | dict
  deriving DecidableEq

def form : PyValue → Form
  | .none => .null
  | .bool true => .true
  | .bool false => .false
  | .number _ _ => .number
  | .str _ => .text
  | .list _ => .list
  | .dict _ => .dict

/-- The form of the values whose text starts with a letter. -/
def formOf (point : Nat) : Option Form :=
  if point = 110 then some .null
  else if point = 116 then some .true
  else if point = 102 then some .false
  else if point = 34 then some .text
  else if point = 91 then some .list
  else if point = 123 then some .dict
  else if point = 45 ∨ point = 73 ∨ (48 ≤ point ∧ point ≤ 57) then some .number
  else .none

theorem formOf_dumpsNumber
    {text : PyStr} (isDecoded : decodedNumber text = true) :
    ∃ point points, dumpsNumber text = point :: points ∧ formOf point = some .number := by
  rcases decodedNumber_cases isDecoded with
    rfl | rfl | ⟨infinite, negative, -, point, points, rfl, first⟩
  · exact ⟨73, _, rfl, rfl⟩
  · exact ⟨45, _, rfl, rfl⟩
  · refine ⟨point, points, ?_, ?_⟩
    · simp only [dumpsNumber, if_neg infinite, if_neg negative]
    · simp only [formOf]
      repeat rw [if_neg (by omega)]
      rw [if_pos (by omega)]

/-- The first letter tells the form of a value. -/
theorem formOf_dumps
    {value : PyValue} (isDecoded : decoded value = true) :
    ∃ point points, dumps value = point :: points ∧ formOf point = some (form value) := by
  cases value with
  | none => exact ⟨110, _, rfl, rfl⟩
  | bool value =>
      cases value with
      | true => exact ⟨116, _, rfl, rfl⟩
      | false => exact ⟨102, _, rfl, rfl⟩
  | number text nonzero =>
      simp only [decoded, Bool.and_eq_true] at isDecoded
      exact formOf_dumpsNumber isDecoded.1
  | str text => exact ⟨34, _, rfl, rfl⟩
  | list items =>
      cases items with
      | nil => exact ⟨91, _, rfl, rfl⟩
      | cons item items => exact ⟨91, _, rfl, rfl⟩
  | dict items =>
      cases items with
      | nil => exact ⟨123, _, rfl, rfl⟩
      | cons item items => exact ⟨123, _, rfl, rfl⟩

theorem form_eq_of_dumps
    {left right : PyValue} {rest other : PyStr}
    (leftDecoded : decoded left = true) (rightDecoded : decoded right = true)
    (same : dumps left ++ rest = dumps right ++ other) : form left = form right := by
  rcases formOf_dumps leftDecoded with ⟨point, points, text, its⟩
  rcases formOf_dumps rightDecoded with ⟨head, tail, headText, headIts⟩
  rw [text, headText] at same
  simp only [List.cons_append, List.cons.injEq] at same
  rw [same.1, headIts] at its
  exact (Option.some.inj its).symm

/-- No value is written like the end of a list. -/
theorem dumps_ne_bracket
    {value : PyValue} {rest other : PyStr} (isDecoded : decoded value = true) :
    dumps value ++ rest ≠ 93 :: other := by
  rcases formOf_dumps isDecoded with ⟨point, points, text, its⟩
  intro same
  rw [text] at same
  simp only [List.cons_append, List.cons.injEq] at same
  rw [same.1] at its
  cases its

theorem endsNumber_dumpsItems (items : List PyValue) (rest : PyStr) :
    EndsNumber (dumpsItems items ++ rest) := by
  intro point first
  cases items with
  | nil =>
      cases first
      decide
  | cons item items =>
      cases first
      decide

theorem endsNumber_dumpsPairs (items : List (PyStr × PyValue)) (rest : PyStr) :
    EndsNumber (dumpsPairs items ++ rest) := by
  intro point first
  cases items with
  | nil =>
      cases first
      decide
  | cons item items =>
      cases first
      decide

/-- A dictionary item, up to what follows it, is read back from its text. -/
theorem key_inj
    {left right rest other : PyStr}
    (leftDecoded : decodedText left = true) (rightDecoded : decodedText right = true)
    (same : escapeText left ++ (py "\": " ++ rest) = escapeText right ++ (py "\": " ++ other)) :
    left = right ∧ rest = other := by
  have texts : left = right ∧ 58 :: 32 :: rest = 58 :: 32 :: other :=
    escapeText_inj leftDecoded rightDecoded same
  simpa using texts

mutual

/-- A written value is read back from its text, where the text goes on with
the end of a container or its next item. -/
theorem dumps_inj :
    (left right : PyValue) → decoded left = true → decoded right = true →
      ∀ rest other : PyStr, EndsNumber rest → EndsNumber other →
        dumps left ++ rest = dumps right ++ other → left = right ∧ rest = other
  | left, right, leftDecoded, rightDecoded, rest, other, restEnds, otherEnds, same => by
      have forms := form_eq_of_dumps leftDecoded rightDecoded same
      match left, right with
      | .none, .none => exact ⟨rfl, List.append_cancel_left same⟩
      | .bool true, .bool true => exact ⟨rfl, List.append_cancel_left same⟩
      | .bool false, .bool false => exact ⟨rfl, List.append_cancel_left same⟩
      | .number text nonzero, .number otherText otherNonzero =>
          simp only [decoded, Bool.and_eq_true, beq_iff_eq] at leftDecoded rightDecoded
          have texts := append_inj_of_letters (dumpsNumber_letters leftDecoded.1)
            (dumpsNumber_letters rightDecoded.1) restEnds otherEnds same
          have numbers := dumpsNumber_inj leftDecoded.1 rightDecoded.1 texts.1
          rw [leftDecoded.2, rightDecoded.2, numbers]
          exact ⟨rfl, texts.2⟩
      | .str text, .str otherText =>
          simp only [dumps, List.cons_append, List.append_assoc, List.cons.injEq, true_and,
            List.nil_append] at same
          have texts := escapeText_inj leftDecoded rightDecoded same
          rw [texts.1]
          exact ⟨rfl, texts.2⟩
      | .list [], .list [] => exact ⟨rfl, List.append_cancel_left same⟩
      | .list [], .list (item :: items) =>
          simp only [decoded, decodedItems, Bool.and_eq_true] at rightDecoded
          simp only [dumps, List.cons_append, List.append_assoc] at same
          exact absurd (List.cons.inj same).2.symm (dumps_ne_bracket rightDecoded.1)
      | .list (item :: items), .list [] =>
          simp only [decoded, decodedItems, Bool.and_eq_true] at leftDecoded
          simp only [dumps, List.cons_append, List.append_assoc] at same
          exact absurd (List.cons.inj same).2 (dumps_ne_bracket leftDecoded.1)
      | .list (item :: items), .list (head :: tail) =>
          simp only [decoded, decodedItems, Bool.and_eq_true] at leftDecoded rightDecoded
          simp only [dumps, List.cons_append, List.append_assoc, List.cons.injEq,
            true_and] at same
          have firsts := dumps_inj item head leftDecoded.1 rightDecoded.1 _ _
            (endsNumber_dumpsItems _ _) (endsNumber_dumpsItems _ _) same
          have others := dumpsItems_inj items tail leftDecoded.2 rightDecoded.2 _ _ firsts.2
          rw [firsts.1, others.1]
          exact ⟨rfl, others.2⟩
      | .dict [], .dict [] => exact ⟨rfl, List.append_cancel_left same⟩
      | .dict [], .dict ((key, value) :: items) =>
          simp only [dumps, List.cons_append] at same
          cases (List.cons.inj same).2
      | .dict ((key, value) :: items), .dict [] =>
          simp only [dumps, List.cons_append] at same
          cases (List.cons.inj same).2
      | .dict ((key, value) :: items), .dict ((otherKey, otherValue) :: others) =>
          simp only [decoded, decodedPairs, Bool.and_eq_true] at leftDecoded rightDecoded
          simp only [dumps, List.cons_append, List.append_assoc, List.cons.injEq,
            true_and] at same
          have keys := key_inj leftDecoded.2.1.1 rightDecoded.2.1.1 same
          have values := dumps_inj value otherValue leftDecoded.2.1.2 rightDecoded.2.1.2 _ _
            (endsNumber_dumpsPairs _ _) (endsNumber_dumpsPairs _ _) keys.2
          have rests := dumpsPairs_inj items others leftDecoded.2.2 rightDecoded.2.2 _ _
            values.2
          rw [keys.1, values.1, rests.1]
          exact ⟨rfl, rests.2⟩

theorem dumpsItems_inj :
    (left right : List PyValue) → decodedItems left = true → decodedItems right = true →
      ∀ rest other : PyStr, dumpsItems left ++ rest = dumpsItems right ++ other →
        left = right ∧ rest = other
  | [], [], _, _, _, _, same => ⟨rfl, List.append_cancel_left same⟩
  | [], _ :: _, _, _, _, _, same => by cases same
  | _ :: _, [], _, _, _, _, same => by cases same
  | item :: items, head :: tail, leftDecoded, rightDecoded, rest, other, same => by
      simp only [decodedItems, Bool.and_eq_true] at leftDecoded rightDecoded
      simp only [dumpsItems, List.append_assoc, List.append_cancel_left_eq] at same
      have firsts := dumps_inj item head leftDecoded.1 rightDecoded.1 _ _
        (endsNumber_dumpsItems _ _) (endsNumber_dumpsItems _ _) same
      have others := dumpsItems_inj items tail leftDecoded.2 rightDecoded.2 _ _ firsts.2
      rw [firsts.1, others.1]
      exact ⟨rfl, others.2⟩

theorem dumpsPairs_inj :
    (left right : List (PyStr × PyValue)) → decodedPairs left = true →
      decodedPairs right = true →
      ∀ rest other : PyStr, dumpsPairs left ++ rest = dumpsPairs right ++ other →
        left = right ∧ rest = other
  | [], [], _, _, _, _, same => ⟨rfl, List.append_cancel_left same⟩
  | [], _ :: _, _, _, _, _, same => by cases same
  | _ :: _, [], _, _, _, _, same => by cases same
  | (key, value) :: items, (otherKey, otherValue) :: others,
      leftDecoded, rightDecoded, rest, other, same => by
      simp only [decodedPairs, Bool.and_eq_true] at leftDecoded rightDecoded
      simp only [dumpsPairs, List.append_assoc, List.append_cancel_left_eq] at same
      have keys := key_inj leftDecoded.1.1 rightDecoded.1.1 same
      have values := dumps_inj value otherValue leftDecoded.1.2 rightDecoded.1.2 _ _
        (endsNumber_dumpsPairs _ _) (endsNumber_dumpsPairs _ _) keys.2
      have rests := dumpsPairs_inj items others leftDecoded.2 rightDecoded.2 _ _ values.2
      rw [keys.1, values.1, rests.1]
      exact ⟨rfl, rests.2⟩

end

/-- `json.dumps(value, sort_keys=True)`. -/
def dumpsSorted (value : PyValue) : PyStr :=
  dumps value.canonical

/-- The sorted text tells values apart up to the order of keys. -/
theorem dumpsSorted_eq_iff
    {left right : PyValue}
    (leftDecoded : decoded left = true) (rightDecoded : decoded right = true) :
    dumpsSorted left = dumpsSorted right ↔ canonical left = canonical right := by
  constructor
  · intro same
    have endsEmpty : EndsNumber [] := by
      intro point first
      cases first
    have texts : dumps left.canonical ++ [] = dumps right.canonical ++ [] := by
      rw [List.append_nil, List.append_nil]
      exact same
    exact (dumps_inj _ _ (decoded_canonical left leftDecoded)
      (decoded_canonical right rightDecoded) _ _ endsEmpty endsEmpty texts).1
  · intro same
    simp only [dumpsSorted, same]

end PyValue

end Klik.Lib
