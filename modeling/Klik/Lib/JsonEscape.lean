import Klik.Lib.PyText
import Mathlib.Data.List.Chain

/-!
# Texts in a JSON document

`json.dumps` writes a text in ASCII: a code point outside the printable range
becomes one escape sequence for each of its UTF-16 units.  A text which comes
out of a JSON decoder never has the two halves of a surrogate pair as
separate code points, so that it can be told from its units.
-/

namespace Klik.Lib

universe u v

/-! ## Codes which no other code starts with -/

/-- Words of a code in which no word starts another, up to a letter which
starts no word, can be read back. -/
theorem flatMap_inj_of_stop
    {Symbol : Type u} {Letter : Type v} {code : Symbol → List Letter} {stop : Letter}
    {Valid : Symbol → Prop}
    (free : ∀ first second, Valid first → Valid second → ∀ left right,
      code first ++ left = code second ++ right → first = second)
    (starts : ∀ first, Valid first → ∀ left right, code first ++ left ≠ stop :: right)
    {first second : List Symbol} {rest other : List Letter}
    (firstValid : ∀ symbol ∈ first, Valid symbol)
    (secondValid : ∀ symbol ∈ second, Valid symbol)
    (same : first.flatMap code ++ stop :: rest = second.flatMap code ++ stop :: other) :
    first = second ∧ rest = other := by
  induction first generalizing second with
  | nil =>
      cases second with
      | nil =>
          simp only [List.flatMap_nil, List.nil_append, List.cons.injEq, true_and] at same
          exact ⟨rfl, same⟩
      | cons symbol symbols =>
          simp only [List.flatMap_nil, List.nil_append, List.flatMap_cons,
            List.append_assoc] at same
          exact absurd same.symm (starts symbol (secondValid symbol (List.mem_cons_self ..)) _ _)
  | cons symbol symbols induction =>
      have valid := firstValid symbol (List.mem_cons_self ..)
      cases second with
      | nil =>
          simp only [List.flatMap_nil, List.nil_append, List.flatMap_cons,
            List.append_assoc] at same
          exact absurd same (starts symbol valid _ _)
      | cons head tail =>
          simp only [List.flatMap_cons, List.append_assoc] at same
          have heads := free symbol head valid
            (secondValid head (List.mem_cons_self ..)) _ _ same
          subst heads
          have tails := induction
            (fun other member => firstValid other (List.mem_cons_of_mem _ member))
            (fun other member => secondValid other (List.mem_cons_of_mem _ member))
            (List.append_cancel_left same)
          rw [tails.1]
          exact ⟨rfl, tails.2⟩

/-! ## UTF-16 -/

/-- The units of a code point. -/
def pointUnits (point : Nat) : List Nat :=
  if point < 0x10000 then [point]
  else [0xD800 + (point - 0x10000) / 0x400, 0xDC00 + (point - 0x10000) % 0x400]

/-- The UTF-16 units of a text. -/
def utf16 (text : PyStr) : List Nat :=
  text.flatMap pointUnits

/-- Whether two code points are the halves of one. -/
def areHalves (high low : Nat) : Prop :=
  0xD800 ≤ high ∧ high ≤ 0xDBFF ∧ 0xDC00 ≤ low ∧ low ≤ 0xDFFF

instance (high low : Nat) : Decidable (areHalves high low) :=
  inferInstanceAs (Decidable (_ ∧ _ ∧ _ ∧ _))

/-- A text as a JSON decoder makes it. -/
def decodedText (text : PyStr) : Bool :=
  text.all (fun point => point < 0x110000) &&
    decide (List.IsChain (fun high low => ¬ areHalves high low) text)

theorem decodedText_cons
    {point : Nat} {text : PyStr} (decoded : decodedText (point :: text) = true) :
    point < 0x110000 ∧ (∀ next, text.head? = some next → ¬ areHalves point next) ∧
      decodedText text = true := by
  simp only [decodedText, List.all_cons, Bool.and_eq_true, decide_eq_true_eq,
    List.isChain_cons] at decoded ⊢
  rcases decoded with ⟨⟨small, smallTail⟩, next, chain⟩
  refine ⟨small, ?_, smallTail, chain⟩
  intro following head
  exact next following (Option.mem_def.mpr head)

theorem lt_of_mem_utf16
    {text : PyStr} (decoded : decodedText text = true) :
    ∀ unit ∈ utf16 text, unit < 0x10000 := by
  intro unit member
  rcases List.mem_flatMap.mp member with ⟨point, pointMember, unitMember⟩
  simp only [decodedText, Bool.and_eq_true, List.all_eq_true, decide_eq_true_eq] at decoded
  have small := decoded.1 point pointMember
  simp only [pointUnits] at unitMember
  split at unitMember
  · rw [List.mem_singleton.mp unitMember]
    assumption
  · simp only [List.mem_cons, List.not_mem_nil, or_false] at unitMember
    rcases unitMember with high | low
    · omega
    · omega

/-- The first unit of a text which follows half a pair does not complete it. -/
theorem head_utf16
    {high low : Nat} {text : PyStr} {rest : List Nat}
    (follows : ∀ next, text.head? = some next → ¬ areHalves high next)
    (halves : areHalves high low)
    (decoded : decodedText text = true) :
    utf16 text ≠ low :: rest := by
  intro same
  cases text with
  | nil => cases same
  | cons point text =>
      have small := (decodedText_cons decoded).1
      have notLow := follows point rfl
      simp only [utf16, List.flatMap_cons, pointUnits, areHalves] at same notLow halves
      split at same
      · simp only [List.singleton_append, List.cons.injEq] at same
        omega
      · simp only [List.cons_append, List.cons.injEq] at same
        omega

theorem utf16_inj
    {left right : PyStr}
    (leftDecoded : decodedText left = true) (rightDecoded : decodedText right = true)
    (same : utf16 left = utf16 right) : left = right := by
  induction left generalizing right with
  | nil =>
      cases right with
      | nil => rfl
      | cons point text =>
          simp only [utf16, List.flatMap_nil, List.flatMap_cons, pointUnits] at same
          split at same
          · cases same
          · cases same
  | cons point text induction =>
      rcases decodedText_cons leftDecoded with ⟨small, follows, textDecoded⟩
      cases right with
      | nil =>
          simp only [utf16, List.flatMap_nil, List.flatMap_cons, pointUnits] at same
          split at same
          · cases same
          · cases same
      | cons head tail =>
          rcases decodedText_cons rightDecoded with ⟨headSmall, headFollows, tailDecoded⟩
          have texts : utf16 text = utf16 tail → text = tail := fun equal =>
            induction textDecoded tailDecoded equal
          simp only [utf16, List.flatMap_cons] at same texts
          by_cases pointShort : point < 0x10000
          · by_cases headShort : head < 0x10000
            · simp only [pointUnits, if_pos pointShort, if_pos headShort,
                List.singleton_append, List.cons.injEq] at same
              rw [same.1, texts same.2]
            · exfalso
              simp only [pointUnits, if_pos pointShort, if_neg headShort,
                List.cons_append, List.nil_append, List.cons.injEq] at same
              refine head_utf16 follows ?_ textDecoded same.2
              simp only [areHalves]
              omega
          · by_cases headShort : head < 0x10000
            · exfalso
              simp only [pointUnits, if_neg pointShort, if_pos headShort,
                List.cons_append, List.nil_append, List.cons.injEq] at same
              refine head_utf16 headFollows ?_ tailDecoded same.2.symm
              simp only [areHalves]
              omega
            · simp only [pointUnits, if_neg pointShort, if_neg headShort,
                List.cons_append, List.nil_append, List.cons.injEq] at same
              rw [texts same.2.2]
              congr 1
              omega

/-! ## Escape sequences -/

/-- The letter of a short escape sequence. -/
def shortEscape (unit : Nat) : Option Nat :=
  if unit = 34 then some 34
  else if unit = 92 then some 92
  else if unit = 10 then some 110
  else if unit = 13 then some 114
  else if unit = 9 then some 116
  else if unit = 12 then some 102
  else if unit = 8 then some 98
  else none

/-- The unit which a short escape sequence is for. -/
def shortUnit (letter : Nat) : Nat :=
  if letter = 110 then 10
  else if letter = 114 then 13
  else if letter = 116 then 9
  else if letter = 102 then 12
  else if letter = 98 then 8
  else letter

/-- How `json.dumps` writes a unit. -/
def escapeUnit (unit : Nat) : PyStr :=
  match shortEscape unit with
  | some letter => [92, letter]
  | none => if 32 ≤ unit ∧ unit ≤ 126 then [unit] else 92 :: 117 :: hexDigits 4 unit

/-- How `json.dumps` writes a text, without its quotes. -/
def escapeText (text : PyStr) : PyStr :=
  (utf16 text).flatMap escapeUnit

theorem shortEscape_some
    {unit letter : Nat} (short : shortEscape unit = some letter) :
    unit = shortUnit letter ∧ letter ≠ 117 := by
  simp only [shortEscape] at short
  split at short
  · cases short
    exact ⟨by assumption, by decide⟩
  · repeat' split at short
    all_goals first
      | cases short; exact ⟨by assumption, by decide⟩
      | cases short

theorem shortEscape_none
    {unit : Nat} (long : shortEscape unit = none) : unit ≠ 34 ∧ unit ≠ 92 := by
  constructor
  · rintro rfl
    cases long
  · rintro rfl
    cases long

/-- The three forms of a written unit. -/
inductive Escaped (unit : Nat) : PyStr → Prop where
  | short (letter : Nat) (its : unit = shortUnit letter) (notHex : letter ≠ 117) :
      Escaped unit [92, letter]
  | self (notQuote : unit ≠ 34) (notSlash : unit ≠ 92) : Escaped unit [unit]
  | hex : Escaped unit (92 :: 117 :: hexDigits 4 unit)

theorem escaped_escapeUnit (unit : Nat) : Escaped unit (escapeUnit unit) := by
  simp only [escapeUnit]
  cases short : shortEscape unit with
  | some letter =>
      rcases shortEscape_some short with ⟨its, notHex⟩
      exact .short letter its notHex
  | none =>
      simp only
      split
      · rcases shortEscape_none short with ⟨notQuote, notSlash⟩
        exact .self notQuote notSlash
      · exact .hex

/-- No written unit starts another. -/
theorem escapeUnit_free
    (first second : Nat) (firstUnit : first < 0x10000) (secondUnit : second < 0x10000)
    (left right : PyStr)
    (same : escapeUnit first ++ left = escapeUnit second ++ right) : first = second := by
  have firstForm := escaped_escapeUnit first
  have secondForm := escaped_escapeUnit second
  revert same firstForm secondForm
  generalize escapeUnit first = firstText
  generalize escapeUnit second = secondText
  intro same firstForm secondForm
  cases firstForm with
  | short letter its notHex =>
      cases secondForm with
      | short other otherIts _ =>
          simp only [List.cons_append, List.nil_append, List.cons.injEq] at same
          rw [its, otherIts, same.2.1]
      | self _ notSlash =>
          simp only [List.cons_append, List.nil_append, List.cons.injEq] at same
          exact absurd same.1.symm notSlash
      | hex =>
          simp only [List.cons_append, List.nil_append, List.cons.injEq] at same
          exact absurd same.2.1 notHex
  | self _ notSlash =>
      cases secondForm with
      | short other otherIts _ =>
          simp only [List.cons_append, List.nil_append, List.cons.injEq] at same
          exact absurd same.1 notSlash
      | self _ _ =>
          simp only [List.cons_append, List.nil_append, List.cons.injEq] at same
          exact same.1
      | hex =>
          simp only [List.cons_append, List.nil_append, List.cons.injEq] at same
          exact absurd same.1 notSlash
  | hex =>
      cases secondForm with
      | short other _ notHex =>
          simp only [List.cons_append, List.nil_append, List.cons.injEq] at same
          exact absurd same.2.1.symm notHex
      | self _ notSlash =>
          simp only [List.cons_append, List.nil_append, List.cons.injEq] at same
          exact absurd same.1.symm notSlash
      | hex =>
          simp only [List.cons_append, List.cons.injEq, true_and] at same
          have digits := (List.append_inj same (by simp)).1
          exact hexDigits_inj (by omega) (by omega) digits

/-- No written unit starts with a quote. -/
theorem escapeUnit_ne_quote (unit : Nat) (left right : PyStr) :
    escapeUnit unit ++ left ≠ 34 :: right := by
  have form := escaped_escapeUnit unit
  revert form
  generalize escapeUnit unit = text
  intro form same
  cases form with
  | short letter its notHex =>
      simp only [List.cons_append, List.cons.injEq] at same
      exact absurd same.1 (by decide)
  | self notQuote notSlash =>
      simp only [List.cons_append, List.cons.injEq] at same
      exact notQuote same.1
  | hex =>
      simp only [List.cons_append, List.cons.injEq] at same
      exact absurd same.1 (by decide)

/-- A written text can be read back up to its closing quote. -/
theorem escapeText_inj
    {left right rest other : PyStr}
    (leftDecoded : decodedText left = true) (rightDecoded : decodedText right = true)
    (same : escapeText left ++ 34 :: rest = escapeText right ++ 34 :: other) :
    left = right ∧ rest = other := by
  have units := flatMap_inj_of_stop escapeUnit_free
    (fun unit _ => escapeUnit_ne_quote unit)
    (lt_of_mem_utf16 leftDecoded) (lt_of_mem_utf16 rightDecoded) same
  exact ⟨utf16_inj leftDecoded rightDecoded units.1, units.2⟩

end Klik.Lib
