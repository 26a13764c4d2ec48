import Klik.Common.Phone
import Klik.Lib.LongestPrefix

/-!
# The grammar of telephone numbers

E.164 knows ten digits, and nothing after them.  The pattern of the code is
wider in two places: its `\d` takes the decimal digits of every script, and
its `$` leaves room for a line feed.
-/

namespace Klik.Common

open Klik.Lib

/-! ## The format -/

/-- A number in E.164: `+`, a digit which is not zero, and seven to fourteen
digits. -/
def E164 : PyStr → Prop
  | plus :: first :: rest =>
      plus = 43 ∧ (49 ≤ first ∧ first ≤ 57) ∧ (7 ≤ rest.length ∧ rest.length ≤ 14) ∧
        ∀ point ∈ rest, 48 ≤ point ∧ point ≤ 57
  | _ => False

instance : DecidablePred E164
  | [] | [_] => isFalse id
  | plus :: first :: rest =>
      inferInstanceAs (Decidable (plus = 43 ∧ (49 ≤ first ∧ first ≤ 57) ∧
        (7 ≤ rest.length ∧ rest.length ≤ 14) ∧ ∀ point ∈ rest, 48 ≤ point ∧ point ≤ 57))

/-- The decimal value of a code point, as the interpreter knows it: the
pattern `\d` takes the code points which have one. -/
structure ReadsDigits (runtime : PyRuntime) (value : Nat → Option Nat) : Prop where
  isDigit : ∀ point, runtime.isDigit point = (value point).isSome
  ascii : ∀ point < 128,
    value point = if 48 ≤ point ∧ point ≤ 57 then some (point - 48) else none

/-- A text of the same shape as a number in E.164, with a digit of another
script in it or a line feed after it. -/
def WiderThanE164 (value : Nat → Option Nat) : PyStr → Prop
  | plus :: first :: rest =>
      plus = 43 ∧ (49 ≤ first ∧ first ≤ 57) ∧ ∃ digits ending,
        rest = digits ++ ending ∧ (7 ≤ digits.length ∧ digits.length ≤ 14) ∧
          (∀ point ∈ digits, (value point).isSome) ∧
          (ending = [10] ∨ ending = [] ∧ ∃ point ∈ digits, 128 ≤ point)
  | _ => False

/-- The digits which are dialled for a text. -/
def dialled (value : Nat → Option Nat) (phone : PyStr) : List Nat :=
  (phone.drop 1).filterMap value

/-! ## What the pattern takes -/

/-- Text before the end is the whole text or has one line feed after it. -/
theorem beforeEnd_eq_iff {text body : PyStr} :
    beforeEnd text = body ↔
      text = body ++ [10] ∨ text = body ∧ body.getLast? ≠ some 10 := by
  rw [beforeEnd]
  by_cases feed : text.getLast? = some 10
  · rw [if_pos feed]
    rcases List.getLast?_eq_some_iff.mp feed with ⟨front, rfl⟩
    rw [List.dropLast_concat, List.append_cancel_right_eq]
    constructor
    · exact Or.inl
    · rintro (same | ⟨same, other⟩)
      · exact same
      · rw [← same] at other
        exact absurd feed other
  · rw [if_neg feed]
    constructor
    · rintro rfl
      exact Or.inr ⟨rfl, feed⟩
    · rintro (rfl | ⟨same, _⟩)
      · simp at feed
      · exact same

section Digits

variable {runtime : PyRuntime} {value : Nat → Option Nat}

/-- The digits of the pattern are those of ASCII and those past it. -/
theorem ReadsDigits.asciiDigit
    (digits : ReadsDigits runtime value) {point : Nat} (digit : (value point).isSome) :
    (48 ≤ point ∧ point ≤ 57) ∨ 128 ≤ point := by
  by_cases small : point < 128
  · rw [digits.ascii point small] at digit
    split at digit
    · rename_i ascii
      exact Or.inl ascii
    · cases digit
  · exact Or.inr (Nat.le_of_not_lt small)

theorem ReadsDigits.value_ascii
    (digits : ReadsDigits runtime value) {point : Nat} (ascii : 48 ≤ point ∧ point ≤ 57) :
    value point = some (point - 48) := by
  rw [digits.ascii point (by omega), if_pos ascii]

theorem repeats_iff {least most : Nat} {kind : Nat → Bool} {text : PyStr} :
    repeats least most kind text = true ↔
      (least ≤ text.length ∧ text.length ≤ most) ∧ ∀ point ∈ text, kind point = true := by
  simp [repeats, List.all_eq_true]

/-- A line feed is no digit, so it can only stand at the end. -/
theorem not_lineFeed
    (digits : ReadsDigits runtime value) {text : PyStr}
    (all : ∀ point ∈ text, (value point).isSome) :
    text.getLast? ≠ some 10 := by
  intro feed
  have digit := all 10 (List.mem_of_getLast? feed)
  rcases digits.asciiDigit digit with ascii | past <;> omega

/-- What a pattern takes which ends in a number of digits: so many digits of
ASCII, or digits with one of another script among them or a line feed behind
them. -/
theorem repeats_beforeEnd_iff
    (digits : ReadsDigits runtime value) {least most : Nat} {text : PyStr} :
    repeats least most runtime.isDigit (beforeEnd text) = true ↔
      ((least ≤ text.length ∧ text.length ≤ most) ∧ ∀ point ∈ text, 48 ≤ point ∧ point ≤ 57) ∨
        ∃ body ending, text = body ++ ending ∧ (least ≤ body.length ∧ body.length ≤ most) ∧
          (∀ point ∈ body, (value point).isSome) ∧
          (ending = [10] ∨ ending = [] ∧ ∃ point ∈ body, 128 ≤ point) := by
  simp only [repeats_iff, digits.isDigit]
  constructor
  · rintro ⟨length, all⟩
    rcases beforeEnd_eq_iff.mp rfl with feed | ⟨same, _⟩
    · exact Or.inr ⟨_, _, feed, length, all, Or.inl rfl⟩
    · rw [← same] at length all
      by_cases past : ∃ point ∈ text, 128 ≤ point
      · exact Or.inr ⟨text, [], (List.append_nil text).symm, length, all, Or.inr ⟨rfl, past⟩⟩
      · refine Or.inl ⟨length, ?_⟩
        intro point member
        rcases digits.asciiDigit (all point member) with ascii | wide
        · exact ascii
        · exact absurd ⟨point, member, wide⟩ past
  · rintro (⟨length, all⟩ | ⟨body, ending, rfl, length, all, wider⟩)
    · have decimal : ∀ point ∈ text, (value point).isSome := by
        intro point member
        rw [digits.value_ascii (all point member)]
        rfl
      rw [beforeEnd_eq_iff.mpr (Or.inr ⟨rfl, not_lineFeed digits decimal⟩)]
      exact ⟨length, decimal⟩
    · have front : beforeEnd (body ++ ending) = body := by
        rcases wider with rfl | ⟨rfl, _⟩
        · exact beforeEnd_eq_iff.mpr (Or.inl rfl)
        · rw [List.append_nil]
          exact beforeEnd_eq_iff.mpr (Or.inr ⟨rfl, not_lineFeed digits all⟩)
      rw [front]
      exact ⟨length, all⟩

/-- The pattern takes the numbers in E.164 and the wider texts. -/
theorem isE164_iff (digits : ReadsDigits runtime value) (phone : PyStr) :
    isE164 runtime phone = true ↔ E164 phone ∨ WiderThanE164 value phone := by
  match phone with
  | [] | [_] => simp [isE164, E164, WiderThanE164]
  | plus :: first :: rest =>
      simp only [isE164, E164, WiderThanE164, Bool.and_eq_true, beq_iff_eq, decide_eq_true_eq,
        repeats_beforeEnd_iff digits]
      constructor
      · rintro ⟨⟨⟨plusSign, least⟩, most⟩, plain | wider⟩
        · exact Or.inl ⟨plusSign, ⟨least, most⟩, plain⟩
        · exact Or.inr ⟨plusSign, ⟨least, most⟩, wider⟩
      · rintro (⟨plusSign, ⟨least, most⟩, plain⟩ | ⟨plusSign, ⟨least, most⟩, wider⟩)
        · exact ⟨⟨⟨plusSign, least⟩, most⟩, Or.inl plain⟩
        · exact ⟨⟨⟨plusSign, least⟩, most⟩, Or.inr wider⟩

/-- No number in E.164 is a wider text. -/
theorem not_wider_of_e164 {phone : PyStr} (number : E164 phone) :
    ¬ WiderThanE164 value phone := by
  match phone with
  | [] | [_] => exact id
  | plus :: first :: rest =>
      rintro ⟨_, _, body, ending, split, _, _, wider⟩
      have all := number.2.2.2
      rw [split] at all
      rcases wider with rfl | ⟨_, point, member, past⟩
      · have feed := all 10 (List.mem_append_right _ (List.mem_singleton_self 10))
        omega
      · have ascii := all point (List.mem_append_left _ member)
        omega

/-! ## Numbers and texts -/

/-- Two numbers in E.164 with the same digits are the same text. -/
theorem dialled_injective
    (digits : ReadsDigits runtime value) {left right : PyStr}
    (leftNumber : E164 left) (rightNumber : E164 right)
    (same : dialled value left = dialled value right) :
    left = right := by
  have values : ∀ {phone}, E164 phone →
      ∃ rest, phone = 43 :: rest ∧ (∀ point ∈ rest, 48 ≤ point ∧ point ≤ 57) ∧
        dialled value phone = rest.map (· - 48) := by
    intro phone number
    match phone with
    | plus :: first :: rest =>
        rcases number with ⟨rfl, ⟨least, most⟩, _, all⟩
        have ascii : ∀ point ∈ first :: rest, 48 ≤ point ∧ point ≤ 57 := by
          rw [List.forall_mem_cons]
          exact ⟨⟨by omega, most⟩, all⟩
        refine ⟨first :: rest, rfl, ascii, ?_⟩
        rw [dialled, List.drop_one, List.tail_cons, ← List.filterMap_eq_map]
        apply List.filterMap_congr
        intro point member
        exact digits.value_ascii (ascii point member)
  rcases values leftNumber with ⟨leftRest, rfl, leftAscii, leftDialled⟩
  rcases values rightNumber with ⟨rightRest, rfl, rightAscii, rightDialled⟩
  rw [leftDialled, rightDialled] at same
  congr 1
  have back : ∀ {rest : PyStr}, (∀ point ∈ rest, 48 ≤ point ∧ point ≤ 57) →
      (rest.map (· - 48)).map (· + 48) = rest := by
    intro rest ascii
    rw [List.map_map]
    nth_rewrite 2 [← List.map_id rest]
    apply List.map_congr_left
    intro point member
    have range := ascii point member
    simp only [Function.comp_apply, id_eq]
    omega
  rw [← back leftAscii, ← back rightAscii, same]

end Digits

/-! ## Zones -/

theorem phonePrefixes_nodup : (phonePrefixToZone.map Prod.fst).Nodup := by
  decide

/-- The zone of a number is that of its longest known prefix. -/
theorem resolveZoneFromPhone_iff {phone : PyStr} {zone : Zone} :
    resolveZoneFromPhone phone = some zone ↔
      LongestPrefix phonePrefixToZone phone zone :=
  find_longest_iff phonePrefixes_nodup

theorem validateE164_iff {runtime : PyRuntime} {phone : PyStr} :
    validateE164 runtime phone = .ok () ↔ isE164 runtime phone = true := by
  cases accepted : isE164 runtime phone <;> simp [validateE164, accepted]

theorem validatePhoneMatchesZone_iff
    {runtime : PyRuntime} {phone : PyStr} {zone : Zone} :
    validatePhoneMatchesZone runtime phone zone = .ok () ↔
      validateE164 runtime phone = .ok () ∧ LongestPrefix phonePrefixToZone phone zone := by
  rw [← resolveZoneFromPhone_iff, validatePhoneMatchesZone]
  cases checked : validateE164 runtime phone with
  | error error => simp
  | ok done =>
      cases resolved : resolveZoneFromPhone phone with
      | none => simp
      | some expected =>
          by_cases same : expected = zone <;> simp [same]

/-! ## The pattern and the format -/

/-- The checks decide a text as the format does. -/
structure DecidesE164 (runtime : PyRuntime) (phone : PyStr) : Prop where
  format : validateE164 runtime phone = .ok () ↔ E164 phone
  zone : ∀ zone, validatePhoneMatchesZone runtime phone zone = .ok () ↔
    E164 phone ∧ LongestPrefix phonePrefixToZone phone zone

/-- Distinct accepted texts stand for distinct numbers. -/
def DistinctNumbers
    (runtime : PyRuntime) (value : Nat → Option Nat) (phones : Set PyStr) : Prop :=
  ∀ left ∈ phones, ∀ right ∈ phones,
    validateE164 runtime left = .ok () → validateE164 runtime right = .ok () →
      left ≠ right → dialled value left ≠ dialled value right

theorem decidesE164_iff
    {runtime : PyRuntime} {value : Nat → Option Nat} (digits : ReadsDigits runtime value)
    (phone : PyStr) :
    DecidesE164 runtime phone ↔ ¬ WiderThanE164 value phone := by
  have accepted : validateE164 runtime phone = .ok () ↔
      E164 phone ∨ WiderThanE164 value phone := by
    rw [validateE164_iff]
    exact isE164_iff digits phone
  constructor
  · intro decides wider
    have number := decides.format.mp (accepted.mpr (Or.inr wider))
    exact not_wider_of_e164 number wider
  · intro narrow
    have format : validateE164 runtime phone = .ok () ↔ E164 phone := by
      rw [accepted]
      exact or_iff_left narrow
    refine ⟨format, ?_⟩
    intro zone
    rw [validatePhoneMatchesZone_iff, format]

/-- Whatever texts come in, they are decided by the format and stand for
distinct numbers exactly if none of them is wider than it. -/
theorem e164_exact_iff
    {runtime : PyRuntime} {value : Nat → Option Nat} (digits : ReadsDigits runtime value)
    (phones : Set PyStr) :
    ((∀ phone ∈ phones, DecidesE164 runtime phone) ∧
        DistinctNumbers runtime value phones) ↔
      ∀ phone ∈ phones, ¬ WiderThanE164 value phone := by
  constructor
  · intro exact phone member
    exact (decidesE164_iff digits phone).mp (exact.1 phone member)
  · intro narrow
    have decides : ∀ phone ∈ phones, DecidesE164 runtime phone := by
      intro phone member
      exact (decidesE164_iff digits phone).mpr (narrow phone member)
    refine ⟨decides, ?_⟩
    intro left leftMember right rightMember leftAccepted rightAccepted distinct same
    exact distinct (dialled_injective digits
      ((decides left leftMember).format.mp leftAccepted)
      ((decides right rightMember).format.mp rightAccepted) same)

/-! ## A number in two scripts -/

/-- The decimal values of the digits of ASCII and of the Arabic script. -/
def twoScripts (point : Nat) : Option Nat :=
  if 48 ≤ point ∧ point ≤ 57 then some (point - 48)
  else if 1632 ≤ point ∧ point ≤ 1641 then some (point - 1632)
  else none

/-- The interpreter with the digits of both scripts. -/
def twoScriptsRuntime : PyRuntime :=
  { PyRuntime.ascii with isDigit := fun point => (twoScripts point).isSome }

theorem readsDigits_twoScripts : ReadsDigits twoScriptsRuntime twoScripts := by
  constructor
  · intro point
    rfl
  · intro point small
    rw [twoScripts]
    split
    · rfl
    · rw [if_neg (by omega)]

/-- The Polish number 501234567 in ASCII digits. -/
def asciiPhone : PyStr :=
  py "+48501234567"

/-- The same number with Arabic digits after the country code. -/
def arabicPhone : PyStr :=
  py "+48" ++ [1637, 1632, 1633, 1634, 1635, 1636, 1637, 1638, 1639]

theorem e164_exact_ascii :
    DecidesE164 twoScriptsRuntime asciiPhone ∧
      ¬ DecidesE164 twoScriptsRuntime arabicPhone := by
  have exact := e164_exact_iff readsDigits_twoScripts
  constructor
  · refine ((exact {asciiPhone}).mpr ?_).1 asciiPhone rfl
    rintro phone rfl
    exact not_wider_of_e164 (by decide)
  · intro decides
    have number := decides.format.mp (by decide)
    exact absurd number (by decide)

/-- Two texts of one number are accepted in its zone, and neither of the two
others is in the format. -/
theorem phone_registered_twice :
    validatePhoneMatchesZone twoScriptsRuntime asciiPhone .PL = .ok () ∧
      validatePhoneMatchesZone twoScriptsRuntime arabicPhone .PL = .ok () ∧
      validatePhoneMatchesZone twoScriptsRuntime (asciiPhone ++ [10]) .PL = .ok () ∧
      ¬ E164 arabicPhone ∧ ¬ E164 (asciiPhone ++ [10]) ∧
      asciiPhone ≠ arabicPhone ∧ asciiPhone ≠ asciiPhone ++ [10] ∧
      dialled twoScripts asciiPhone = dialled twoScripts arabicPhone ∧
      dialled twoScripts asciiPhone = dialled twoScripts (asciiPhone ++ [10]) := by
  decide

end Klik.Common
