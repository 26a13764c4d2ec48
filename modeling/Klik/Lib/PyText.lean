import Mathlib.Algebra.Ring.Nat
import Mathlib.Data.List.Basic

/-!
# Python texts and text columns

A Python `str` is the list of its code points.  Unlike a Lean string it may
hold lone surrogates, and unlike a stored text it may hold NUL characters:
both come out of a JSON decoder, and neither can be written to the database.
-/

namespace Klik.Lib

/-- A Python `str`, as its code points. -/
abbrev PyStr := List Nat

/-- The text of a literal. -/
def py (literal : String) : PyStr :=
  literal.toList.map Char.toNat

/-- Digits of a number in base ten. -/
def decimalDigits (number : Nat) : PyStr :=
  (Nat.toDigits 10 number).map Char.toNat

/-- A number padded with zeros on the left, as `%02d` and `%04d` print it. -/
def zeroPadded (width number : Nat) : PyStr :=
  let digits := decimalDigits number
  List.replicate (width - digits.length) 48 ++ digits

/-- A hexadecimal digit in lower case. -/
def hexDigit (value : Nat) : Nat :=
  if value < 10 then 48 + value else 87 + value

/-- The last `width` hexadecimal digits of a number, in lower case. -/
def hexDigits (width number : Nat) : PyStr :=
  (List.range width).map fun index =>
    hexDigit (number / 16 ^ (width - 1 - index) % 16)

/-- `str.upper` of a text in ASCII letters. -/
def asciiUpper (text : PyStr) : PyStr :=
  text.map fun point => if 97 ≤ point ∧ point ≤ 122 then point - 32 else point

/-- `str(uuid)`: thirty-two digits in groups of 8, 4, 4, 4 and 12. -/
def uuidText (id : Nat) : PyStr :=
  let digits := hexDigits 32 id
  digits.take 8 ++ [45] ++ (digits.drop 8).take 4 ++ [45]
    ++ (digits.drop 12).take 4 ++ [45] ++ (digits.drop 16).take 4 ++ [45]
    ++ digits.drop 20

/-- Whether the database can encode the text: no NUL and no surrogate. -/
def encodable (text : PyStr) : Bool :=
  text.all fun point => point != 0 && (point < 0xD800 || 0xDFFF < point)

/-- Whether a `varchar(width)` column takes the text.  Characters past the
width are refused unless all of them are spaces. -/
def fitsColumn (width : Nat) (text : PyStr) : Bool :=
  encodable text && (text.drop width).all (· == 32)

theorem fitsColumn_of_length_le
    {width : Nat} {text : PyStr}
    (short : text.length ≤ width)
    (clean : encodable text = true) :
    fitsColumn width text = true := by
  have nothingLeft : text.drop width = [] := List.drop_eq_nil_of_le short
  simp [fitsColumn, clean, nothingLeft]

theorem encodable_iff
    {text : PyStr} :
    encodable text = true ↔
      ∀ point ∈ text, point ≠ 0 ∧ (point < 0xD800 ∨ 0xDFFF < point) := by
  simp [encodable, List.all_eq_true]

theorem encodable_append
    (left right : PyStr) :
    encodable (left ++ right) = (encodable left && encodable right) := by
  simp [encodable]

theorem encodable_replicate_zero (count : Nat) :
    encodable (List.replicate count 48) = true := by
  rw [encodable_iff]
  intro point member
  rw [List.eq_of_mem_replicate member]
  decide

/-- Decimal digits are plain ASCII. -/
theorem encodable_decimalDigits (number : Nat) :
    encodable (decimalDigits number) = true := by
  rw [encodable_iff]
  intro point member
  rcases List.mem_map.mp member with ⟨digit, digitMember, rfl⟩
  have ascii := Nat.isDigit_of_mem_toDigits (by decide) (Nat.le_refl 10) digitMember
  simp only [Char.isDigit, Bool.and_eq_true, decide_eq_true_eq] at ascii
  have lower : 48 ≤ digit.toNat := ascii.1
  have upper : digit.toNat ≤ 57 := ascii.2
  omega

theorem encodable_zeroPadded (width number : Nat) :
    encodable (zeroPadded width number) = true := by
  simp only [zeroPadded, encodable_append, encodable_replicate_zero,
    encodable_decimalDigits, Bool.and_self]

/-- A number which is short enough is padded to the width. -/
theorem length_zeroPadded
    {width number : Nat} (width_pos : 0 < width) (short : number < 10 ^ width) :
    (zeroPadded width number).length = width := by
  have digits : (decimalDigits number).length ≤ width := by
    simp only [decimalDigits, List.length_map]
    exact (Nat.length_toDigits_le_iff (by decide) width_pos).mpr short
  simp only [zeroPadded, List.length_append, List.length_replicate]
  omega

/-- A padded number can be read back. -/
theorem zeroPadded_injective (width : Nat) :
    Function.Injective (zeroPadded width) := by
  intro left right same
  have digits : ∀ number, zeroPadded width number =
      (List.replicate (width - (decimalDigits number).length) '0' ++
        Nat.toDigits 10 number).map Char.toNat := by
    intro number
    simp [zeroPadded, decimalDigits]
  rw [digits, digits] at same
  have chars := List.map_injective_iff.mpr (fun _ _ => Char.toNat_inj.mp) same
  have numbers := congrArg (fun text => Nat.ofDigitChars 10 text 0) chars
  simpa only [Nat.ofDigitChars_append, Nat.ofDigitChars_replicate_zero, Nat.mul_zero,
    Nat.ofDigitChars_ten_toDigits] using numbers

@[simp]
theorem length_hexDigits (width number : Nat) :
    (hexDigits width number).length = width := by
  simp [hexDigits]

/-- A hexadecimal digit is plain ASCII. -/
theorem hexDigit_bounds
    {width number digit : Nat} (member : digit ∈ hexDigits width number) :
    48 ≤ digit ∧ digit ≤ 102 := by
  rcases List.mem_map.mp member with ⟨index, _, rfl⟩
  have small : number / 16 ^ (width - 1 - index) % 16 < 16 :=
    Nat.mod_lt _ (by decide)
  simp only [hexDigit]
  split <;> omega

theorem hexDigit_inj
    {left right : Nat} (leftSmall : left < 16) (rightSmall : right < 16)
    (same : hexDigit left = hexDigit right) : left = right := by
  simp only [hexDigit] at same
  split at same
  · split at same
    · omega
    · omega
  · split at same
    · omega
    · omega

theorem hexDigits_succ (width number : Nat) :
    hexDigits (width + 1) number =
      hexDigits width (number / 16) ++ [hexDigit (number % 16)] := by
  simp only [hexDigits, List.range_succ, List.map_append, List.map_singleton,
    Nat.add_sub_cancel, Nat.sub_self, pow_zero, Nat.div_one]
  congr 1
  apply List.map_congr_left
  intro index member
  have inside := List.mem_range.mp member
  have exponent : width - index = (width - 1 - index) + 1 := by omega
  rw [Nat.div_div_eq_div_mul, exponent, pow_succ, Nat.mul_comm]

/-- Digits of a width which is large enough tell numbers apart. -/
theorem hexDigits_inj
    {width left right : Nat}
    (leftSmall : left < 16 ^ width) (rightSmall : right < 16 ^ width)
    (same : hexDigits width left = hexDigits width right) : left = right := by
  induction width generalizing left right with
  | zero =>
      rw [pow_zero] at leftSmall rightSmall
      omega
  | succ width induction =>
      rw [hexDigits_succ, hexDigits_succ] at same
      rcases List.append_inj' same rfl with ⟨front, last⟩
      rw [pow_succ] at leftSmall rightSmall
      have quotient := induction (Nat.div_lt_of_lt_mul (by omega))
        (Nat.div_lt_of_lt_mul (by omega)) front
      have digit := hexDigit_inj (Nat.mod_lt left (by decide))
        (Nat.mod_lt right (by decide)) (List.singleton_inj.mp last)
      omega

/-- The digits of a key, without its dashes. -/
theorem filter_uuidText (id : Nat) :
    (uuidText id).filter (· ≠ 45) = hexDigits 32 id := by
  have kept : ∀ part : PyStr, (∀ digit ∈ part, digit ∈ hexDigits 32 id) →
      part.filter (· ≠ 45) = part := by
    intro part digits
    apply List.filter_eq_self.mpr
    intro digit member
    have bounds := hexDigit_bounds (digits digit member)
    simp only [ne_eq, decide_not, Bool.not_eq_true', decide_eq_false_iff_not]
    omega
  have dash : ([45] : PyStr).filter (· ≠ 45) = [] := by decide
  have group : ∀ start, ((hexDigits 32 id).drop start).take 4 ++
      (hexDigits 32 id).drop (start + 4) = (hexDigits 32 id).drop start := by
    intro start
    rw [← List.drop_drop, List.take_append_drop]
  simp only [uuidText, List.filter_append, dash, List.append_nil]
  rw [kept _ fun _ => List.mem_of_mem_take,
    kept _ fun _ member => List.mem_of_mem_drop (List.mem_of_mem_take member),
    kept _ fun _ member => List.mem_of_mem_drop (List.mem_of_mem_take member),
    kept _ fun _ member => List.mem_of_mem_drop (List.mem_of_mem_take member),
    kept _ fun _ => List.mem_of_mem_drop]
  simp only [List.append_assoc, group 16, group 12, group 8, List.take_append_drop]

theorem uuidText_inj
    {left right : Nat} (leftSmall : left < 16 ^ 32) (rightSmall : right < 16 ^ 32)
    (same : uuidText left = uuidText right) : left = right := by
  apply hexDigits_inj leftSmall rightSmall
  rw [← filter_uuidText, ← filter_uuidText, same]

@[simp]
theorem length_uuidText (id : Nat) : (uuidText id).length = 36 := by
  simp [uuidText]

theorem encodable_uuidText (id : Nat) : encodable (uuidText id) = true := by
  rw [encodable_iff]
  intro point member
  have cases : point = 45 ∨ point ∈ hexDigits 32 id := by
    simp only [uuidText, List.mem_append, List.mem_singleton] at member
    rcases member with (((((((group | dash) | group) | dash) | group) | dash)
      | group) | dash) | group
    · exact Or.inr (List.mem_of_mem_take group)
    · exact Or.inl dash
    · exact Or.inr (List.mem_of_mem_drop (List.mem_of_mem_take group))
    · exact Or.inl dash
    · exact Or.inr (List.mem_of_mem_drop (List.mem_of_mem_take group))
    · exact Or.inl dash
    · exact Or.inr (List.mem_of_mem_drop (List.mem_of_mem_take group))
    · exact Or.inl dash
    · exact Or.inr (List.mem_of_mem_drop group)
  rcases cases with rfl | digit
  · decide
  · have bounds := hexDigit_bounds digit
    omega

/-- Upper-case hexadecimal digits are plain ASCII. -/
theorem encodable_asciiUpper_hexDigits
    (width count number : Nat) :
    encodable (asciiUpper ((hexDigits width number).take count)) = true := by
  rw [encodable_iff]
  intro point member
  rcases List.mem_map.mp member with ⟨digit, digitMember, rfl⟩
  have bounds := hexDigit_bounds (List.mem_of_mem_take digitMember)
  split <;> omega

end Klik.Lib
