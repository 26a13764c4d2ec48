import Klik.Lib.PyText
import Mathlib.Data.List.DropRight
import Mathlib.Data.List.Infix

/-!
# Stripped texts

`str.strip` takes the white space of Unicode from both ends of a text.
-/

namespace Klik.Lib

/-- `str.isspace` of a code point. -/
def isSpace (point : Nat) : Bool :=
  (9 ≤ point && point ≤ 13) || (28 ≤ point && point ≤ 32) || point = 0x85 || point = 0xA0 ||
    point = 0x1680 || (0x2000 ≤ point && point ≤ 0x200A) || point = 0x2028 ||
    point = 0x2029 || point = 0x202F || point = 0x205F || point = 0x3000

/-- `str.strip`. -/
def strip (text : PyStr) : PyStr :=
  (text.rdropWhile isSpace).dropWhile isSpace

/-- White space after a text does not matter. -/
theorem strip_append_spaces
    (text : PyStr) {after : PyStr} (spaces : ∀ point ∈ after, isSpace point = true) :
    strip (text ++ after) = strip text := by
  have reversed : ∀ point ∈ after.reverse, isSpace point = true := by
    intro point member
    exact spaces point (List.mem_reverse.mp member)
  rw [strip, strip, List.rdropWhile, List.reverse_append,
    List.dropWhile_append_of_pos reversed, ← List.rdropWhile]

/-- A text without white space stays as it is. -/
theorem strip_eq_self {text : PyStr} (solid : ∀ point ∈ text, isSpace point = false) :
    strip text = text := by
  have last : text.rdropWhile isSpace = text := by
    rw [List.rdropWhile_eq_self_iff]
    intro nonempty space
    exact Bool.false_ne_true ((solid _ (List.getLast_mem nonempty)).symm.trans space)
  rw [strip, last, List.dropWhile_eq_self_iff]
  intro nonempty space
  exact Bool.false_ne_true ((solid _ (List.getElem_mem nonempty)).symm.trans space)

/-- A stripped text does not end in white space. -/
theorem getLast?_strip (text : PyStr) {point : Nat} (space : isSpace point = true) :
    (strip text).getLast? ≠ some point := by
  intro last
  have suffix : strip text <:+ text.rdropWhile isSpace := List.dropWhile_suffix _
  rcases suffix with ⟨front, parts⟩
  have whole : (text.rdropWhile isSpace).getLast? = some point := by
    rw [← parts, List.getLast?_append, last]
    rfl
  rcases List.getLast?_eq_some_iff.mp whole with ⟨before, ends⟩
  have nonempty : text.rdropWhile isSpace ≠ [] := by
    rw [ends]
    exact List.append_ne_nil_of_right_ne_nil _ (List.cons_ne_nil _ _)
  apply List.rdropWhile_last_not isSpace text nonempty
  simpa only [ends, List.getLast_append_singleton] using space

end Klik.Lib
