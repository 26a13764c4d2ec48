import Klik.Lib.PyText

/-!
# Values of a JSON document

What `response.json()` can return, with the operations which the code applies
to such values without looking at their type: truth, `str` and `dict.get`.
The printing of a text inside a container depends on the Unicode tables of
the interpreter; it is a parameter, as are the case mappings.
-/

namespace Klik.Lib

/-- A decoded JSON value.  A number carries its `str` and whether it is
different from zero. -/
inductive PyValue where
  | none
  | bool (value : Bool)
  | number (text : PyStr) (nonzero : Bool)
  | str (text : PyStr)
  | list (items : List PyValue)
  | dict (items : List (PyStr × PyValue))

/-- Text functions of the interpreter. -/
structure PyRuntime where
  /-- `repr` of a text. -/
  repr : PyStr → PyStr
  /-- `str.lower`. -/
  lower : PyStr → PyStr
  /-- `str.upper`. -/
  upper : PyStr → PyStr
  /-- Whether the pattern `\d` matches a code point. -/
  isDigit : Nat → Bool

/-- The text functions on printable ASCII texts without quotes. -/
def PyRuntime.ascii : PyRuntime where
  repr text := py "'" ++ text ++ py "'"
  lower text :=
    text.map fun point => if 65 ≤ point ∧ point ≤ 90 then point + 32 else point
  upper text := asciiUpper text
  isDigit point := 48 ≤ point && point ≤ 57

namespace PyValue

/-- `bool(value)`. -/
def truthy : PyValue → Bool
  | .none => false
  | .bool value => value
  | .number _ nonzero => nonzero
  | .str text => !text.isEmpty
  | .list items => !items.isEmpty
  | .dict items => !items.isEmpty

/-- `a or b`. -/
def orElse (left right : PyValue) : PyValue :=
  if left.truthy then left else right

mutual

/-- `repr(value)`. -/
def repr (runtime : PyRuntime) : PyValue → PyStr
  | .none => py "None"
  | .bool true => py "True"
  | .bool false => py "False"
  | .number text _ => text
  | .str text => runtime.repr text
  | .list items => py "[" ++ reprItems runtime items ++ py "]"
  | .dict items => py "\x7b" ++ reprPairs runtime items ++ py "\x7d"

def reprItems (runtime : PyRuntime) : List PyValue → PyStr
  | [] => []
  | [item] => repr runtime item
  | item :: rest => repr runtime item ++ py ", " ++ reprItems runtime rest

def reprPairs (runtime : PyRuntime) : List (PyStr × PyValue) → PyStr
  | [] => []
  | [(key, value)] => runtime.repr key ++ py ": " ++ repr runtime value
  | (key, value) :: rest =>
      runtime.repr key ++ py ": " ++ repr runtime value ++ py ", "
        ++ reprPairs runtime rest

end

/-- `str(value)`: a text is itself, anything else prints as its `repr`. -/
def text (runtime : PyRuntime) : PyValue → PyStr
  | .str text => text
  | other => other.repr runtime

/-- `items.get(key)` of a dictionary, where a repeated key kept its last
value. -/
def lookup (items : List (PyStr × PyValue)) (key : PyStr) : Option PyValue :=
  (items.reverse.find? fun item => item.1 == key).map Prod.snd

/-- `items.get(key, default)`. -/
def getD (items : List (PyStr × PyValue)) (key : PyStr) (default : PyValue) :
    PyValue :=
  (lookup items key).getD default

end PyValue

end Klik.Lib
