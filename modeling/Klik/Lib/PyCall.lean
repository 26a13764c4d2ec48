import Klik.Lib.PyText

/-!
# Binding the arguments of a call

Python binds positional arguments to the parameters of a function in order,
and keyword arguments by name to the parameters after them.  A call with too
many positional arguments, with a keyword which names none of the remaining
parameters, or without an argument for a parameter which has no default, is
refused.
-/

namespace Klik.Lib

variable {Value : Type*}

/-- A parameter which takes positional and keyword arguments. -/
structure Parameter (Value : Type*) where
  name : PyStr
  default : Option Value

/-- The arguments of a call. -/
structure PyCall (Value : Type*) where
  args : List Value
  kwargs : List (PyStr × Value)

namespace PyCall

/-- The parameters which the positional arguments leave. -/
def remaining (parameters : List (Parameter Value)) (call : PyCall Value) :
    List (Parameter Value) :=
  parameters.drop call.args.length

/-- The keyword argument with a name. -/
def keyword (call : PyCall Value) (name : PyStr) : Option Value :=
  (call.kwargs.find? fun argument => argument.1 == name).map Prod.snd

/-- Whether every argument has a parameter of its own. -/
def fits (parameters : List (Parameter Value)) (call : PyCall Value) : Bool :=
  call.args.length ≤ parameters.length &&
    call.kwargs.all fun argument =>
      (call.remaining parameters).any fun parameter => parameter.name == argument.1

/-- The values of the parameters, in order. -/
def bind (parameters : List (Parameter Value)) (call : PyCall Value) :
    Option (List Value) :=
  if call.fits parameters then
    ((call.remaining parameters).mapM fun parameter =>
      (call.keyword parameter.name).or parameter.default).map (call.args ++ ·)
  else none

/-- A keyword which names no remaining parameter, such as one that has got a
positional argument, is refused. -/
theorem bind_eq_none
    {parameters : List (Parameter Value)} {call : PyCall Value}
    {argument : PyStr × Value}
    (given : argument ∈ call.kwargs)
    (taken : ∀ parameter ∈ call.remaining parameters, parameter.name ≠ argument.1) :
    call.bind parameters = none := by
  have refused : call.fits parameters = false := by
    simp only [fits, Bool.and_eq_false_iff]
    right
    apply List.all_eq_false.mpr
    refine ⟨argument, given, ?_⟩
    simpa using taken
  simp only [bind, refused, Bool.false_eq_true, if_false]

end PyCall

end Klik.Lib
