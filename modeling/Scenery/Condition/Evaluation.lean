/-
  Scenery/Condition/Evaluation.lean
  =================================
  **Evaluating conditions.**  Numbers are compared by value and texts by the order
  of their characters.  Booleans can be equal or not, nothing else.  Values of
  different kinds cannot be compared at all.
-/
import Scenery.Condition.Basic
import Scenery.Context

namespace Scenery

/-- Why a condition or variable has no value in a context. -/
inductive EvalError where
  | unknownPath (path : Text)
  | typeMismatch (path : Text) (expected found : Value.Kind)
  | unordered (path : Text) (operator : Operator) (kind : Value.Kind)
  deriving DecidableEq, Repr

def EvalError.message : EvalError → String
  | .unknownPath path => "unknown context path '" ++ path.toStr ++ "'"
  | .typeMismatch path expected found =>
    "'" ++ path.toStr ++ "' is a " ++ found.name ++
      ", but the condition compares it with a " ++ expected.name
  | .unordered path operator kind =>
    "operator " ++ operator.symbol.toStr ++ " cannot order " ++ kind.name ++
      " values ('" ++ path.toStr ++ "')"

namespace Text

/-- The order of texts: by the first character in which they differ. -/
def compare (a b : Text) : Ordering :=
  if a < b then .lt else if b < a then .gt else .eq

end Text

namespace Condition

def eval (c : Condition) (ctx : Context) : Except EvalError Bool :=
  match ctx.get? c.path with
  | none => .error (.unknownPath c.path)
  | some found =>
    match found, c.literal with
    | .number a, .number b =>
      match a.compare b with
      | some ordering => .ok (c.operator.holds ordering)
      | none => .ok (c.operator == .ne)
    | .text a, .text b => .ok (c.operator.holds (Text.compare a b))
    | .boolean a, .boolean b =>
      match c.operator with
      | .eq => .ok (a == b)
      | .ne => .ok (a != b)
      | operator => .error (.unordered c.path operator .boolean)
    | found, expected => .error (.typeMismatch c.path expected.kind found.kind)

end Condition

end Scenery
