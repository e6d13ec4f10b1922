/-
  Scenery/Condition/Basic.lean
  ============================
  **Conditions** compare the value at one path with one literal.  There are no
  connectives and no calls.
-/
import Scenery.Value
import Scenery.Path

namespace Scenery

/-- The comparisons. -/
inductive Operator where
  | eq
  | ne
  | gt
  | ge
  | lt
  | le
  deriving DecidableEq, Repr

namespace Operator

def symbol : Operator → Text
  | .eq => ['=', '=']
  | .ne => ['!', '=']
  | .gt => ['>']
  | .ge => ['>', '=']
  | .lt => ['<']
  | .le => ['<', '=']

/-- Whether the comparison holds of two values in that order. -/
def holds : Operator → Ordering → Bool
  | .eq, o => o == .eq
  | .ne, o => o != .eq
  | .gt, o => o == .gt
  | .ge, o => o != .lt
  | .lt, o => o == .lt
  | .le, o => o != .gt

end Operator

/-- One comparison: the value at a path against a literal. -/
structure Condition where
  path : Text
  operator : Operator
  literal : Value
  deriving DecidableEq, Repr

namespace Condition

/-- A literal as it is written: texts in single quotes, or in double quotes if a
    single quote occurs in them. -/
def literalText : Value → Text
  | .text t => if t.contains '\'' then '"' :: t ++ ['"'] else '\'' :: t ++ ['\'']
  | v => v.display

def text (c : Condition) : Text :=
  c.path ++ ' ' :: c.operator.symbol ++ ' ' :: literalText c.literal

end Condition

end Scenery
