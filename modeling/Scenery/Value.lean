/-
  Scenery/Value.lean
  ==================
  **Context values**: booleans, numbers and texts.  Values of different kinds are
  never converted into each other; only `Value.infer`, which reads what somebody
  typed, decides on a kind.
-/
import Scenery.Number.Reading
import Scenery.Text.Blank

namespace Scenery

/-- What a template can read from a context. -/
inductive Value where
  | boolean (b : Bool)
  | number (n : Number)
  | text (t : Text)
  deriving DecidableEq, Repr

/-- The kinds of values. -/
inductive Value.Kind where
  | boolean
  | number
  | string
  deriving DecidableEq, Repr

namespace Value

def Kind.name : Kind → String
  | .boolean => "boolean"
  | .number => "number"
  | .string => "string"

def kind : Value → Kind
  | .boolean _ => .boolean
  | .number _ => .number
  | .text _ => .string

/-- A value as it is shown to the reader. -/
def display : Value → Text
  | .boolean true => ['t', 'r', 'u', 'e']
  | .boolean false => ['f', 'a', 'l', 's', 'e']
  | .number n => n.text
  | .text t => t

/-- What stands between two equal quotes that enclose the whole text. -/
def unquoted? : Text → Option Text
  | [] => none
  | q :: rest =>
    if (q = '"' ∨ q = '\'') ∧ rest.getLast? = some q then some rest.dropLast else none

/-- Interprets typed text: quotes force a text, then come booleans and finite
    numbers, and all else is text. -/
def infer (raw : Text) : Value :=
  let raw := Text.trim raw
  match unquoted? raw with
  | some t => .text t
  | none =>
    if raw = ['t', 'r', 'u', 'e'] then .boolean true
    else if raw = ['f', 'a', 'l', 's', 'e'] then .boolean false
    else
      match Number.read? raw with
      | some n => if n.isFinite then .number n else .text raw
      | none => .text raw

end Value

end Scenery
