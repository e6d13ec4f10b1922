/-
  Scenery/Condition/Reading.lean
  ==============================
  **Reading conditions.**  A condition is a path, an operator and a literal, in this
  order and with blanks between them.  The first part that is not there is reported
  with its column.
-/
import Scenery.Condition.Basic

namespace Scenery.Condition

/-- The parts of a condition. -/
inductive Part where
  | path
  | operator
  | literal
  | ending
  deriving DecidableEq, Repr

def Part.name : Part → String
  | .path => "path"
  | .operator => "operator"
  | .literal => "string, number, or boolean"
  | .ending => "EOI"

/-- The part that an expression lacks, and the column where it was looked for. -/
structure SyntaxError where
  expr : Text
  expected : Part
  column : Nat
  deriving DecidableEq, Repr

def SyntaxError.message (e : SyntaxError) : String :=
  "`" ++ e.expr.toStr ++ "`: expected " ++ e.expected.name ++ " at column " ++ toString e.column

/-- Space, tab, carriage return and line feed separate the parts. -/
def isGap (c : Char) : Bool := c == ' ' || c == '\t' || c == '\r' || c == '\n'

def skipGap (t : Text) : Text := t.dropWhile isGap

/-- The operator at the start of a text, the longest spelling first. -/
def readOperator? : Text → Option (Operator × Text)
  | '=' :: '=' :: '=' :: t => some (.eq, t)
  | '!' :: '=' :: '=' :: t => some (.ne, t)
  | '=' :: '=' :: t => some (.eq, t)
  | '!' :: '=' :: t => some (.ne, t)
  | '>' :: '=' :: t => some (.ge, t)
  | '<' :: '=' :: t => some (.le, t)
  | '>' :: t => some (.gt, t)
  | '<' :: t => some (.lt, t)
  | _ => none

/-- A text in quotes; there are no escapes, so the first equal quote ends it. -/
def readString? : Text → Option (Text × Text)
  | [] => none
  | q :: t =>
    if q = '"' ∨ q = '\'' then
      match t.dropWhile (· != q) with
      | [] => none
      | _ :: rest => some (t.takeWhile (· != q), rest)
    else none

/-- A minus sign if there is one, and what follows it. -/
def readMinus : Text → Bool × Text
  | '-' :: t => (true, t)
  | t => (false, t)

/-- Digits, with a fraction if a point and a digit follow. -/
def readNumber? (t : Text) : Option (Decimal × Text) :=
  let (negative, t) := readMinus t
  let whole := t.takeWhile Char.isDigit
  let rest := t.dropWhile Char.isDigit
  if whole = [] then none
  else
    match rest with
    | '.' :: r =>
      let fraction := r.takeWhile Char.isDigit
      if fraction = [] then some (⟨negative, Text.digitsValue whole, 0⟩, rest)
      else
        some (⟨negative, Text.digitsValue (whole ++ fraction), -fraction.length⟩,
          r.dropWhile Char.isDigit)
    | _ => some (⟨negative, Text.digitsValue whole, 0⟩, rest)

/-- A text does not go on with a character of an identifier. -/
def endsWord : Text → Bool
  | [] => true
  | c :: _ => !Path.isIdentPart c

/-- One of the words `true` and `false`. -/
def readBoolean? : Text → Option (Bool × Text)
  | 't' :: 'r' :: 'u' :: 'e' :: t => if endsWord t then some (true, t) else none
  | 'f' :: 'a' :: 'l' :: 's' :: 'e' :: t => if endsWord t then some (false, t) else none
  | _ => none

def readLiteral? (t : Text) : Option (Value × Text) :=
  match readString? t with
  | some (s, rest) => some (.text s, rest)
  | none =>
    match readNumber? t with
    | some (d, rest) => some (.number d.toNumber, rest)
    | none =>
      match readBoolean? t with
      | some (b, rest) => some (.boolean b, rest)
      | none => none

/-- The column of what is left of an expression: one more than the characters of
    its line before it. -/
def columnOf (expr rest : Text) : Nat :=
  ((expr.take (expr.length - rest.length)).reverse.takeWhile (· != '\n')).length + 1

def read (expr : Text) : Except SyntaxError Condition :=
  let lacks (part : Part) (rest : Text) : SyntaxError := ⟨expr, part, columnOf expr rest⟩
  let t := skipGap expr
  match Path.readPath? t with
  | none => .error (lacks .path t)
  | some (path, t) =>
    let t := skipGap t
    match readOperator? t with
    | none => .error (lacks .operator t)
    | some (operator, t) =>
      let t := skipGap t
      match readLiteral? t with
      | none => .error (lacks .literal t)
      | some (literal, t) =>
        match skipGap t with
        | [] => .ok ⟨path, operator, literal⟩
        | t => .error (lacks .ending t)

end Scenery.Condition
