/-
  Scenery/Number/Reading.lean
  ===========================
  **Reading numbers.**  A numeral is an optional sign, digits with at most one
  point among or around them, and an optional power of ten behind an `e`.  The
  words for infinity and for not-a-number are accepted too, in any case.  Digits to
  other radices than ten serve document formats.
-/
import Scenery.Number.Decimal

namespace Scenery

namespace Text

/-- The value of a run of decimal digits. -/
def digitsValue (t : Text) : Nat := t.foldl (fun n c => 10 * n + (c.toNat - '0'.toNat)) 0

/-- The value of a digit: decimal digits, then letters of either case. -/
def digit? (c : Char) : Option Nat :=
  if c.isDigit then some (c.toNat - '0'.toNat)
  else if 'a' ≤ c ∧ c ≤ 'z' then some (c.toNat - 'a'.toNat + 10)
  else if 'A' ≤ c ∧ c ≤ 'Z' then some (c.toNat - 'A'.toNat + 10)
  else none

/-- The character is a digit to a radix. -/
def isDigitIn (radix : Nat) (c : Char) : Bool := (digit? c).any (· < radix)

/-- The value of a text in which every character is a digit to a radix. -/
def valueIn? (radix : Nat) (t : Text) : Option Nat :=
  if t.all (isDigitIn radix) then
    some (t.foldl (fun n c => radix * n + (digit? c).getD 0) 0)
  else none

/-- The character whose number is written in hexadecimal digits, if there is one. -/
def hexChar? (digits : Text) : Option Char :=
  match valueIn? 16 digits with
  | none => none
  | some n => if h : n.isValidChar then some (Char.ofNatAux n h) else none

/-- An optional sign, and what follows it. -/
def readSign : Text → Bool × Text
  | '-' :: t => (true, t)
  | '+' :: t => (false, t)
  | t => (false, t)

/-- ASCII letters in lower case, everything else as it is. -/
def asciiLower (t : Text) : Text := t.map Char.toLower

end Text

namespace Decimal

/-- The power of ten at the end of a numeral; none written means 10^0. -/
def readExponent? : Text → Option Int
  | [] => some 0
  | c :: t =>
    let (negative, digits) := Text.readSign t
    if (c = 'e' ∨ c = 'E') ∧ digits ≠ [] ∧ digits.all Char.isDigit then
      let n : Int := Text.digitsValue digits
      some (if negative then -n else n)
    else none

/-- Reads a whole text as a numeral. -/
def read? (t : Text) : Option Decimal :=
  let (negative, t) := Text.readSign t
  let whole := t.takeWhile Char.isDigit
  let rest := t.dropWhile Char.isDigit
  let (fraction, rest) :=
    match rest with
    | '.' :: r => (r.takeWhile Char.isDigit, r.dropWhile Char.isDigit)
    | r => ([], r)
  if whole ++ fraction = [] then none
  else (readExponent? rest).map fun e =>
    ⟨negative, Text.digitsValue (whole ++ fraction), e - fraction.length⟩

end Decimal

namespace Number

def read? (t : Text) : Option Number :=
  match Decimal.read? t with
  | some d => some d.toNumber
  | none =>
    let (negative, word) := Text.readSign t
    let word := Text.asciiLower word
    if word = ['i', 'n', 'f'] ∨ word = ['i', 'n', 'f', 'i', 'n', 'i', 't', 'y'] then
      some (.real negative Rank.infinity)
    else if word = ['n', 'a', 'n'] then some .nan
    else none

end Number

end Scenery
