/-
  Scenery/Number/Decimal.lean
  ===========================
  **Numbers in decimal notation.**  `Decimal` is a numeral: digits and a power of
  ten.  Reading rounds it to the nearest number.  Writing goes through
  `Rank.shortest`, the fewest digits that read back, and of those the digits nearest
  to the value; the notation is always positional, never with an exponent.
-/
import Scenery.Number.Basic
import Scenery.Text.Basic

namespace Scenery

/-- A decimal numeral: `digits · 10 ^ exponent` with a sign. -/
structure Decimal where
  negative : Bool
  digits : Nat
  exponent : Int
  deriving DecidableEq, Repr

namespace Decimal

/-- The rank nearest to the numeral without its sign.  Exponents far beyond the row
    of values are answered without writing the numeral out. -/
def rank (d : Decimal) : Rank :=
  match d.exponent with
  | .ofNat e =>
    if d.digits = 0 then Rank.zero
    else if 309 < e then Rank.infinity
    else Rank.ofRatio (d.digits * Nat.pow 10 e) 1
  | .negSucc e =>
    if 400 + Nat.log2 d.digits < e then Rank.zero
    else Rank.ofRatio d.digits (Nat.pow 10 (e + 1))

def toNumber (d : Decimal) : Number := .real d.negative d.rank

/-- The numeral in positional notation: the digits before the point, then, if any
    digit behind it is not zero, the point and the digits up to the last such. -/
def text (d : Decimal) : Text :=
  let sign := if d.negative then ['-'] else []
  let whole := d.exponent.toNat
  let places := (-d.exponent).toNat
  let units := d.digits * Nat.pow 10 whole
  let before := Nat.toDigits 10 (units / Nat.pow 10 places)
  let behind := Nat.toDigits 10 (units % Nat.pow 10 places)
  let behind := List.replicate (places - behind.length) '0' ++ behind
  let behind := (behind.reverse.dropWhile (· == '0')).reverse
  sign ++ before ++ (if behind.isEmpty then [] else '.' :: behind)

end Decimal

namespace Rank

/-- All digits of the value at a finite rank, counted in units of 10^-1074. -/
def expansion (r : Nat) : Nat := units r * Nat.pow 5 1074

/-- The numeral with `n` digits that is nearest to the value and reads back as the
    rank, if any does: one of the two neighbours of the value on the grid of
    numerals with `n` digits, the upper one if both are equally near. -/
def nearestWithDigits (r length : Nat) (n : Nat) : Option Decimal :=
  let step := Nat.pow 10 (length - n)
  let exponent : Int := (length - n : Nat) - 1074
  let value := expansion r
  let lower : Decimal := ⟨false, value / step, exponent⟩
  let upper : Decimal := ⟨false, value / step + 1, exponent⟩
  let readsBack (d : Decimal) : Bool := d.rank.val == r
  if readsBack lower && (2 * (value % step) < step || !readsBack upper) then some lower
  else if readsBack upper then some upper
  else none

/-- The shortest numeral that reads back as a finite rank, and of those the one
    nearest to its value. -/
def shortest (r : Nat) : Decimal :=
  let length := (Nat.toDigits 10 (expansion r)).length
  ((List.range length).findSome? fun n => nearestWithDigits r length (n + 1)).getD
    ⟨false, expansion r, -1074⟩

end Rank

namespace Number

/-- A number in shortest positional notation. -/
def text : Number → Text
  | .nan => ['N', 'a', 'N']
  | .real negative r =>
    if r.val = infinityRank then (if negative then ['-'] else []) ++ ['i', 'n', 'f']
    else { Rank.shortest r with negative := negative }.text

end Number

end Scenery
