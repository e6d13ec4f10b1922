/-
  Scenery/Number/Basic.lean
  =========================
  **Double precision numbers, exactly.**  The values of the binary64 format without
  a sign form one ascending row: zero, the subnormals, the normals, infinity.  A
  number is its sign and its place in that row, its *rank*, or it is not a number.
  Ranks make order a comparison of integers, and every finite value is a whole
  number of units of 2^-1074, so rounding is a division of natural numbers.

  Main definitions: `Rank.units` (the value at a rank), `Rank.ofRatio` (the rank nearest
  to a ratio, a tie going to the even rank), `Number.compare`.
-/

namespace Scenery

/-- The rank of infinity, the last of the row. -/
def infinityRank : Nat := 2047 * Nat.pow 2 52

/-- A place in the row of values without a sign. -/
abbrev Rank := Fin (infinityRank + 1)

/-- A double precision number: its sign and rank, or not a number. -/
inductive Number where
  | nan
  | real (negative : Bool) (rank : Rank)
  deriving DecidableEq, Repr

namespace Rank

/-- The value at a finite rank in units of 2^-1074.  A rank is an exponent times
    2^52 plus a fraction; all exponents but zero stand for a leading one bit. -/
def units (r : Nat) : Nat :=
  let one := Nat.pow 2 52
  let exponent := r / one
  let fraction := r % one
  if exponent = 0 then fraction else (one + fraction) * Nat.pow 2 (exponent - 1)

/-- The rank with that number, infinity if there is none. -/
def ofNat (n : Nat) : Rank := ⟨min n infinityRank, by omega⟩

/-- The quotient rounded to the nearest natural number, a tie to the even one. -/
def divHalfEven (n d : Nat) : Nat :=
  let q := n / d
  let r := n % d
  if 2 * r < d then q
  else if d < 2 * r then q + 1
  else if q % 2 = 0 then q else q + 1

/-- The rank nearest to the ratio `num / den`, a tie to the even rank.  The step
    `e` counts by how many bits the ratio is too long for 53 bits; a mantissa that
    rounds up to 2^53 carries into the exponent by itself. -/
def ofRatio (num den : Nat) : Rank :=
  let n := num * Nat.pow 2 1074
  let e := Nat.log2 (n / den) - 52
  ofNat (e * Nat.pow 2 52 + divHalfEven n (den * Nat.pow 2 e))

def zero : Rank := ofNat 0

def infinity : Rank := ofNat infinityRank

/-- The rounded product of two finite values. -/
def mul (a b : Rank) : Rank := ofRatio (units a * units b) (Nat.pow 2 1074 * Nat.pow 2 1074)

/-- The rounded quotient of two finite values. -/
def div (a b : Rank) : Rank := ofRatio (units a) (units b)

end Rank

namespace Number

def zero : Number := .real false Rank.zero

/-- The number nearest to an integer. -/
def ofInt (i : Int) : Number := .real (i < 0) (Rank.ofRatio i.natAbs 1)

def isNaN : Number → Bool
  | .nan => true
  | .real _ _ => false

def isFinite : Number → Bool
  | .nan => false
  | .real _ r => r.val < infinityRank

/-- The place in the row of all values, negative ones below zero.  Both zeros have
    the place 0. -/
def key : Number → Option Int
  | .nan => none
  | .real true r => some (-(r.val : Int))
  | .real false r => some r.val

/-- How two numbers compare; not at all if one of them is not a number. -/
def compare (a b : Number) : Option Ordering :=
  match a.key, b.key with
  | some i, some j => some (Ord.compare i j)
  | _, _ => none

/-- The natural number that a number is equal to, if there is one. -/
def toNat? : Number → Option Nat
  | .nan => none
  | .real negative r =>
    let u := Rank.units r
    let one := Nat.pow 2 1074
    if r.val = infinityRank then none
    else if negative && u != 0 then none
    else if u % one = 0 then some (u / one) else none

end Number

end Scenery
