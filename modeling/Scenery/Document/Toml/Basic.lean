/-
  Scenery/Document/Toml/Basic.lean
  ================================
  **Values of a TOML document.**  A moment is kept by its parts, since all that is
  ever asked of it is its text.
-/
import Scenery.Number.Basic
import Scenery.Text.Basic

namespace Scenery

namespace Toml

/-- A day of the calendar. -/
structure Date where
  year : Nat
  month : Nat
  day : Nat
  deriving DecidableEq, Repr

/-- A time of day, to the nanosecond. -/
structure Clock where
  hour : Nat
  minute : Nat
  second : Nat
  nanosecond : Nat
  deriving DecidableEq, Repr

/-- How far a time of day is from universal time. -/
inductive Offset where
  | utc
  | minutes (west : Bool) (n : Nat)
  deriving DecidableEq, Repr

/-- A date, a time of day or both. -/
inductive Moment where
  | date (d : Date)
  | clock (c : Clock)
  | both (d : Date) (c : Clock) (offset : Option Offset)
  deriving DecidableEq, Repr

/-- Leap years are every fourth but not every hundredth, yet every four-hundredth. -/
def isLeapYear (year : Nat) : Bool :=
  year % 4 == 0 && (year % 100 != 0 || year % 400 == 0)

def daysInMonth (year month : Nat) : Nat :=
  if month = 2 then (if isLeapYear year then 29 else 28)
  else if month ∈ [4, 6, 9, 11] then 30
  else 31

/-- There is such a day. -/
def Date.IsValid (d : Date) : Prop :=
  1 ≤ d.month ∧ d.month ≤ 12 ∧ 1 ≤ d.day ∧ d.day ≤ daysInMonth d.year d.month

instance (d : Date) : Decidable d.IsValid :=
  inferInstanceAs (Decidable (_ ∧ _ ∧ _ ∧ _))

/-- There is such a time; the second 60 is a leap second. -/
def Clock.IsValid (c : Clock) : Prop := c.hour ≤ 23 ∧ c.minute ≤ 59 ∧ c.second ≤ 60

instance (c : Clock) : Decidable c.IsValid :=
  inferInstanceAs (Decidable (_ ∧ _ ∧ _))

/-! ### Text -/

/-- A number with at least so many digits. -/
def padded (width n : Nat) : Text :=
  let digits := Nat.toDigits 10 n
  List.replicate (width - digits.length) '0' ++ digits

def Date.text (d : Date) : Text :=
  padded 4 d.year ++ '-' :: padded 2 d.month ++ '-' :: padded 2 d.day

/-- Fractions of a second are written without trailing zeros. -/
def Clock.text (c : Clock) : Text :=
  let fraction := ((padded 9 c.nanosecond).reverse.dropWhile (· == '0')).reverse
  padded 2 c.hour ++ ':' :: padded 2 c.minute ++ ':' :: padded 2 c.second ++
    (if fraction.isEmpty then [] else '.' :: fraction)

/-- An offset of nothing is written as an eastern one. -/
def Offset.text : Offset → Text
  | .utc => ['Z']
  | .minutes west n =>
    (if west && n != 0 then '-' else '+') :: padded 2 (n / 60) ++ ':' :: padded 2 (n % 60)

def Moment.text : Moment → Text
  | .date d => d.text
  | .clock c => c.text
  | .both d c offset => d.text ++ 'T' :: c.text ++ (offset.map Offset.text).getD []

end Toml

/-- A TOML value. -/
inductive Toml where
  | boolean (b : Bool)
  | integer (i : Int)
  | real (n : Number)
  | string (t : Text)
  | moment (m : Toml.Moment)
  | array (items : List Toml)
  | table (members : List (Text × Toml))
  deriving Repr

end Scenery
