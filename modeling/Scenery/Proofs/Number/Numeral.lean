/-
  Scenery/Proofs/Number/Numeral.lean
  ==================================
  **Numerals in plain notation**: digits, perhaps a minus sign in front of them, and
  perhaps a point and more digits behind them.  Every one of them is the numeral of a
  number (`Number.read?_written`), and the digits on both sides of the point count as one
  run (`Decimal.ofDigits`).
-/
import Scenery.Number.Reading
import Scenery.Proofs.Text.Runs
import Mathlib.Data.List.TakeWhile

namespace Scenery

namespace Decimal

/-- Digits, with a minus sign in front of them or not.  What is behind the point is
    written only if there is something. -/
def written (negative : Bool) (whole fraction : Text) : Text :=
  (if negative then ['-'] else []) ++ whole ++ (if fraction = [] then [] else '.' :: fraction)

/-- The numeral that is so written. -/
def ofDigits (negative : Bool) (whole fraction : Text) : Decimal :=
  ⟨negative, Text.digitsValue (whole ++ fraction), -fraction.length⟩

/-- The parts of a numeral in plain notation: digits, and at least one before the point. -/
structure AreDigits (whole fraction : Text) : Prop where
  whole_ne_nil : whole ≠ []
  whole : ∀ c ∈ whole, c.isDigit
  fraction : ∀ c ∈ fraction, c.isDigit

/-- A numeral in plain notation. -/
def IsPlain (t : Text) : Prop :=
  ∃ negative whole fraction, AreDigits whole fraction ∧ t = written negative whole fraction

theorem ne_of_isDigit {c k : Char} (hc : c.isDigit) (hk : k.isDigit = false) : c ≠ k := by
  rintro rfl
  rw [hk] at hc
  cases hc

variable {negative : Bool} {whole fraction : Text}

theorem AreDigits.exists_cons (h : AreDigits whole fraction) :
    ∃ c t, whole = c :: t ∧ c.isDigit := by
  obtain ⟨c, t, rfl⟩ := List.exists_cons_of_ne_nil h.whole_ne_nil
  exact ⟨c, t, rfl, h.whole c List.mem_cons_self⟩

theorem readSign_written (h : AreDigits whole fraction) :
    Text.readSign (written negative whole fraction) =
      (negative, whole ++ (if fraction = [] then [] else '.' :: fraction)) := by
  cases negative with
  | true => rfl
  | false =>
    obtain ⟨c, t, rfl, hc⟩ := h.exists_cons
    have hminus : c ≠ '-' := ne_of_isDigit hc rfl
    have hplus : c ≠ '+' := ne_of_isDigit hc rfl
    simp [written, Text.readSign, hminus, hplus]

theorem read?_written (h : AreDigits whole fraction) :
    read? (written negative whole fraction) = some (ofDigits negative whole fraction) := by
  rw [read?, readSign_written h]
  by_cases hfraction : fraction = []
  · subst hfraction
    have htake : whole.takeWhile Char.isDigit = whole := List.takeWhile_eq_self_iff.2 h.whole
    have hdrop : whole.dropWhile Char.isDigit = [] := List.dropWhile_eq_nil_iff.2 h.whole
    simp [htake, hdrop, h.whole_ne_nil, readExponent?, ofDigits]
  · have hpoint : Text.NotStarting Char.isDigit ('.' :: fraction) := by simp
    have htake : fraction.takeWhile Char.isDigit = fraction :=
      List.takeWhile_eq_self_iff.2 h.fraction
    have hdrop : fraction.dropWhile Char.isDigit = [] := List.dropWhile_eq_nil_iff.2 h.fraction
    simp [hfraction, Text.takeWhile_run h.whole hpoint, Text.dropWhile_run h.whole hpoint, htake,
      hdrop, h.whole_ne_nil, readExponent?, ofDigits]

end Decimal

/-- A numeral in plain notation is read as the number nearest to it. -/
theorem Number.read?_written {negative : Bool} {whole fraction : Text}
    (h : Decimal.AreDigits whole fraction) :
    read? (Decimal.written negative whole fraction) =
      some (Decimal.ofDigits negative whole fraction).toNumber := by
  rw [read?, Decimal.read?_written h]

end Scenery
