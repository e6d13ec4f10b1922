/-
  Scenery/Proofs/Number/Rounding.lean
  ===================================
  **Rounding to a rank.**  The rank that is nearest to a ratio depends on the value of the
  ratio alone (`Rank.ofRatio_eq_of_cross`), and the value at a rank is rounded to that rank
  (`Rank.nearest_units`).  Ratios above all finite values are rounded to infinity, and those
  near zero to zero.

  All of this is integer arithmetic: a rank is an exponent times 2^52 and a fraction, and
  the value there is that many units of 2^-1074 (`Rank.units_eq`).  Values grow with their
  ranks (`Rank.units_lt_units`).
-/
import Scenery.Number.Basic
import Mathlib.Tactic.Ring

namespace Scenery.Rank

/-! ### The values at ranks -/

/-- Without a leading one bit. -/
theorem units_of_lt {r : Nat} (h : r < 2 ^ 52) : units r = r := by
  have hexponent : r / Nat.pow 2 52 = 0 := Nat.div_eq_of_lt h
  have hfraction : r % Nat.pow 2 52 = r := Nat.mod_eq_of_lt h
  simp only [units, hexponent, hfraction, if_true]

/-- With a leading one bit, at an exponent that is one more than `k`. -/
theorem units_eq {k fraction : Nat} (h : fraction < 2 ^ 52) :
    units ((k + 1) * 2 ^ 52 + fraction) = (2 ^ 52 + fraction) * 2 ^ k := by
  have hpos : 0 < 2 ^ 52 := by decide
  have hexponent : ((k + 1) * 2 ^ 52 + fraction) / Nat.pow 2 52 = k + 1 := by
    rw [Nat.pow_eq, Nat.add_comm, Nat.add_mul_div_right _ _ hpos, Nat.div_eq_of_lt h, Nat.zero_add]
  have hfraction : ((k + 1) * 2 ^ 52 + fraction) % Nat.pow 2 52 = fraction := by
    rw [Nat.pow_eq, Nat.add_comm, Nat.add_mul_mod_self_right, Nat.mod_eq_of_lt h]
  simp only [units, hexponent, hfraction, if_neg (Nat.succ_ne_zero k), Nat.add_sub_cancel,
    Nat.pow_eq]

/-- Every rank is one or the other. -/
theorem lt_or_eq (r : Nat) :
    r < 2 ^ 52 ∨ ∃ k fraction, fraction < 2 ^ 52 ∧ r = (k + 1) * 2 ^ 52 + fraction := by
  rcases Nat.lt_or_ge r (2 ^ 52) with h | h
  · exact .inl h
  · refine .inr ⟨r / 2 ^ 52 - 1, r % 2 ^ 52, Nat.mod_lt _ (by decide), ?_⟩
    omega

/-- Each exponent has its own interval of values. -/
theorem units_mem {k fraction : Nat} (h : fraction < 2 ^ 52) :
    2 ^ (52 + k) ≤ units ((k + 1) * 2 ^ 52 + fraction) ∧
      units ((k + 1) * 2 ^ 52 + fraction) < 2 ^ (52 + k + 1) := by
  rw [units_eq h]
  constructor
  · rw [Nat.pow_add]
    exact Nat.mul_le_mul_right _ (Nat.le_add_right _ _)
  · rw [Nat.add_right_comm, Nat.pow_add]
    apply Nat.mul_lt_mul_of_pos_right _ (Nat.two_pow_pos k)
    omega

/-- **Values grow with their ranks.** -/
theorem units_lt_units {r s : Nat} (h : r < s) : units r < units s := by
  rcases lt_or_eq r with hr | ⟨k, fraction, hfraction, rfl⟩
  · rw [units_of_lt hr]
    rcases lt_or_eq s with hs | ⟨l, other, hother, rfl⟩
    · rwa [units_of_lt hs]
    · have hle := (units_mem (k := l) hother).1
      have hpow : 2 ^ 52 ≤ 2 ^ (52 + l) := Nat.pow_le_pow_right (by decide) (Nat.le_add_right _ _)
      omega
  · rcases lt_or_eq s with hs | ⟨l, other, hother, rfl⟩
    · omega
    rcases Nat.lt_or_ge k l with hkl | hkl
    · have hlt := (units_mem (k := k) hfraction).2
      have hle := (units_mem (k := l) hother).1
      have hpow : 2 ^ (52 + k + 1) ≤ 2 ^ (52 + l) := Nat.pow_le_pow_right (by decide) (by omega)
      omega
    · obtain rfl : k = l := by omega
      rw [units_eq hfraction, units_eq hother]
      apply Nat.mul_lt_mul_of_pos_right _ (Nat.two_pow_pos k)
      omega

/-! ### Rounding to a natural number -/

theorem divHalfEven_mul (n d : Nat) {k : Nat} (hk : 0 < k) :
    divHalfEven (n * k) (d * k) = divHalfEven n d := by
  have hbelow : 2 * (n % d * k) < d * k ↔ 2 * (n % d) < d := by
    rw [← Nat.mul_assoc]
    exact Nat.mul_lt_mul_right hk
  have habove : d * k < 2 * (n % d * k) ↔ d < 2 * (n % d) := by
    rw [← Nat.mul_assoc]
    exact Nat.mul_lt_mul_right hk
  simp only [divHalfEven, Nat.mul_div_mul_right _ _ hk, Nat.mul_mod_mul_right, hbelow, habove]

/-- A natural number is its own rounding. -/
theorem divHalfEven_mul_self (q : Nat) {d : Nat} (hd : 0 < d) : divHalfEven (q * d) d = q := by
  have hdiv : q * d / d = q := Nat.mul_div_cancel q hd
  have hmod : q * d % d = 0 := Nat.mul_mod_left q d
  simp [divHalfEven, hdiv, hmod, hd]

theorem div_le_divHalfEven (n d : Nat) : n / d ≤ divHalfEven n d := by
  unfold divHalfEven
  dsimp only
  split
  · exact Nat.le_refl _
  · split
    · exact Nat.le_succ _
    · split
      · exact Nat.le_refl _
      · exact Nat.le_succ _

theorem divHalfEven_eq_zero {n d : Nat} (h : 2 * n < d) : divHalfEven n d = 0 := by
  have hlt : n < d := by omega
  simp [divHalfEven, Nat.div_eq_of_lt hlt, Nat.mod_eq_of_lt hlt, h]

/-! ### Rounding to a rank -/

/-- The rank nearest to `n / den` units. -/
def nearest (n den : Nat) : Rank :=
  let e := Nat.log2 (n / den) - 52
  ofNat (e * Nat.pow 2 52 + divHalfEven n (den * Nat.pow 2 e))

theorem nearest_eq (n den : Nat) : nearest n den = ofNat
    ((Nat.log2 (n / den) - 52) * 2 ^ 52 + divHalfEven n (den * 2 ^ (Nat.log2 (n / den) - 52))) :=
  rfl

/-- A unit is one of so many halvings of one. -/
@[irreducible]
def halvings : Nat := 1074

theorem ofRatio_eq_nearest (num den : Nat) :
    ofRatio num den = nearest (num * Nat.pow 2 halvings) den := by
  rw [halvings]
  rfl

theorem nearest_mul (n den : Nat) {k : Nat} (hk : 0 < k) :
    nearest (n * k) (den * k) = nearest n den := by
  simp only [nearest_eq, Nat.mul_div_mul_right _ _ hk, Nat.mul_right_comm den k,
    divHalfEven_mul _ _ hk]

/-- **The rank depends on the value of the ratio alone.** -/
theorem ofRatio_eq_of_cross {a b c d : Nat} (hb : 0 < b) (hd : 0 < d) (h : a * d = c * b) :
    ofRatio a b = ofRatio c d := by
  rw [ofRatio_eq_nearest, ofRatio_eq_nearest]
  generalize Nat.pow 2 halvings = one
  calc nearest (a * one) b = nearest (a * one * d) (b * d) := (nearest_mul _ b hd).symm
    _ = nearest (c * one * b) (d * b) := by
        rw [Nat.mul_right_comm, h, Nat.mul_right_comm, Nat.mul_comm b d]
    _ = nearest (c * one) d := nearest_mul _ d hb

/-- **The value at a rank is rounded to that rank.** -/
theorem nearest_units (r : Nat) {den : Nat} (hden : 0 < den) :
    nearest (units r * den) den = ofNat r := by
  rw [nearest_eq, Nat.mul_div_cancel _ hden, Nat.mul_comm den, divHalfEven_mul _ _ hden]
  congr 1
  rcases lt_or_eq r with hr | ⟨k, fraction, hfraction, rfl⟩
  · rw [units_of_lt hr]
    have hlog : Nat.log2 r ≤ 52 := by
      rcases Nat.eq_zero_or_pos r with rfl | hpos
      · exact Nat.zero_le 52
      · exact Nat.le_of_lt ((Nat.log2_lt (Nat.ne_of_gt hpos)).2 hr)
    have hone := divHalfEven_mul_self r Nat.one_pos
    rw [Nat.sub_eq_zero_of_le hlog, Nat.zero_mul, Nat.zero_add, Nat.pow_zero]
    rwa [Nat.mul_one] at hone
  · have hlog : Nat.log2 (units ((k + 1) * 2 ^ 52 + fraction)) = 52 + k := by
      rw [Nat.log2_eq_iff]
      · exact units_mem hfraction
      · have hpos := Nat.two_pow_pos (52 + k)
        have hmem := units_mem (k := k) hfraction
        omega
    rw [hlog, Nat.add_sub_cancel_left, units_eq hfraction,
      divHalfEven_mul_self _ (Nat.two_pow_pos k)]
    ring

/-- What is not half of a unit is rounded to zero. -/
theorem nearest_eq_zero {n den : Nat} (h : 2 * n < den) : nearest n den = zero := by
  have hdiv : n / den = 0 := Nat.div_eq_of_lt (by omega)
  have hlog : Nat.log2 0 - 52 = 0 := rfl
  simp only [nearest_eq, hdiv, hlog, Nat.pow_zero, Nat.mul_one, divHalfEven_eq_zero h, Nat.zero_mul,
    Nat.zero_add, zero]

theorem ofRatio_zero {den : Nat} (hden : 0 < den) : ofRatio 0 den = zero := by
  rw [ofRatio_eq_nearest, Nat.zero_mul]
  exact nearest_eq_zero hden

theorem ofNat_eq_infinity {n : Nat} (h : infinityRank ≤ n) : ofNat n = infinity := by
  apply Fin.ext
  simp only [ofNat, infinity, Nat.min_self]
  exact Nat.min_eq_right h

/-- What is at least 2^1024 is rounded to infinity. -/
theorem ofRatio_eq_infinity {num den k : Nat} (hden : 0 < den) (hk : 1024 ≤ k)
    (h : 2 ^ k * den ≤ num) : ofRatio num den = infinity := by
  have hquotient : 2 ^ (k + halvings) ≤ num * Nat.pow 2 halvings / den := by
    rw [Nat.le_div_iff_mul_le hden, Nat.pow_add, Nat.mul_right_comm]
    exact Nat.mul_le_mul_right _ h
  have hlarge : 2098 ≤ k + halvings := by
    rw [halvings]
    omega
  rw [ofRatio_eq_nearest, nearest_eq]
  generalize num * Nat.pow 2 halvings = n at hquotient
  generalize hq : n / den = q at hquotient
  generalize k + halvings = size at hquotient hlarge
  have hne : q ≠ 0 := by
    have hpos := Nat.two_pow_pos size
    omega
  have hlog : size ≤ Nat.log2 q := by
    rw [← Nat.not_lt, Nat.log2_lt hne, Nat.not_lt]
    exact hquotient
  have hmantissa : 2 ^ 52 ≤ divHalfEven n (den * 2 ^ (Nat.log2 q - 52)) := by
    refine Nat.le_trans ?_ (div_le_divHalfEven _ _)
    rw [← Nat.div_div_eq_div_mul, hq, Nat.le_div_iff_mul_le (Nat.two_pow_pos _), ← Nat.pow_add,
      Nat.add_sub_cancel' (by omega)]
    exact Nat.log2_self_le hne
  have hexponent : 2046 * 2 ^ 52 ≤ (Nat.log2 q - 52) * 2 ^ 52 :=
    Nat.mul_le_mul_right _ (by omega)
  apply ofNat_eq_infinity
  rw [infinityRank, Nat.pow_eq]
  omega

end Scenery.Rank
