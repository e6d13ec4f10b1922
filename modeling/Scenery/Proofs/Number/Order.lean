/-
  Scenery/Proofs/Number/Order.lean
  ================================
  **The order of numbers is the order of their values.**  Numbers are compared by their
  places in the row of all values.  A value is a whole number of units of 2^-1074
  (`Number.value?`), and values grow with their places, so comparing the values comes to the
  same (`Number.compare_eq`).  Both zeros have the same value; what is not a number has none.
-/
import Scenery.Proofs.Number.Rounding

namespace Scenery

theorem Rank.units_lt_iff {r s : Nat} : units r < units s ↔ r < s := by
  constructor
  · intro h
    rcases Nat.lt_trichotomy r s with hlt | rfl | hgt
    · exact hlt
    · exact absurd h (Nat.lt_irrefl _)
    · exact absurd h (Nat.lt_asymm (units_lt_units hgt))
  · exact units_lt_units

theorem Rank.units_zero : units 0 = 0 := units_of_lt (by decide)

namespace Number

/-- The value in units of 2^-1074, for an infinity the one behind the last finite value. -/
def value? : Number → Option Int
  | .nan => none
  | .real true r => some (-(Rank.units r : Int))
  | .real false r => some (Rank.units r)

theorem value?_eq_none {n : Number} : n.value? = none ↔ n.isNaN = true := by
  rcases n with _ | ⟨_ | _, r⟩ <;> simp [value?, isNaN]

theorem exists_value? {n : Number} (h : n.isNaN = false) : ∃ i, n.value? = some i := by
  rcases n with _ | ⟨_ | _, r⟩
  · cases h
  · exact ⟨_, rfl⟩
  · exact ⟨_, rfl⟩

/-- **Numbers are compared by their values.** -/
theorem compare_eq (a b : Number) : a.compare b =
    match a.value?, b.value? with
    | some i, some j => some (Ord.compare i j)
    | _, _ => none := by
  have hcongr {i j k l : Int} (hlt : i < j ↔ k < l) (hgt : j < i ↔ l < k) :
      some (Ord.compare i j) = some (Ord.compare k l) := by
    congr 1
    rcases Int.lt_trichotomy i j with h | h | h
    · rw [Int.compare_eq_lt.2 h, Int.compare_eq_lt.2 (hlt.1 h)]
    · have hkl : k = l := by omega
      rw [Int.compare_eq_eq.2 h, Int.compare_eq_eq.2 hkl]
    · rw [Int.compare_eq_gt.2 h, Int.compare_eq_gt.2 (hgt.1 h)]
  rcases a with _ | ⟨sign, r⟩
  · rfl
  rcases b with _ | ⟨sign', s⟩
  · cases sign <;> rfl
  have hrs := Rank.units_lt_iff (r := r.val) (s := s.val)
  have hsr := Rank.units_lt_iff (r := s.val) (s := r.val)
  have hr := Rank.units_lt_iff (r := 0) (s := r.val)
  have hs := Rank.units_lt_iff (r := 0) (s := s.val)
  rw [Rank.units_zero] at hr hs
  cases sign <;> cases sign'
  all_goals
    apply hcongr <;> omega

end Number

end Scenery
