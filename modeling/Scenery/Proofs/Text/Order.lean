/-
  Scenery/Proofs/Text/Order.lean
  ==============================
  **The order of texts is the order of their bytes.**  Texts are compared by the first
  character in which they differ (`Text.compare`).  Comparing the bytes that they are
  written in comes to the same (`Text.octets_lt_octets`): of two characters, the bytes of the
  lesser one are the lesser at the first place where the two differ, and there is such a
  place before either ends (`Text.Below`).
-/
import Scenery.Condition.Evaluation
import Scenery.Proofs.Text.Octets

namespace Scenery.Text

/-- The bytes differ somewhere, and at the first such place these are less. -/
def Below (l m : List UInt8) : Prop :=
  ∃ same x y u v, l = same ++ x :: u ∧ m = same ++ y :: v ∧ x < y

theorem below_of_lt {m n : Nat} (h : m < n) (hn : n < 256) (u v : List UInt8) :
    Below (UInt8.ofNat m :: u) (UInt8.ofNat n :: v) := by
  refine ⟨[], UInt8.ofNat m, UInt8.ofNat n, u, v, rfl, rfl, ?_⟩
  rw [UInt8.lt_iff_toNat_lt, UInt8.toNat_ofNat', UInt8.toNat_ofNat']
  omega

/-- If these are the same, then it depends on the next. -/
theorem below_of_le {m n : Nat} (h : m ≤ n) (hn : n < 256) {u v : List UInt8}
    (hnext : m = n → Below u v) : Below (UInt8.ofNat m :: u) (UInt8.ofNat n :: v) := by
  rcases Nat.lt_or_eq_of_le h with hlt | rfl
  · exact below_of_lt hlt hn u v
  · obtain ⟨same, x, y, s, t, rfl, rfl, hxy⟩ := hnext rfl
    exact ⟨UInt8.ofNat m :: same, x, y, s, t, rfl, rfl, hxy⟩

/-- What follows does not matter. -/
theorem Below.append_lt {l m : List UInt8} (h : Below l m) (s t : List UInt8) :
    l ++ s < m ++ t := by
  obtain ⟨same, x, y, u, v, rfl, rfl, hxy⟩ := h
  rw [List.append_assoc, List.append_assoc]
  apply List.append_left_lt
  rw [List.cons_append, List.cons_append, List.cons_lt_cons_iff]
  exact .inl hxy

/-! ### Characters -/

/-- The greater character is written in as many bytes or more, and the bits of its number
    are in them from the highest down. -/
theorem below_utf8EncodeChar {c d : Char} (h : c < d) :
    Below (String.utf8EncodeChar c) (String.utf8EncodeChar d) := by
  have hlt : c.val.toNat < d.val.toNat := h
  have hmax : d.val.toNat < 0x110000 := by
    have hvalid := d.valid
    simp only [UInt32.isValidChar, Nat.isValidChar] at hvalid
    omega
  unfold String.utf8EncodeChar
  generalize c.val.toNat = m at hlt
  generalize d.val.toNat = n at hlt hmax
  dsimp only
  by_cases hone : n ≤ 127
  · rw [if_pos hone, if_pos (by omega)]
    exact below_of_lt hlt (by omega) [] []
  rw [if_neg hone]
  by_cases htwo : n ≤ 2047
  · rw [if_pos htwo]
    split
    · exact below_of_lt (by omega) (by omega) _ _
    · rw [if_pos (by omega)]
      refine below_of_le (by omega) (by omega) fun _ => ?_
      exact below_of_lt (by omega) (by omega) [] []
  rw [if_neg htwo]
  by_cases hthree : n ≤ 65535
  · rw [if_pos hthree]
    split
    · exact below_of_lt (by omega) (by omega) _ _
    split
    · exact below_of_lt (by omega) (by omega) _ _
    · rw [if_pos (by omega)]
      refine below_of_le (by omega) (by omega) fun _ => ?_
      refine below_of_le (by omega) (by omega) fun _ => ?_
      exact below_of_lt (by omega) (by omega) [] []
  rw [if_neg hthree]
  split
  · exact below_of_lt (by omega) (by omega) _ _
  split
  · exact below_of_lt (by omega) (by omega) _ _
  split
  · exact below_of_lt (by omega) (by omega) _ _
  · refine below_of_le (by omega) (by omega) fun _ => ?_
    refine below_of_le (by omega) (by omega) fun _ => ?_
    refine below_of_le (by omega) (by omega) fun _ => ?_
    exact below_of_lt (by omega) (by omega) [] []

/-! ### Texts -/

theorem octets_lt_of_lt {s t : Text} (h : s < t) : octets s < octets t := by
  induction s generalizing t with
  | nil =>
    cases t with
    | nil => exact absurd h (List.lt_irrefl [])
    | cons d t =>
      obtain ⟨b, bs, hb, -⟩ := octets_cons d t
      rw [hb]
      exact List.nil_lt_cons b _
  | cons c s ih =>
    cases t with
    | nil => exact absurd h (List.not_lt_nil _)
    | cons d t =>
      change String.utf8EncodeChar c ++ octets s < String.utf8EncodeChar d ++ octets t
      rcases List.cons_lt_cons_iff.1 h with hchar | ⟨rfl, hrest⟩
      · exact (below_utf8EncodeChar hchar).append_lt _ _
      · exact List.append_left_lt (ih hrest)

/-- **Texts are ordered as their bytes are.** -/
theorem octets_lt_octets {s t : Text} : octets s < octets t ↔ s < t := by
  constructor
  · intro h
    rcases Std.lt_trichotomy s t with hlt | rfl | hgt
    · exact hlt
    · exact absurd h (List.lt_irrefl _)
    · exact absurd h (List.lt_asymm (octets_lt_of_lt hgt))
  · exact octets_lt_of_lt

theorem compare_eq_lt {s t : Text} : compare s t = .lt ↔ octets s < octets t := by
  rw [octets_lt_octets, compare]
  split
  · next h => simp [h]
  · next h => split <;> simp [h]

theorem compare_eq_gt {s t : Text} : compare s t = .gt ↔ octets t < octets s := by
  rw [octets_lt_octets, compare]
  split
  · next h => simp [List.lt_asymm h]
  · split
    · next h => simp [h]
    · next h => simp [h]

theorem compare_eq_eq {s t : Text} : compare s t = .eq ↔ s = t := by
  rw [compare]
  rcases Std.lt_trichotomy s t with hlt | rfl | hgt
  · have hne : s ≠ t := by
      rintro rfl
      exact List.lt_irrefl _ hlt
    simp [hlt, hne]
  · rw [if_neg (List.lt_irrefl s), if_neg (List.lt_irrefl s)]
    simp
  · have hne : s ≠ t := by
      rintro rfl
      exact List.lt_irrefl _ hgt
    simp [hgt, List.lt_asymm hgt, hne]

end Scenery.Text
