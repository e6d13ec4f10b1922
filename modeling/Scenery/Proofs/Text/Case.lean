/-
  Scenery/Proofs/Text/Case.lean
  =============================
  **What changing case cannot do.**  The upper or lower case of a character is never
  a blank, a comma or a `<` unless the character is that itself, and what is in upper
  case has no upper case of its own (`upper_head`).  So changing a capital moves no
  word, no phrase and no tag.

  The tables are checked run by run, by where a run is moved to as a whole: `avoids`
  and `misses` look at the ends of an interval of code points only.
-/
import Scenery.Proofs.Text.Runs
import Scenery.Text.Case

namespace Scenery.Text

/-- A code point lies in one of some ranges. -/
def InRanges (ranges : List (Nat × Nat)) (n : Nat) : Prop := ∃ r ∈ ranges, r.1 ≤ n ∧ n ≤ r.2

/-- No code point from `lo` to `hi` lies in one of some ranges. -/
def avoids (ranges : List (Nat × Nat)) (lo hi : Nat) : Bool :=
  ranges.all fun r => Nat.blt hi r.1 || Nat.blt r.2 lo

theorem not_inRanges_of_avoids {ranges : List (Nat × Nat)} {lo hi n : Nat}
    (h : avoids ranges lo hi) (hlo : lo ≤ n) (hhi : n ≤ hi) : ¬InRanges ranges n := by
  rintro ⟨r, hr, h1, h2⟩
  have hr' := List.all_eq_true.1 h r hr
  rw [Bool.or_eq_true, Nat.blt_eq, Nat.blt_eq] at hr'
  omega

/-! ### Where runs are moved to -/

namespace CaseRuns

/-- A code point stays or goes to one of the places to which its run is moved. -/
theorem move_eq_or (runs : CaseRuns) (n : Nat) :
    runs.move n = n ∨ ∃ first last step target k,
      (first, last, step, target) ∈ runs ∧ runs.move n = target + k ∧ k ≤ last - first ∧
        k % step = 0 := by
  induction runs with
  | nil => exact .inl rfl
  | cons run runs ih =>
    obtain ⟨first, last, step, target⟩ := run
    rw [move]
    by_cases hlt : n < first
    · rw [if_pos hlt]
      exact .inl rfl
    · rw [if_neg hlt]
      by_cases hin : n ≤ last ∧ (n - first) % step = 0
      · rw [if_pos hin]
        exact .inr ⟨first, last, step, target, n - first, List.mem_cons_self, rfl, by omega, hin.2⟩
      · rw [if_neg hin]
        rcases ih with h | ⟨f, l, s, t, k, hmem, h⟩
        · exact .inl h
        · exact .inr ⟨f, l, s, t, k, List.mem_cons_of_mem _ hmem, h⟩

/-- No run is moved into one of some ranges. -/
def avoidRanges (ranges : List (Nat × Nat)) (runs : CaseRuns) : Bool :=
  runs.all fun (first, last, _, target) => avoids ranges target (target + (last - first))

theorem not_inRanges_move {ranges : List (Nat × Nat)} {runs : CaseRuns}
    (h : runs.avoidRanges ranges) {n : Nat} (hn : runs.move n ≠ n) :
    ¬InRanges ranges (runs.move n) := by
  rcases runs.move_eq_or n with h' | ⟨first, last, step, target, k, hmem, hmove, hk, -⟩
  · exact absurd h' hn
  · have hrun := List.all_eq_true.1 h _ hmem
    rw [hmove]
    exact not_inRanges_of_avoids hrun (by omega) (by omega)

/-- No run has one of the code points `lo`, `lo + step`, … up to `hi`. -/
def misses (lo hi step : Nat) : CaseRuns → Bool
  | [] => true
  | (first, last, step', _) :: runs =>
    Nat.blt hi first ||
      ((Nat.blt last lo || (Nat.beq lo hi && !Nat.beq ((lo - first) % step') 0) ||
        (Nat.beq step 2 && (Nat.beq step' 2 && Nat.beq ((lo + first) % 2) 1))) &&
        misses lo hi step runs)

theorem move_of_misses {lo hi step k : Nat} {runs : CaseRuns} (h : misses lo hi step runs)
    (hk : lo + k ≤ hi) (hstep : k % step = 0) : runs.move (lo + k) = lo + k := by
  induction runs with
  | nil => rfl
  | cons run runs ih =>
    obtain ⟨first, last, step', target⟩ := run
    rw [move]
    by_cases hlt : lo + k < first
    · rw [if_pos hlt]
    · rw [if_neg hlt]
      simp only [misses, Bool.or_eq_true, Bool.and_eq_true, Nat.blt_eq, Nat.beq_eq,
        Bool.not_eq_true'] at h
      rcases h with h | ⟨h, hrest⟩
      · omega
      · rw [if_neg, ih hrest]
        rintro ⟨hlast, hmod⟩
        rcases h with (h | ⟨rfl, h⟩) | ⟨rfl, rfl, h⟩
        · omega
        · have hk0 : k = 0 := by omega
          subst hk0
          rw [Nat.add_zero] at hmod
          rw [hmod] at h
          cases h
        · omega

end CaseRuns

/-! ### Changing case -/

/-- A table of characters that become several, and runs for the others. -/
def shift (sequences : List (Nat × List Nat)) (runs : CaseRuns) (c : Char) : Text :=
  match sequences.lookup c.toNat with
  | some codes => codes.map Char.ofNat
  | none => [moved runs c]

theorem upper_eq_shift : upper = shift upperSequences upperRuns := rfl

theorem lower_eq_shift : lower = shift lowerSequences lowerRuns := rfl

theorem mem_of_lookup {sequences : List (Nat × List Nat)} {n : Nat} {codes : List Nat}
    (h : sequences.lookup n = some codes) : (n, codes) ∈ sequences := by
  obtain ⟨before, after, rfl, -⟩ := List.lookup_eq_some_iff.1 h
  simp

theorem shift_ne_nil {sequences : List (Nat × List Nat)} (runs : CaseRuns)
    (hseq : sequences.all fun s => !s.2.isEmpty) (c : Char) : shift sequences runs c ≠ [] := by
  unfold shift
  rcases hl : sequences.lookup c.toNat with _ | codes
  · simp
  · have hcodes := List.all_eq_true.1 hseq _ (mem_of_lookup hl)
    simpa using hcodes

theorem toNat_ofNat (n : Nat) : (Char.ofNat n).toNat = n ∨ (Char.ofNat n).toNat = 0 := by
  by_cases h : n.isValidChar
  · have hn : Char.ofNat n = Char.ofNatAux n h := dif_pos h
    exact .inl (congrArg Char.toNat hn)
  · have hn : Char.ofNat n = Char.ofNat 0 := dif_neg h
    exact .inr (congrArg Char.toNat hn)

theorem not_inRanges_toNat_ofNat {ranges : List (Nat × Nat)} (h0 : avoids ranges 0 0) {n : Nat}
    (hn : ¬InRanges ranges n) : ¬InRanges ranges (Char.ofNat n).toNat := by
  rcases toNat_ofNat n with h | h
  · rw [h]
    exact hn
  · rw [h]
    exact not_inRanges_of_avoids h0 (Nat.le_refl 0) (Nat.le_refl 0)

theorem shift_avoids (ranges : List (Nat × Nat)) (sequences : List (Nat × List Nat))
    (runs : CaseRuns) (h0 : avoids ranges 0 0) (hruns : runs.avoidRanges ranges)
    (hseq : sequences.all fun s => s.2.all fun n => avoids ranges n n) (c : Char) :
    shift sequences runs c = [c] ∨
      ∀ x ∈ shift sequences runs c, ¬InRanges ranges x.toNat := by
  unfold shift
  rcases hl : sequences.lookup c.toNat with _ | codes
  · by_cases hmove : runs.move c.toNat = c.toNat
    · left
      simp only [moved, hmove, Char.ofNat_toNat]
    · right
      intro x hx
      rw [List.mem_singleton.1 hx, moved]
      exact not_inRanges_toNat_ofNat h0 (CaseRuns.not_inRanges_move hruns hmove)
  · right
    intro x hx
    obtain ⟨n, hn, rfl⟩ := List.mem_map.1 hx
    have hmem := mem_of_lookup hl
    have hcode := List.all_eq_true.1 (List.all_eq_true.1 hseq _ hmem) n hn
    exact not_inRanges_toNat_ofNat h0
      (not_inRanges_of_avoids hcode (Nat.le_refl n) (Nat.le_refl n))

/-- The code points of blanks, of the comma and of `<`. -/
def markRanges : List (Nat × Nat) := [
  (0x9, 0xD), (0x20, 0x20), (0x2C, 0x2C), (0x3C, 0x3C), (0x85, 0x85), (0xA0, 0xA0),
  (0x1680, 0x1680), (0x2000, 0x200A), (0x2028, 0x2029), (0x202F, 0x202F), (0x205F, 0x205F),
  (0x3000, 0x3000)]

/-- A character that ends words or phrases or starts tags. -/
def isMark (c : Char) : Bool := isBlank c || c == ',' || c == '<'

theorem inRanges_of_isMark {c : Char} (h : isMark c) : InRanges markRanges c.toNat := by
  simp only [isMark, isBlank, Bool.or_eq_true, beq_iff_eq, Bool.and_eq_true,
    decide_eq_true_eq] at h
  simp only [InRanges, markRanges, List.mem_cons, List.not_mem_nil, or_false,
    exists_eq_or_imp, exists_eq_left]
  rcases h with (h | rfl) | rfl
  · omega
  · decide
  · decide

theorem isMark_eq_false {c : Char} (h : ¬InRanges markRanges c.toNat) : isMark c = false := by
  rw [← Bool.not_eq_true]
  intro hc
  exact h (inRanges_of_isMark hc)

/-- Case folding leaves alone what no run has. -/
theorem fold_of_inRanges {ranges : List (Nat × Nat)}
    (hmisses : ∀ r ∈ ranges, foldRuns.misses r.1 r.2 1 = true) {c : Char}
    (h : InRanges ranges c.toNat) : fold c = c := by
  obtain ⟨r, hr, hlo, hhi⟩ := h
  obtain ⟨k, hk⟩ := Nat.exists_eq_add_of_le hlo
  have hmove : foldRuns.move c.toNat = c.toNat := by
    rw [hk]
    exact CaseRuns.move_of_misses (hmisses r hr) (by omega) (Nat.mod_one k)
  rw [fold, moved, hmove, Char.ofNat_toNat]

/-- What folding leaves alone and what nothing is folded to is the same letter as itself
    only. -/
theorem eq_of_sameLetter_of_inRanges {ranges : List (Nat × Nat)} (h0 : avoids ranges 0 0)
    (hmisses : ∀ r ∈ ranges, foldRuns.misses r.1 r.2 1 = true)
    (havoids : foldRuns.avoidRanges ranges) {a b : Char} (h : sameLetter a b)
    (hb : InRanges ranges b.toNat) : a = b := by
  rw [sameLetter, beq_iff_eq, fold_of_inRanges hmisses hb] at h
  rcases shift_avoids ranges [] foldRuns h0 havoids (by simp) a with hfold | hfold
  · have hsame : [fold a] = [a] := hfold
    rw [← h]
    exact (List.cons.inj hsame).1.symm
  · have hnot : ¬InRanges ranges (fold a).toNat := hfold (fold a) List.mem_cons_self
    rw [h] at hnot
    exact absurd hb hnot

/-- No other character is the same letter as a mark. -/
theorem eq_of_sameLetter {a b : Char} (h : sameLetter a b) (hb : isMark b) : a = b :=
  eq_of_sameLetter_of_inRanges (by decide) (by decide +kernel) (by decide +kernel) h
    (inRanges_of_isMark hb)

/-- No other character is the same letter as a digit. -/
theorem eq_of_sameLetter_digit {a b : Char} (h : sameLetter a b) (hb : b.isDigit) : a = b := by
  have hdigit : 48 ≤ b.toNat ∧ b.toNat ≤ 57 := by
    simpa [Char.isDigit, UInt32.le_iff_toNat_le] using hb
  exact eq_of_sameLetter_of_inRanges (show avoids [(48, 57)] 0 0 by decide) (by decide +kernel)
    (by decide +kernel) h ⟨(48, 57), List.mem_cons_self, hdigit⟩

theorem upper_ne_nil (c : Char) : upper c ≠ [] := by
  rw [upper_eq_shift]
  exact shift_ne_nil upperRuns (by decide) c

theorem lower_ne_nil (c : Char) : lower c ≠ [] := by
  rw [lower_eq_shift]
  exact shift_ne_nil lowerRuns (by decide) c

/-- An upper case has no marks in it and no small `a`, so it starts no connecting
    word. -/
theorem upper_eq_or (c : Char) :
    upper c = [c] ∨ ∀ x ∈ upper c, isMark x = false ∧ x ≠ 'a' := by
  have h := shift_avoids (('a'.toNat, 'a'.toNat) :: markRanges) upperSequences upperRuns
    (by decide) (by decide +kernel) (by decide +kernel) c
  refine h.imp_right fun h x hx => ⟨isMark_eq_false ?_, ?_⟩
  · rintro ⟨r, hr, hin⟩
    exact h x hx ⟨r, List.mem_cons_of_mem _ hr, hin⟩
  · rintro rfl
    exact h 'a' hx ⟨_, List.mem_cons_self, Nat.le_refl _, Nat.le_refl _⟩

theorem lower_eq_or (c : Char) : lower c = [c] ∨ ∀ x ∈ lower c, isMark x = false := by
  have h := shift_avoids markRanges lowerSequences lowerRuns (by decide) (by decide +kernel)
    (by decide +kernel) c
  exact h.imp_right fun h x hx => isMark_eq_false (h x hx)

/-! ### Upper case is final -/

/-- The characters that become several are not between two code points. -/
def keysMiss (sequences : List (Nat × List Nat)) (lo hi : Nat) : Bool :=
  sequences.all fun s => Nat.blt hi s.1 || Nat.blt s.1 lo

theorem lookup_eq_none_of_keysMiss {sequences : List (Nat × List Nat)} {lo hi n : Nat}
    (h : keysMiss sequences lo hi) (hlo : lo ≤ n) (hhi : n ≤ hi) :
    sequences.lookup n = none := by
  rcases hl : sequences.lookup n with _ | codes
  · rfl
  · have hkey := List.all_eq_true.1 h _ (mem_of_lookup hl)
    rw [Bool.or_eq_true, Nat.blt_eq, Nat.blt_eq] at hkey
    omega

/-- No code point from `lo` to `hi`, in steps, has an upper case. -/
def settled (lo hi step : Nat) : Bool :=
  upperRuns.misses lo hi step && keysMiss upperSequences lo hi

theorem upper_of_settled {lo hi step k : Nat} (h : settled lo hi step) (hk : lo + k ≤ hi)
    (hstep : k % step = 0) : upper (Char.ofNat (lo + k)) = [Char.ofNat (lo + k)] := by
  rw [settled, Bool.and_eq_true] at h
  rcases toNat_ofNat (lo + k) with hn | hn
  · simp only [upper, hn, lookup_eq_none_of_keysMiss h.2 (Nat.le_add_right lo k) hk, moved,
      CaseRuns.move_of_misses h.1 hk hstep]
  · have hzero : upper (Char.ofNat 0) = [Char.ofNat 0] := by decide
    have hchar : Char.ofNat (lo + k) = Char.ofNat 0 := by
      rw [← Char.ofNat_toNat (Char.ofNat (lo + k)), hn]
    rw [hchar, hzero]

theorem settled_upperRuns :
    (upperRuns.all fun (first, last, step, target) =>
      settled target (target + (last - first)) step) = true := by decide +kernel

theorem settled_upperSequences :
    (upperSequences.all fun s => settled (s.2.headD 0) (s.2.headD 0) 1) = true := by
  decide +kernel

/-- The first character of an upper case has no upper case of its own. -/
theorem upper_head {c x : Char} {t : Text} (h : upper c = x :: t) :
    upper c = [c] ∨ upper x = [x] := by
  rw [upper] at h ⊢
  rcases hl : upperSequences.lookup c.toNat with _ | codes
  · rw [hl] at h
    obtain ⟨rfl, -⟩ := List.cons.inj h
    rcases upperRuns.move_eq_or c.toNat with hmove |
      ⟨first, last, step, target, k, hmem, hmove, hk, hstep⟩
    · left
      simp only [moved, hmove, Char.ofNat_toNat]
    · right
      rw [moved, hmove]
      exact upper_of_settled (List.all_eq_true.1 settled_upperRuns _ hmem) (by omega) hstep
  · right
    have hsettled := List.all_eq_true.1 settled_upperSequences _ (mem_of_lookup hl)
    rw [hl] at h
    cases codes with
    | nil => cases h
    | cons n codes =>
      obtain ⟨rfl, -⟩ := List.cons.inj h
      exact upper_of_settled (k := 0) hsettled (Nat.le_refl n) rfl

end Scenery.Text
