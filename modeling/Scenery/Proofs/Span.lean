/-
  Scenery/Proofs/Span.lean
  ========================
  **Edits of texts in pieces.**  A range is the place of a piece between two others;
  replacing it leaves the others as they are.

  Two texts that are the same but for some pieces (`SameBut`) agree everywhere else,
  byte for byte.  The places of the pieces lie in the first text, cut no character and
  do not meet (`SameBut.within`, `SameBut.apart`).

  Replacing the pieces one after the other leads from one text to the other if the last one
  comes first (`SameBut.carried`).  What is in front of a piece then still is what it was,
  so the piece is found at its place.  Edits are sorted that way before they are carried
  out, so they can be given in any order unless two start at the same byte
  (`Edit.applyAll_of_perm`).
-/
import Scenery.Span

namespace Scenery

namespace Span

/-- The place of a piece behind another. -/
def behind (a x : Text) : Span := ⟨Text.bytes a, Text.bytes a + Text.bytes x⟩

theorem slice_behind (a x c : Text) : (behind a x).slice (a ++ (x ++ c)) = x := by
  simp [behind, slice]

theorem replace_behind (a x c new : Text) :
    (behind a x).replace new (a ++ (x ++ c)) = a ++ (new ++ c) := by
  have hdrop : Text.dropBytes (Text.bytes a + Text.bytes x) (a ++ (x ++ c)) = c := by
    rw [← Text.bytes_append, ← List.append_assoc, Text.dropBytes_append]
  rw [replace, behind, Text.takeBytes_append, hdrop, List.append_assoc]

end Span

/-- A piece of a text, and what is put in its place. -/
structure Piece where
  span : Span
  old : Text
  new : Text

def Piece.edit (p : Piece) : Edit := ⟨p.span, p.new⟩

/-- Two texts are the same but for some pieces, in their order; `offset` is the byte where
    the first text starts. -/
inductive SameBut : Nat → List Piece → Text → Text → Prop where
  | same (offset : Nat) (t : Text) : SameBut offset [] t t
  | piece {offset : Nat} {ps : List Piece} {t t' : Text} (a old new : Text) :
    SameBut (offset + Text.bytes a + Text.bytes old) ps t t' →
    SameBut offset
      (⟨⟨offset + Text.bytes a, offset + Text.bytes a + Text.bytes old⟩, old, new⟩ :: ps)
      (a ++ (old ++ t)) (a ++ (new ++ t'))

namespace SameBut

theorem one (a x c new : Text) :
    SameBut 0 [⟨Span.behind a x, x, new⟩] (a ++ (x ++ c)) (a ++ (new ++ c)) := by
  have h : SameBut 0 _ _ _ := .piece a x new (.same _ c)
  rw [Nat.zero_add] at h
  exact h

theorem two (a x b y c new₁ new₂ : Text) :
    SameBut 0 [⟨Span.behind a x, x, new₁⟩, ⟨Span.behind (a ++ (x ++ b)) y, y, new₂⟩]
      (a ++ (x ++ (b ++ (y ++ c)))) (a ++ (new₁ ++ (b ++ (new₂ ++ c)))) := by
  have h : SameBut 0 _ _ _ := .piece a x new₁ (.piece b y new₂ (.same _ c))
  have hspan : Span.behind (a ++ (x ++ b)) y =
      ⟨Text.bytes a + Text.bytes x + Text.bytes b,
        Text.bytes a + Text.bytes x + Text.bytes b + Text.bytes y⟩ := by
    simp [Span.behind, Nat.add_assoc]
  rw [Nat.zero_add] at h
  rw [hspan]
  exact h

/-- Each piece stands in the first text, at its place. -/
theorem within {offset : Nat} {ps : List Piece} {t t' : Text} (h : SameBut offset ps t t') :
    ∀ p ∈ ps, ∃ a c, t = a ++ (p.old ++ c) ∧
      p.span = ⟨offset + Text.bytes a, offset + Text.bytes a + Text.bytes p.old⟩ := by
  induction h with
  | same offset t =>
    intro p hp
    cases hp
  | @piece offset ps t t' a old new _ ih =>
    intro p hp
    rcases List.mem_cons.1 hp with rfl | hp
    · exact ⟨a, t, rfl, rfl⟩
    · obtain ⟨a', c, ht, hspan⟩ := ih p hp
      refine ⟨a ++ (old ++ a'), c, ?_, ?_⟩
      · rw [ht]
        simp
      · rw [hspan]
        simp [Nat.add_assoc]

theorem le_start {offset : Nat} {ps : List Piece} {t t' : Text} (h : SameBut offset ps t t') :
    ∀ p ∈ ps, offset ≤ p.span.start := by
  intro p hp
  obtain ⟨a, c, -, hspan⟩ := h.within p hp
  rw [hspan]
  exact Nat.le_add_right _ _

/-- The places of the pieces do not meet. -/
theorem apart {offset : Nat} {ps : List Piece} {t t' : Text} (h : SameBut offset ps t t') :
    ps.Pairwise fun p q => p.span.stop ≤ q.span.start := by
  induction h with
  | same => exact .nil
  | piece a old new hrest ih =>
    refine List.pairwise_cons.2 ⟨?_, ih⟩
    intro q hq
    exact hrest.le_start q hq

theorem pairwise_start_le {offset : Nat} {ps : List Piece} {t t' : Text}
    (h : SameBut offset ps t t') : ps.Pairwise fun p q => p.span.start ≤ q.span.start := by
  apply h.apart.imp_of_mem
  intro p q hp _ hstop
  obtain ⟨a, c, -, hspan⟩ := h.within p hp
  have hrange : p.span.start ≤ p.span.stop := by
    rw [hspan]
    exact Nat.le_add_right _ _
  exact Nat.le_trans hrange hstop

end SameBut

namespace Edit

/-- Replacements are carried out in turn: each one is of a piece of the text as it is by then,
    at the place of that piece. -/
inductive Carried : List Edit → Text → Text → Prop where
  | nil (t : Text) : Carried [] t t
  | cons {es : List Edit} {t : Text} (a x c new : Text) :
    Carried es (a ++ (new ++ c)) t → Carried (⟨Span.behind a x, new⟩ :: es) (a ++ (x ++ c)) t

namespace Carried

variable {es fs : List Edit} {t t' t'' : Text}

theorem foldl_eq (h : Carried es t t') : es.foldl (fun t e => e.apply t) t = t' := by
  induction h with
  | nil => rfl
  | cons a x c new _ ih =>
    rw [List.foldl_cons, apply, Span.replace_behind]
    exact ih

theorem append (h : Carried es t t') (h' : Carried fs t' t'') : Carried (es ++ fs) t t'' := by
  induction h with
  | nil => exact h'
  | cons a x c new _ ih => exact .cons a x c new (ih h')

end Carried

end Edit

/-- The last piece is replaced first, so the text up to the next one to be replaced is still
    the first text. -/
theorem SameBut.carried {offset : Nat} {ps : List Piece} {t t' : Text}
    (h : SameBut offset ps t t') (front : Text) (hfront : Text.bytes front = offset) :
    Edit.Carried (ps.map Piece.edit).reverse (front ++ t) (front ++ t') := by
  induction h generalizing front with
  | same => exact .nil _
  | @piece offset ps t t' a old new _ ih =>
    have hothers := ih (front ++ (a ++ old)) (by simp [hfront, Nat.add_assoc])
    have hfirst : Edit.Carried [⟨Span.behind (front ++ a) old, new⟩]
        ((front ++ a) ++ (old ++ t')) ((front ++ a) ++ (new ++ t')) :=
      .cons (front ++ a) old t' new (.nil _)
    simp only [List.append_assoc] at hothers hfirst
    rw [List.map_cons, List.reverse_cons]
    simp only [Span.behind, Text.bytes_append, hfront] at hfirst
    exact hothers.append hfirst

namespace Edit

/-- The edits in the order in which they are carried out, the last range first. -/
def backward (edits : List Edit) : List Edit :=
  edits.mergeSort fun a b => b.span.start ≤ a.span.start

theorem applyAll_eq_foldl (edits : List Edit) (t : Text) :
    applyAll edits t = (backward edits).foldl (fun t e => e.apply t) t := rfl

theorem backward_perm (edits : List Edit) : (backward edits).Perm edits := List.mergeSort_perm _ _

theorem pairwise_backward (edits : List Edit) :
    (backward edits).Pairwise fun e f => f.span.start ≤ e.span.start := by
  have hle : (backward edits).Pairwise fun e f =>
      decide (f.span.start ≤ e.span.start) = true := by
    apply List.pairwise_mergeSort
    · intro e f g hef hfg
      simp only [decide_eq_true_eq] at hef hfg ⊢
      exact Nat.le_trans hfg hef
    · intro e f
      simp only [Bool.or_eq_true, decide_eq_true_eq]
      exact Nat.le_total _ _
  simpa only [decide_eq_true_eq] using hle

section Order

variable {edits edits' : List Edit} {ps : List Piece} {t t' : Text}

/-- Edits that start at different bytes are in order in one way only. -/
theorem eq_backward (hstarts : edits.Pairwise fun e f => e.span.start ≠ f.span.start)
    (hperm : edits'.Perm edits)
    (hsorted : edits'.Pairwise fun e f => f.span.start ≤ e.span.start) :
    backward edits = edits' := by
  have hstrict {es : List Edit} (hes : es.Perm edits)
      (hle : es.Pairwise fun e f => f.span.start ≤ e.span.start) :
      es.Pairwise fun e f => f.span.start < e.span.start := by
    apply (hle.and ((hes.pairwise_iff Ne.symm).2 hstarts)).imp
    rintro e f ⟨hle, hne⟩
    omega
  apply List.Perm.eq_of_pairwise _ (hstrict (backward_perm edits) (pairwise_backward edits))
    (hstrict hperm hsorted) ((backward_perm edits).trans hperm.symm)
  intro e f _ _ hef hfe
  omega

/-- The pieces of a text are replaced if the last one comes first. -/
theorem applyAll_of_sameBut (h : SameBut 0 ps t t')
    (horder : backward edits = (ps.map Piece.edit).reverse) : applyAll edits t = t' := by
  rw [applyAll_eq_foldl, horder]
  exact (h.carried [] rfl).foldl_eq

/-- The pieces of a text are replaced in whatever order the edits are given, unless two start
    at the same byte. -/
theorem applyAll_of_perm (h : SameBut 0 ps t t') (hperm : (ps.map Piece.edit).Perm edits)
    (hstarts : edits.Pairwise fun e f => e.span.start ≠ f.span.start) :
    applyAll edits t = t' := by
  apply applyAll_of_sameBut h
  apply eq_backward hstarts ((List.reverse_perm _).trans hperm)
  rw [List.pairwise_reverse, List.pairwise_map]
  exact h.pairwise_start_le

end Order

theorem applyAll_one (a x c new : Text) :
    applyAll [⟨Span.behind a x, new⟩] (a ++ (x ++ c)) = a ++ (new ++ c) :=
  applyAll_of_perm (.one a x c new) (.refl _) (List.pairwise_singleton _ _)

/-- Two edits in either order, of pieces that do not start at the same byte. -/
theorem applyAll_two {edits : List Edit} (a x b y c new₁ new₂ : Text) (h : x ++ b ≠ [])
    (hperm : [⟨Span.behind a x, new₁⟩, ⟨Span.behind (a ++ (x ++ b)) y, new₂⟩].Perm edits) :
    applyAll edits (a ++ (x ++ (b ++ (y ++ c)))) = a ++ (new₁ ++ (b ++ (new₂ ++ c))) := by
  apply applyAll_of_perm (.two a x b y c new₁ new₂) hperm
  rw [← hperm.pairwise_iff Ne.symm, List.pairwise_pair]
  have hpos : Text.bytes (x ++ b) ≠ 0 := fun hzero => h (Text.bytes_eq_zero_iff.1 hzero)
  show Text.bytes a ≠ Text.bytes (a ++ (x ++ b))
  rw [Text.bytes_append]
  omega

theorem mergeSort_pair (le : Edit → Edit → Bool) (e₁ e₂ : Edit) :
    [e₁, e₂].mergeSort le = if le e₁ e₂ then [e₁, e₂] else [e₂, e₁] := by
  by_cases h : le e₁ e₂ <;> simp [List.mergeSort, List.MergeSort.Internal.splitInTwo, h]

end Edit

end Scenery
