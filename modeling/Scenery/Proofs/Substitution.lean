/-
  Scenery/Proofs/Substitution.lean
  ================================
  **Edits are a substitution.**  Each replacement moves the text behind it, so a row of
  replacements means something only by the order in which they are carried out.  Edits that
  are apart (`Edit.Apart`) have another meaning, without an order: the text is cut at their
  ranges, all at once, and each piece gives way to the new one.  The main statement,
  `Edit.applyAll_of_apart`, is that carrying them out comes to this.

  The ranges of such edits come one behind the other in one order only, and then the text
  can be cut at them from the left (`Edit.exists_sameBut`).  Carrying them out goes through
  the same order from the right.
-/
import Scenery.Proofs.Text.Octets

namespace Scenery

namespace Edit

/-- Edits of ranges that lie in a text and cut no character.  No two start at the same byte,
    and of any two one ends before the other starts. -/
structure Apart (edits : List Edit) (t : Text) : Prop where
  in_text : ∀ e ∈ edits, e.span.In t
  starts_ne : edits.Pairwise fun e f => e.span.start ≠ f.span.start
  apart : edits.Pairwise fun e f =>
    e.span.stop ≤ f.span.start ∨ f.span.stop ≤ e.span.start

/-- The first edit is of a range that starts and ends before that of the second one. -/
def Before (e f : Edit) : Prop := e.span.start < f.span.start ∧ e.span.stop ≤ f.span.start

/-! ### The order of edits that are apart -/

section Order

variable {edits edits' : List Edit} {t : Text}

theorem Apart.of_perm (h : Apart edits t) (hperm : edits'.Perm edits) : Apart edits' t where
  in_text := by
    intro e he
    exact h.in_text e (hperm.mem_iff.1 he)
  starts_ne := (hperm.pairwise_iff Ne.symm).2 h.starts_ne
  apart := (hperm.pairwise_iff Or.symm).2 h.apart

/-- Each edit is carried out before those in front of it. -/
theorem Apart.pairwise_before (h : Apart edits t) :
    (backward edits).Pairwise fun e f => f.Before e := by
  have hback := h.of_perm (backward_perm edits)
  apply List.Pairwise.imp_of_mem _
    ((pairwise_backward edits).and (hback.starts_ne.and hback.apart))
  rintro e f he - ⟨hle, hne, hapart⟩
  have hrange := (hback.in_text e he).start_le_stop
  refine ⟨by omega, ?_⟩
  rcases hapart with hstop | hstop
  · omega
  · exact hstop

end Order

/-! ### Cutting the text -/

/-- A text can be cut at the places of edits that come one behind the other.  The text starts
    at a byte `offset` of a longer one, by which the places are counted. -/
theorem exists_sameBut {offset : Nat} {edits : List Edit} {t : Text}
    (hplaced : ∀ e ∈ edits, ∃ a x c, t = a ++ (x ++ c) ∧
      e.span = ⟨offset + Text.bytes a, offset + Text.bytes a + Text.bytes x⟩)
    (horder : edits.Pairwise Before) :
    ∃ pieces t', pieces.map Piece.edit = edits ∧ SameBut offset pieces t t' := by
  induction edits generalizing offset t with
  | nil => exact ⟨[], t, rfl, .same _ _⟩
  | cons e es ih =>
    obtain ⟨hbehind, horder⟩ := List.pairwise_cons.1 horder
    obtain ⟨a, x, c, rfl, hspan⟩ := hplaced e List.mem_cons_self
    -- the other places are behind this piece, so they are places of what is left
    have hrest : ∀ f ∈ es, ∃ b y d, c = b ++ (y ++ d) ∧
        f.span = ⟨offset + Text.bytes a + Text.bytes x + Text.bytes b,
          offset + Text.bytes a + Text.bytes x + Text.bytes b + Text.bytes y⟩ := by
      intro f hf
      obtain ⟨b, y, d, htext, hplace⟩ := hplaced f (List.mem_cons_of_mem _ hf)
      have hle : Text.bytes (a ++ x) ≤ Text.bytes b := by
        have hstop := (hbehind f hf).2
        rw [hspan, hplace] at hstop
        simp only [Text.bytes_append] at hstop ⊢
        omega
      rw [← List.append_assoc] at htext
      obtain ⟨m, rfl, hc⟩ := Text.exists_between htext hle
      refine ⟨m, y, d, hc, ?_⟩
      rw [hplace]
      simp only [Text.bytes_append, Nat.add_assoc]
    obtain ⟨pieces, c', hedits, hsame⟩ := ih hrest horder
    refine ⟨⟨e.span, x, e.new⟩ :: pieces, a ++ (e.new ++ c'), ?_, ?_⟩
    · rw [List.map_cons, hedits]
      rfl
    · rw [hspan]
      exact .piece a x e.new hsame

/-! ### Edits at once -/

section AtOnce

variable {edits edits' : List Edit} {t : Text}

/-- The pieces that edits replace, in the order of the text. -/
theorem Apart.exists_pieces (h : Apart edits t) :
    ∃ pieces, backward edits = (pieces.map Piece.edit).reverse ∧
      SameBut 0 pieces t (applyAll edits t) := by
  obtain ⟨pieces, t', hedits, hsame⟩ : ∃ pieces t',
      pieces.map Piece.edit = (backward edits).reverse ∧ SameBut 0 pieces t t' := by
    apply exists_sameBut
    · intro e he
      have hmem := (backward_perm edits).mem_iff.1 (List.mem_reverse.1 he)
      obtain ⟨a, x, c, ht, hspan⟩ := (h.in_text e hmem).exists_behind
      exact ⟨a, x, c, ht, by rw [hspan, Nat.zero_add]; rfl⟩
    · exact List.pairwise_reverse.2 h.pairwise_before
  have horder : backward edits = (pieces.map Piece.edit).reverse := by
    rw [hedits, List.reverse_reverse]
  refine ⟨pieces, horder, ?_⟩
  rw [applyAll_of_sameBut hsame horder]
  exact hsame

theorem Apart.applyAll_eq_of_perm (h : Apart edits t) (hperm : edits'.Perm edits) :
    applyAll edits' t = applyAll edits t := by
  have hbackward : backward edits = backward edits' :=
    eq_backward h.starts_ne ((backward_perm edits').trans hperm) (pairwise_backward edits')
  rw [applyAll_eq_foldl, applyAll_eq_foldl, hbackward]

/-- **Edits that are apart are a substitution.**  Carrying them out gives the one text that
    is the old one cut at their ranges, with a new piece for each piece that was there.
    Hence it does not matter in which order they are given.  Each range that is replaced is
    one of the text as it is by then. -/
theorem applyAll_of_apart (h : Apart edits t) :
    (∀ t', applyAll edits t = t' ↔
      ∃ pieces, (pieces.map Piece.edit).Perm edits ∧ SameBut 0 pieces t t') ∧
    (∀ edits', edits'.Perm edits → applyAll edits' t = applyAll edits t) ∧
    Carried (backward edits) t (applyAll edits t) := by
  obtain ⟨pieces, horder, hsame⟩ := h.exists_pieces
  refine ⟨?cut, fun edits' hperm => h.applyAll_eq_of_perm hperm, ?carried⟩
  case cut =>
    intro t'
    constructor
    · rintro rfl
      have hreverse := List.reverse_perm (pieces.map Piece.edit)
      rw [← horder] at hreverse
      exact ⟨pieces, hreverse.symm.trans (backward_perm edits), hsame⟩
    · rintro ⟨pieces', hperm, hsame'⟩
      exact applyAll_of_perm hsame' hperm h.starts_ne
  case carried =>
    rw [horder]
    exact hsame.carried [] rfl

end AtOnce

/-- Edits in no order, one of which only inserts, right behind another one. -/
def rewording : List Edit :=
  [⟨⟨9, 12⟩, "cats".toList⟩, ⟨⟨6, 6⟩, " now".toList⟩, ⟨⟨0, 3⟩, "Ici".toList⟩,
    ⟨⟨7, 8⟩, "two".toList⟩, ⟨⟨4, 6⟩, "are".toList⟩]

/-- What they replace in `Là is a cat.`, where the second character has two bytes. -/
def reworded : List Piece :=
  [⟨⟨0, 3⟩, "Là".toList, "Ici".toList⟩, ⟨⟨4, 6⟩, "is".toList, "are".toList⟩,
    ⟨⟨6, 6⟩, [], " now".toList⟩, ⟨⟨7, 8⟩, "a".toList, "two".toList⟩,
    ⟨⟨9, 12⟩, "cat".toList, "cats".toList⟩]

theorem sameBut_reworded :
    SameBut 0 reworded "Là is a cat.".toList "Ici are now two cats.".toList := by
  have hsame : SameBut 0 _ _ _ :=
    .piece [] "Là".toList "Ici".toList <| .piece [' '] "is".toList "are".toList <|
      .piece [] [] " now".toList <| .piece [' '] "a".toList "two".toList <|
      .piece [' '] "cat".toList "cats".toList <| .same _ ['.']
  exact hsame

theorem applyAll_of_apart_rewording :
    Apart rewording "Là is a cat.".toList ∧
      applyAll rewording "Là is a cat.".toList = "Ici are now two cats.".toList ∧
      applyAll rewording.reverse "Là is a cat.".toList = "Ici are now two cats.".toList := by
  have hapart : Apart rewording "Là is a cat.".toList :=
    ⟨by decide +kernel, by decide +kernel, by decide +kernel⟩
  obtain ⟨hcut, horder, -⟩ := applyAll_of_apart hapart
  have happly := (hcut "Ici are now two cats.".toList).2
    ⟨reworded, by decide +kernel, sameBut_reworded⟩
  refine ⟨hapart, happly, ?_⟩
  rw [horder _ (List.reverse_perm _), happly]

end Edit

end Scenery
