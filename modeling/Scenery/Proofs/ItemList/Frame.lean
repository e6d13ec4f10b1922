/-
  Scenery/Proofs/ItemList/Frame.lean
  ==================================
  **What a change leaves alone.**  The template before and after a change is the same but
  for a few pieces (`SameBut`): the words of one entry, or the markup of the list and at
  most the copula next to it (`ListPieces`).  The places of the pieces are those of the
  edits; they lie in the template, cut no character and do not meet
  (`sameBut_of_changed`).
-/
import Scenery.Proofs.ItemList.Edited

namespace Scenery

namespace ListSite

/-- The pieces that change with the members of a list, in the order of the template: its
    markup, and perhaps a copula right before or right behind it. -/
inductive ListPieces (s : ListSite) (template content : Text) : List Piece → Prop where
  | alone {p : Piece} : s.Refilled template content p → ListPieces s template content [p]
  | before {p : Piece} {c : Prose.WordAt} (plural : Bool) :
    s.CopulaBefore c → s.Refilled template content p →
    ListPieces s template content [⟨c.span, c.word, Prose.agree c.word plural⟩, p]
  | behind {p : Piece} {c : Prose.WordAt} (plural : Bool) :
    s.Refilled template content p → s.CopulaBehind c →
    ListPieces s template content [p, ⟨c.span, c.word, Prose.agree c.word plural⟩]

end ListSite

namespace ListChange

open Branch

variable {list : Option Text} {template template' : Text} {s : ListSite} {item : Item}

/-- The words of an entry that mentions an item stand in the template, and are more than
    blanks. -/
theorem exists_source_of_findEntry? (h : Finds template list s) {e : ListSite.Entry}
    (he : s.findEntry? item = some e) :
    ∃ before behind, template = before ++ (e.text ++ behind) ∧
      e.place.inner = Span.behind before e.text := by
  obtain ⟨w, b, hfound, rfl, rfl⟩ := Found.exists_of_finds h
  obtain ⟨hmem, hne⟩ := ListSite.of_findEntry? he
  obtain ⟨v, eb, hcontent, heb, rfl, -⟩ := hfound.exists_of_mem_entries hmem
  cases eb with
  | var | text => cases heb
  | single opening attributes o => exact absurd rfl hne
  | block opening attributes o closing bs =>
    obtain rfl : o = .entry := by simpa [IsEntry, opened?] using heb
    obtain ⟨before, behind, hsource, hinner, -⟩ := exists_source_entry hfound hcontent
    exact ⟨before, behind, hsource, hinner⟩

/-- Another number changes the words of one entry. -/
theorem sameBut_of_withQuantity (h : Finds template list s) {e : ListSite.Entry}
    (he : s.findEntry? item = some e) {count : Nat}
    (hchange : withQuantity template e item count = .changed template') :
    ∃ words, template' = Edit.applyAll [⟨e.place.inner, words⟩] template ∧
      SameBut 0 [⟨e.place.inner, e.text, words⟩] template template' ∧
      Prose.Requantified e.text words count := by
  obtain ⟨before, behind, rfl, hinner⟩ := exists_source_of_findEntry? h he
  obtain ⟨-, hne⟩ := ListSite.of_findEntry? he
  rw [withQuantity, hinner, Span.slice_behind] at hchange
  cases hchange
  refine ⟨Prose.requantify e.text item count, ?_, ?_, ?_⟩
  · rw [hinner]
  · rw [hinner, Edit.applyAll_one]
    exact .one before e.text behind _
  · exact Prose.requantified_requantify hne item count

/-- New members change the markup of the list, and the copula next to it if the list
    crosses between one member and several. -/
theorem sameBut_of_withMembers (h : Finds template list s) {members : List Member} {before : Nat}
    (hchange : withMembers template s members before = .changed template') :
    ∃ pieces, template' = Edit.applyAll (memberEdits template s members before) template ∧
      (memberEdits template s members before).Perm (pieces.map Piece.edit) ∧
      SameBut 0 pieces template template' ∧
      s.ListPieces template (Member.joined members) pieces := by
  have hedits : template' = Edit.applyAll (memberEdits template s members before) template := by
    rw [withMembers, changed.injEq] at hchange
    exact hchange.symm
  refine exists_imp.2 (fun pieces hpieces => ⟨pieces, hedits, hpieces⟩) ?_
  obtain ⟨w, b, hfound, rfl, rfl⟩ := Found.exists_of_finds h
  rw [withMembers_fill hfound] at hchange
  cases hchange
  obtain ⟨a, x, y, c, hsource, hsource', hedit, hrefilled⟩ :=
    exists_contentEdit hfound.isList hfound.stands (weave [] (Member.enumerated members))
  rw [sourceAll_weave, Member.flatMap_markup_enumerated, List.nil_append] at hedit hrefilled
  have halone : SameBut 0 [⟨Span.behind (w.textBefore ++ a) x, x, y⟩] (sourceAll (w.fill b))
      (sourceAll (w.fill (b.withContent (weave [] (Member.enumerated members))))) := by
    have hone := SameBut.one (w.textBefore ++ a) x (c ++ w.textAfter) y
    rw [w.sourceAll_fill, w.sourceAll_fill, hsource, hsource']
    simpa using hone
  have hword := w.word_adjacentCopula?_site b
  rw [memberEdits, hedit, agreeing]
  by_cases hcrosses : members ≠ [] ∧ (decide (2 ≤ before) ≠ decide (2 ≤ members.length))
  · rw [if_pos hcrosses, if_pos hcrosses, copulaEdit?]
    rcases hc : adjacentCopula? (w.site b) with _ | copula
    · rw [hc, Option.map_none] at hword
      rw [← hword]
      exact ⟨_, .refl _, halone, .alone hrefilled⟩
    · rw [hc, Option.map_some] at hword
      rw [← hword]
      obtain ⟨-, ⟨hbefore, hsame⟩ | ⟨hbehind, hsame⟩⟩ := Setting.exists_pieces hc hsource
        (Prose.agree copula.word (isPlural members)) hsource'
      · exact ⟨_, .swap _ _ _, hsame, .before _ hbefore hrefilled⟩
      · exact ⟨_, .refl _, hsame, .behind _ hrefilled hbehind⟩
  · rw [if_neg hcrosses, if_neg hcrosses]
    exact ⟨_, .refl _, halone, .alone hrefilled⟩

/-- **A change leaves everything else as it is.**  Another number replaces the words of the
    first entry that mentions the item.  A member that enters or leaves replaces the
    markup of the list, and at most the copula next to it.  The places of the edits are
    pieces of the template that do not meet. -/
theorem sameBut_of_changed
    (hchange : add template item list = .ok (.changed template') ∨
      remove template item list = .ok (.changed template')) :
    ∃ s edits pieces, Finds template list s ∧ template' = Edit.applyAll edits template ∧
      edits.Perm (pieces.map Piece.edit) ∧ SameBut 0 pieces template template' ∧
      (∀ p ∈ pieces, ∃ a c, template = a ++ (p.old ++ c) ∧ p.span = Span.behind a p.old) ∧
      (pieces.Pairwise fun p q => p.span.stop ≤ q.span.start) ∧
      ((∃ count e words, item.quantity = .count count ∧ 1 ≤ count ∧
          s.findEntry? item = some e ∧ pieces = [⟨e.place.inner, e.text, words⟩] ∧
          Prose.Requantified e.text words count) ∨
        (∃ members before, (item.quantity = .count 0 ∨ s.findEntry? item = none) ∧
          edits = memberEdits template s members before ∧
          s.ListPieces template (Member.joined members) pieces)) := by
  obtain ⟨s, hs⟩ := exists_finds_of_changed hchange
  -- where the pieces stand follows from the texts being the same between them
  have hplaces {pieces : List Piece} (hsame : SameBut 0 pieces template template') :
      (∀ p ∈ pieces, ∃ a c, template = a ++ (p.old ++ c) ∧ p.span = Span.behind a p.old) ∧
        pieces.Pairwise fun p q => p.span.stop ≤ q.span.start := by
    refine ⟨?_, hsame.apart⟩
    intro p hp
    obtain ⟨a, c, htemplate, hspan⟩ := hsame.within p hp
    rw [Nat.zero_add] at hspan
    exact ⟨a, c, htemplate, hspan⟩
  rcases changed_cases hs hchange with ⟨count, e, hq, hcount, he, hresult⟩ |
    ⟨count, hq, hcount, hnone, hcond, hresult⟩ | ⟨e, index, hq, he, hcond, hindex, hresult⟩
  · obtain ⟨words, hedits, hsame, hwords⟩ := sameBut_of_withQuantity hs he hresult
    obtain ⟨hwithin, hapart⟩ := hplaces hsame
    exact ⟨s, _, _, hs, hedits, .refl _, hsame, hwithin, hapart,
      .inl ⟨count, e, words, hq, hcount, he, rfl, hwords⟩⟩
  · obtain ⟨pieces, hedits, hperm, hsame, hpieces⟩ := sameBut_of_withMembers hs hresult
    obtain ⟨hwithin, hapart⟩ := hplaces hsame
    exact ⟨s, _, pieces, hs, hedits, hperm, hsame, hwithin, hapart,
      .inr ⟨_, _, .inr hnone, rfl, hpieces⟩⟩
  · obtain ⟨pieces, hedits, hperm, hsame, hpieces⟩ := sameBut_of_withMembers hs hresult
    obtain ⟨hwithin, hapart⟩ := hplaces hsame
    exact ⟨s, _, pieces, hs, hedits, hperm, hsame, hwithin, hapart,
      .inr ⟨_, _, .inl hq, rfl, hpieces⟩⟩

/-- A dog joins a cat: the list has new markup, and `is` has become `are`. -/
theorem sameBut_of_changed_dog :
    add "<s>Là <il>a cat</il> is here.</s>".toList
        ⟨"DOG".toList, .count 1, "a DOG".toList, none⟩ none =
      .ok (.changed "<s>Là <il><item>a DOG</item> and a cat</il> are here.</s>".toList) ∧
    ∃ (edits : List Edit) (pieces : List Piece), edits.Perm (pieces.map Piece.edit) ∧
      SameBut 0 pieces "<s>Là <il>a cat</il> is here.</s>".toList
        "<s>Là <il><item>a DOG</item> and a cat</il> are here.</s>".toList := by
  obtain ⟨s, hs, hnone, hcond, hedits⟩ := exists_finds
    "<s>Là <il>a cat</il> is here.</s>".toList none
    (fun s => s.findEntry? ⟨"DOG".toList, .count 1, "a DOG".toList, none⟩ = none ∧
      s.isConditional = false ∧
      memberEdits "<s>Là <il>a cat</il> is here.</s>".toList s
        (inserted s "a DOG".toList (Member.ofNodes s.children))
        (Member.ofNodes s.children).length =
          [⟨⟨11, 16⟩, "<item>a DOG</item> and a cat".toList⟩, ⟨⟨22, 24⟩, "are".toList⟩])
    (by decide +kernel)
  have hadd : add "<s>Là <il>a cat</il> is here.</s>".toList
      ⟨"DOG".toList, .count 1, "a DOG".toList, none⟩ none =
        .ok (.changed "<s>Là <il><item>a DOG</item> and a cat</il> are here.</s>".toList) := by
    rw [add_of_finds hs rfl, hnone, hcond]
    simp only [withMembers, Bool.false_eq_true, if_false, Prose.quantityPhrase, if_true, hedits]
    rw [Edit.applyAll, Edit.mergeSort_pair]
    rfl
  obtain ⟨-, edits, pieces, -, -, hperm, hsame, -⟩ := sameBut_of_changed (.inl hadd)
  exact ⟨hadd, edits, pieces, hperm, hsame⟩

end ListChange

end Scenery
