/-
  Scenery/Proofs/ItemList/Sequence.lean
  =====================================
  **The members of a list as a sequence.**  An item that enters a list becomes its
  first member, and one that leaves is taken out of the sequence
  (`members_of_structural_change`).  That is what is read from the template after the
  change: the tags and connectors that were written come apart into the same members
  again, whatever mix of entries and loose phrases they are.
-/
import Scenery.Proofs.ItemList.Members

namespace Scenery.ListChange

/-- **Structural changes act on the members as on a sequence.**  Let the members of a list
    that stand without tags be phrases without `<`, and stay so when they lose a
    capital.  An item that no entry mentions becomes the first member; the one that a
    mentioned entry makes is taken out.  At the start of a sentence the capital moves to
    the member that comes first then, and to no other. -/
theorem members_of_structural_change {template : Text} {list : Option Text} {s : ListSite}
    {item : Item} (h : Finds template list s) (hcond : s.isConditional = false)
    (hphrases : ∀ m ∈ Member.ofNodes s.children, m.tagged = false →
      '<' ∉ m.text ∧ Prose.IsPhrase m.text ∧ Prose.IsPhrase (Prose.decapitalize m.text)) :
    (∀ count, item.quantity = .count count → 1 ≤ count → s.findEntry? item = none →
      '<' ∉ Prose.quantityPhrase item count →
      ∃ template' s', add template item list = .ok (.changed template') ∧
        Finds template' list s' ∧ SamePlace template template' s s' ∧
        (Member.ofNodes s'.children).map Member.bare =
          if s.opensSentence then
            ⟨Prose.capitalize (Prose.quantityPhrase item count), true, none⟩ ::
              mapFirst Prose.decapitalize ((Member.ofNodes s.children).map Member.bare)
          else
            ⟨Prose.quantityPhrase item count, true, none⟩ ::
              (Member.ofNodes s.children).map Member.bare) ∧
    (∀ e, item.quantity = .count 0 → s.findEntry? item = some e →
      ∃ before behind template' s',
        Member.ofNodes s.children = before ++ ⟨e.text, true, some e.place.span⟩ :: behind ∧
        remove template item list = .ok (.changed template') ∧
        Finds template' list s' ∧ SamePlace template template' s s' ∧
        (Member.ofNodes s'.children).map Member.bare =
          if s.opensSentence ∧ before = [] then
            mapFirst Prose.capitalize (behind.map Member.bare)
          else (before ++ behind).map Member.bare) := by
  have hw := writable_of_mem_ofNodes h hcond fun m hm htagged => (hphrases m hm htagged).1
  have hp : ∀ m ∈ Member.ofNodes s.children, m.Phrased := fun m hm htagged =>
    (hphrases m hm htagged).2.1
  constructor
  · intro count hq hcount hnone hlt
    have hinserted : ∀ m ∈ inserted s (Prose.quantityPhrase item count)
        (Member.ofNodes s.children), m.Phrased :=
      of_mem_inserted s hp (fun m hm htagged => (hphrases m hm htagged).2.2)
        (fun htagged => absurd htagged (by simp)) (fun htagged => absurd htagged (by simp))
    obtain ⟨template', s', hchange, hfinds, hplace, hmembers⟩ := exists_written h
      (writable_of_mem_inserted s hlt hw) hinserted (Member.ofNodes s.children).length
    refine ⟨template', s', ?_, hfinds, hplace, ?_⟩
    · have hzero : count ≠ 0 := by omega
      rw [add_of_finds h hq, if_neg hzero, hnone, hcond]
      exact congrArg Except.ok hchange
    · rw [hmembers, inserted]
      split
      · rw [List.map_cons, map_bare_mapFirst]
        rfl
      · rfl
  · intro e hq he
    obtain ⟨before, behind, hbelow, hindex⟩ := h.exists_findIdx? hcond he
    have hdeleted : ∀ m ∈ deleted s before.length (Member.ofNodes s.children), m.Phrased :=
      of_mem_deleted s before.length hp fun m hm => (hp m hm).capitalize
    obtain ⟨template', s', hchange, hfinds, hplace, hmembers⟩ := exists_written h
      (writable_of_mem_deleted s _ hw) hdeleted (Member.ofNodes s.children).length
    refine ⟨before, behind, template', s', hbelow, ?_, hfinds, hplace, ?_⟩
    · rw [remove_of_finds h hq he, if_neg (Nat.lt_irrefl 0), hcond]
      simp only [hindex]
      exact congrArg Except.ok hchange
    · rw [hmembers, hbelow, deleted_middle]
      split
      · rw [map_bare_mapFirst]
      · rfl

/-- A sentence that starts with a list. -/
def animals : Text :=
  "<s><il><item>A DOG</item>, two of each, and <item>a BIRD</item></il> are in.</s>".toList

def fish : Item := ⟨"FISH".toList, .count 1, "a FISH".toList, none⟩

def dog : Item := ⟨"DOG".toList, .count 0, "a DOG".toList, none⟩

/-- A fish joins the list, or the dog in front leaves it. -/
theorem members_of_structural_change_animals :
    ∃ s, Finds animals none s ∧ s.isConditional = false ∧
      (∀ m ∈ Member.ofNodes s.children, m.tagged = false →
        '<' ∉ m.text ∧ Prose.IsPhrase m.text ∧ Prose.IsPhrase (Prose.decapitalize m.text)) ∧
      s.findEntry? fish = none ∧ '<' ∉ Prose.quantityPhrase fish 1 ∧
      (∃ e, s.findEntry? dog = some e) ∧
      (∃ template' s', add animals fish none = .ok (.changed template') ∧
        Finds template' none s' ∧ SamePlace animals template' s s' ∧
        (Member.ofNodes s'.children).map Member.bare =
          [⟨"A FISH".toList, true, none⟩, ⟨"a DOG".toList, true, none⟩,
            ⟨"two of each".toList, false, none⟩, ⟨"a BIRD".toList, true, none⟩]) ∧
      (∃ template' s', remove animals dog none = .ok (.changed template') ∧
        Finds template' none s' ∧ SamePlace animals template' s s' ∧
        (Member.ofNodes s'.children).map Member.bare =
          [⟨"Two of each".toList, false, none⟩, ⟨"a BIRD".toList, true, none⟩]) := by
  obtain ⟨s, hs, hcond, hphrases, hfish, hdog, hopens, hold⟩ := exists_finds animals none
    (fun s => s.isConditional = false ∧
      (∀ m ∈ Member.ofNodes s.children, m.tagged = false →
        '<' ∉ m.text ∧ Prose.IsPhrase m.text ∧ Prose.IsPhrase (Prose.decapitalize m.text)) ∧
      s.findEntry? fish = none ∧ (∃ e ∈ s.findEntry? dog, e.text = "A DOG".toList) ∧
      s.opensSentence = true ∧
      (Member.ofNodes s.children).map Member.bare =
        [⟨"A DOG".toList, true, none⟩, ⟨"two of each".toList, false, none⟩,
          ⟨"a BIRD".toList, true, none⟩]) (by decide +kernel)
  obtain ⟨e, he, htext⟩ := hdog
  refine ⟨s, hs, hcond, hphrases, hfish, by decide +kernel, ⟨e, he⟩, ?_, ?_⟩
  · obtain ⟨template', s', hadd, hfinds, hplace, hmembers⟩ :=
      (members_of_structural_change hs hcond hphrases).1 1 rfl (Nat.le_refl 1) hfish
        (by decide +kernel)
    refine ⟨template', s', hadd, hfinds, hplace, ?_⟩
    rw [hmembers, if_pos hopens, hold]
    decide +kernel
  · obtain ⟨before, behind, template', s', hbelow, hremove, hfinds, hplace, hmembers⟩ :=
      (members_of_structural_change hs hcond hphrases).2 e rfl he
    refine ⟨template', s', hremove, hfinds, hplace, ?_⟩
    rw [hbelow, htext] at hold
    have hbefore : before = [] := by
      rcases before with _ | ⟨x, _ | ⟨y, _ | ⟨z, before⟩⟩⟩
      · rfl
      · simp [Member.bare] at hold
      · simp [Member.bare] at hold
      · simp at hold
    subst hbefore
    rw [hmembers, if_pos ⟨hopens, rfl⟩, (List.cons.inj hold).2]
    decide +kernel

end Scenery.ListChange
