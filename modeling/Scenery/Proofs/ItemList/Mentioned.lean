/-
  Scenery/Proofs/ItemList/Mentioned.lean
  ======================================
  **The entry that mentions an item.**  Of the entries of a list the first that mentions
  the item is found.  In the content of the list that is the entry at a place with none
  before it that mentions the item (`findEntry?_of_content`), and every entry that is
  found stands at such a place (`exists_of_findEntry?`).
-/
import Scenery.Proofs.ItemList.Edited

namespace Scenery

namespace Setting

open Branch

/-- No entry before a place in a list mentions an item. -/
def Unmentioned (item : Item) (v : Setting) : Prop :=
  ∀ m ∈ v.membersBefore, m.tagged = true → Prose.mentionsItem item m.text = false

end Setting

namespace Branch

/-- The nodes below a list stand before and behind the node of each of its entries. -/
theorem exists_descendants_fill {around : List Tag} (hlist : .list ∈ around) {v : Setting}
    {eb : Branch} (heb : eb.IsEntry) (h : NestedAll around (v.fill eb)) (offset : Nat) :
    ∃ D₁ D₂, Node.descendantsOfAll (nodes offset (v.fill eb)) =
        D₁ ++ eb.node (offset + v.offset) :: D₂ ∧
      (D₁.flatMap Member.ofNode).map Member.bare = v.membersBefore := by
  obtain ⟨layers, left, right⟩ := v
  induction layers generalizing around offset with
  | nil =>
    obtain ⟨hleft, hright⟩ := nestedAll_append.1 h
    have hentry := (nestedAll_cons.1 hright).1
    refine ⟨Node.descendantsOfAll (nodes offset left), Node.descendantsOfAll (nodes (offset +
      Text.bytes (sourceAll left) + Text.bytes eb.source) right), ?_, ?_⟩
    · have hoffset : Setting.offset ⟨[], left, right⟩ = Text.bytes (sourceAll left) := by
        simp [Setting.offset, Setting.textBefore, Setting.lexemesBefore, Layer.lexemesBefore,
          sourceAll]
      show Node.descendantsOfAll (nodes offset (left ++ eb :: right)) = _
      rw [nodes_append, nodes_cons, descendantsOfAll_append, Node.descendantsOfAll, hoffset,
        node_entry heb hentry, Node.descendants]
      rfl
    · exact members_nodes hlist left hleft offset
  | cons l ls ih =>
    obtain ⟨hbefore, hrest⟩ := nestedAll_append.1 h
    obtain ⟨hblock, hafter⟩ := nestedAll_cons.1 hrest
    obtain ⟨c, ho⟩ := opened_of_nested_entry (v := ⟨ls, left, right⟩) hlist heb hblock
    have hinner : NestedAll (l.opened.tag :: around) (Setting.fill ⟨ls, left, right⟩ eb) := by
      rw [Layer.block, Nested] at hblock
      exact hblock.2.2
    obtain ⟨D₁, D₂, hD, hmembers⟩ := ih (List.mem_cons_of_mem _ hlist)
      (offset + Text.bytes (sourceAll l.before) + Text.bytes l.source) hinner
    have hoffset : Setting.offset ⟨l :: ls, left, right⟩ =
        Text.bytes (sourceAll l.before) + (Text.bytes l.source +
          Setting.offset ⟨ls, left, right⟩) := Setting.offset_inside l ⟨ls, left, right⟩
    obtain ⟨place, hnode⟩ : ∃ place, (l.block (Setting.fill ⟨ls, left, right⟩ eb)).node
        (offset + Text.bytes (sourceAll l.before)) = .element (.conditional c) place
          (nodes (offset + Text.bytes (sourceAll l.before) + Text.bytes l.source)
            (Setting.fill ⟨ls, left, right⟩ eb)) := by
      rw [Layer.block, node, ho]
      exact ⟨_, rfl⟩
    refine ⟨Node.descendantsOfAll (nodes offset l.before) ++ .element (.conditional c) place
      (nodes (offset + Text.bytes (sourceAll l.before) + Text.bytes l.source)
        (Setting.fill ⟨ls, left, right⟩ eb)) :: D₁, D₂ ++ Node.descendantsOfAll (nodes (offset +
      Text.bytes (sourceAll l.before) + Text.bytes (l.block (Layer.fillAll ls
        (left ++ eb :: right))).source) l.after), ?_, ?_⟩
    · show Node.descendantsOfAll (nodes offset (l.before ++ l.block
        (Setting.fill ⟨ls, left, right⟩ eb) :: l.after)) = _
      rw [nodes_append, nodes_cons, descendantsOfAll_append, Node.descendantsOfAll, hnode,
        Node.descendants, hD, hoffset]
      simp [Nat.add_assoc, Setting.fill]
    · rw [List.flatMap_append, List.map_append, List.flatMap_cons]
      show _ ++ List.map Member.bare ([] ++ D₁.flatMap Member.ofNode) = _
      rw [List.nil_append, hmembers, ← Member.below, members_nodes hlist l.before hbefore]
      simp [Setting.membersBefore]

/-! ### Entries before a place -/

/-- The entries among nodes are their tagged members. -/
theorem mem_filterMap_entryOf? {D : List Node} {e : ListSite.Entry}
    (he : e ∈ D.filterMap ListSite.entryOf?) :
    ⟨e.text, true, some e.place.span⟩ ∈ D.flatMap Member.ofNode := by
  obtain ⟨n, hn, hentry⟩ := List.mem_filterMap.1 he
  cases n with
  | entry t p =>
    cases hentry
    exact List.mem_flatMap.2 ⟨.entry t p, hn, List.mem_cons_self⟩
  | element | var | text => cases hentry

theorem exists_mem_filterMap_entryOf? {D : List Node} {m : Member}
    (hm : m ∈ D.flatMap Member.ofNode) (htagged : m.tagged = true) :
    ∃ e ∈ D.filterMap ListSite.entryOf?, e.text = m.text := by
  obtain ⟨n, hn, hmember⟩ := List.mem_flatMap.1 hm
  cases n with
  | entry t p =>
    rw [Member.ofNode, List.mem_singleton] at hmember
    subst hmember
    exact ⟨⟨t, p⟩, List.mem_filterMap.2 ⟨.entry t p, hn, rfl⟩, rfl⟩
  | text raw span =>
    obtain ⟨p, -, rfl⟩ := List.mem_map.1 hmember
    cases htagged
  | element | var => cases hmember

end Branch

/-- An entry that mentions an item is found, or another one before it. -/
theorem ListSite.exists_findEntry? {s : ListSite} {m : Member} {item : Item}
    (hm : m ∈ Member.below s.children) (htagged : m.tagged = true)
    (hmentions : Prose.mentionsItem item m.text = true) : ∃ e, s.findEntry? item = some e := by
  obtain ⟨e, hentry, htext⟩ := Branch.exists_mem_filterMap_entryOf? hm htagged
  rw [← Option.isSome_iff_exists, findEntry?, List.find?_isSome]
  exact ⟨e, hentry, by rw [htext, hmentions]⟩

namespace Found

open Branch

variable {list : Option Text} {w : Setting} {b eb : Branch} {v : Setting} {item : Item}

/-- The place of an entry of a list. -/
theorem entries_of_content (h : Found list w b) (hcontent : b.content = v.fill eb)
    (heb : eb.IsEntry) :
    ∃ E₁ E₂, (w.site b).entries =
        E₁ ++ eb.entryAt (w.offset + Text.bytes b.openingSource + v.offset) :: E₂ ∧
      (∀ e ∈ E₁, ⟨e.text, true, none⟩ ∈ v.membersBefore) ∧
      (∀ m ∈ v.membersBefore, m.tagged = true → ∃ e ∈ E₁, e.text = m.text) ∧
      eb.entryAt (w.offset + Text.bytes b.openingSource + v.offset) ∉ E₁ := by
  obtain ⟨hnested, hspelled⟩ := content_of_stands h.isList h.stands
  rw [hcontent] at hnested hspelled
  obtain ⟨hsound, hstands⟩ := (Setting.sound_and_stands heb).1 ⟨hspelled, hnested⟩
  obtain ⟨D₁, D₂, hD, hmembers⟩ := exists_descendants_fill List.mem_cons_self heb hnested
    (w.offset + Text.bytes b.openingSource)
  rw [node_entry heb hstands.nested] at hD
  refine ⟨D₁.filterMap ListSite.entryOf?, D₂.filterMap ListSite.entryOf?, ?_, ?_, ?_, ?_⟩
  · rw [ListSite.entries, h.children, hcontent, hD, List.filterMap_append, List.filterMap_cons]
    rfl
  · intro e he
    rw [← hmembers]
    exact List.mem_map_of_mem (f := Member.bare) (mem_filterMap_entryOf? he)
  · intro m hm htagged
    rw [← hmembers] at hm
    obtain ⟨m, hmem, rfl⟩ := List.mem_map.1 hm
    exact exists_mem_filterMap_entryOf? (m := m) hmem htagged
  · -- the members before the place come from other entries
    intro he
    obtain ⟨A, B, hbelow, hA, -, hsource⟩ := h.exists_below_of_content hcontent heb
    rw [h.children, hcontent, Member.below, hD, List.flatMap_append] at hbelow
    have hlength := congrArg List.length (hmembers.trans hA.symm)
    rw [List.length_map, List.length_map] at hlength
    obtain ⟨rfl, -⟩ := List.append_inj hbelow hlength
    exact hsource _ (mem_filterMap_entryOf? he) rfl

/-- **The first entry that mentions an item is the one that is found.** -/
theorem findEntry?_of_content (h : Found list w b) (hcontent : b.content = v.fill eb)
    (heb : eb.IsEntry) (hbefore : v.Unmentioned item)
    (hmentions : Prose.mentionsItem item (sourceAll eb.content) = true) :
    ListSite.findEntry? (w.site b) item =
      some (eb.entryAt (w.offset + Text.bytes b.openingSource + v.offset)) := by
  obtain ⟨E₁, E₂, hentries, hmembers, -, -⟩ := h.entries_of_content hcontent heb
  have hnone : E₁.find? (fun e => Prose.mentionsItem item e.text) = none := by
    rw [List.find?_eq_none]
    intro e he
    rw [hbefore _ (hmembers e he) rfl]
    exact Bool.false_ne_true
  rw [ListSite.findEntry?, hentries, List.find?_append, hnone, Option.none_or]
  exact List.find?_cons_of_pos hmentions

/-- **An entry that is found is the first that mentions the item.** -/
theorem exists_of_findEntry? (h : Found list w b) {e : ListSite.Entry}
    (he : ListSite.findEntry? (w.site b) item = some e) :
    ∃ v opening attributes closing bs,
      b.content = Setting.fill v (.block opening attributes .entry closing bs) ∧
      e = entryAt (w.offset + Text.bytes b.openingSource + v.offset)
        (.block opening attributes .entry closing bs) ∧
      v.Unmentioned item ∧ Prose.mentionsItem item (sourceAll bs) = true := by
  obtain ⟨hmem, hne⟩ := ListSite.of_findEntry? he
  obtain ⟨v, eb, hcontent, heb, rfl, -⟩ := h.exists_of_mem_entries hmem
  obtain ⟨E₁, E₂, hentries, -, hmembers, hnot⟩ := h.entries_of_content hcontent heb
  have hmentions := (List.find?_eq_some_iff_append.1 he).1
  have hbefore : v.Unmentioned item := by
    intro m hm htagged
    rw [← Bool.not_eq_true]
    intro hmention
    -- an entry before the place would have been found
    obtain ⟨e', he', htext⟩ := hmembers m hm htagged
    obtain ⟨e'', he''⟩ : ∃ e'', E₁.find? (fun e => Prose.mentionsItem item e.text) = some e'' := by
      rw [← Option.isSome_iff_exists, List.find?_isSome]
      exact ⟨e', he', by rw [htext, hmention]⟩
    rw [ListSite.findEntry?, hentries, List.find?_append, he'', Option.some_or] at he
    cases he
    exact hnot (List.mem_of_find?_eq_some he'')
  cases eb with
  | var | text => cases heb
  | single s attributes o => exact absurd rfl hne
  | block s attributes o c bs =>
    obtain rfl : o = .entry := by simpa [IsEntry, opened?] using heb
    exact ⟨v, s, attributes, c, bs, hcontent, rfl, hbefore, hmentions⟩

/-- Whether an item is mentioned depends on the list alone. -/
theorem findEntry?_eq_none {list' : Option Text} {w' : Setting} (h : Found list w b)
    (h' : Found list' w' b) (hnone : ListSite.findEntry? (w.site b) item = none) :
    ListSite.findEntry? (w'.site b) item = none := by
  rcases he : ListSite.findEntry? (w'.site b) item with _ | e
  · rfl
  · obtain ⟨v, opening, attributes, closing, bs, hcontent, -, hbefore, hmentions⟩ :=
      h'.exists_of_findEntry? he
    rw [h.findEntry?_of_content hcontent rfl hbefore hmentions] at hnone
    cases hnone

end Found

end Scenery
