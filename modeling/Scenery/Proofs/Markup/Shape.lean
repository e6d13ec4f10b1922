/-
  Scenery/Proofs/Markup/Shape.lean
  ================================
  **The shape of parsed trees.**  What may stand inside what is checked when a tag
  opens, against everything that is open around it.  The tree keeps to it
  (`fitsIn_of_parse`): whatever it holds, at any depth, fits in the elements around
  it.  The single thing that happens to a tree when an element closes, a wrapper that
  takes the content of a wrapper inside it, takes away one of two wrappers around that
  content, and those allow everything.

  From that follows the shape which readers of a tree rely on (`Node.wellshaped`), for
  sentences, for lists and for the entries of lists.
-/
import Scenery.Proofs.Markup.Branch

namespace Scenery

namespace Node

/-- A tree holds a node inside some elements, innermost first. -/
inductive Holds (root : Node) : List Element → Node → Prop
  | root : Holds root [] root
  | child {around : List Element} {kind : Element} {place : Place} {children : List Node}
      {n : Node} : Holds root around (.element kind place children) → n ∈ children →
      Holds root (kind :: around) n

/-- The tag that writes a node; text has none. -/
def tag? : Node → Option Tag
  | .element kind _ _ => some kind.tag
  | .entry _ _ => some .item
  | .var _ _ => some .var
  | .text _ _ => none

/-- A node that has a place in a list. -/
def isListContent : Node → Bool
  | .entry _ _ => true
  | .text _ _ => true
  | n => n.isConditional

/-- The shape that readers of a tree rely on. -/
structure Wellshaped (root : Node) : Prop where
  /-- The root is a wrapper. -/
  root_wrapper : ∃ place children, root = .element .wrapper place children
  /-- No sentence or wrapper stands in a sentence, at any depth. -/
  in_sentence : ∀ place children, .element .sentence place children ∈ root.descendants →
    ∀ n ∈ descendantsOfAll children, n.tag? ≠ some .sentence ∧ n.tag? ≠ some .desc
  /-- Only entries, texts and conditionals stand in a list, at any depth. -/
  in_list : ∀ name place children, .element (.list name) place children ∈ root.descendants →
    ∀ n ∈ descendantsOfAll children, n.isListContent = true
  /-- An entry stands in a list, with nothing but conditionals between them. -/
  around_entry : ∀ around t p, root.Holds around (.entry t p) →
    ∃ inner name outer, around = inner ++ .list name :: outer ∧
      ∀ kind ∈ inner, ∃ c, kind = .conditional c
  /-- A list with something conditional in it has a conditional among its children. -/
  conditional_list : ∀ name place children,
    .element (.list name) place children ∈ root.descendants →
    (children.any isConditional = true ↔
      ∃ n ∈ descendantsOfAll children, n.isConditional = true)

/-! ### Nodes in a tree -/

theorem Holds.trans {root n m : Node} {around inner : List Element} (h : root.Holds around n)
    (hm : n.Holds inner m) : root.Holds (inner ++ around) m := by
  induction hm with
  | root => exact h
  | child _ hmem ih => exact .child ih hmem

/-- A tree holds its root, and what its children hold inside the root. -/
theorem holds_iff {n m : Node} {around : List Element} :
    n.Holds around m ↔ (around = [] ∧ m = n) ∨
      ∃ kind place children, n = .element kind place children ∧
        ∃ c ∈ children, ∃ inner, around = inner ++ [kind] ∧ c.Holds inner m := by
  constructor
  · intro h
    induction h with
    | root => exact .inl ⟨rfl, rfl⟩
    | @child around kind place children m _ hmem ih =>
      right
      rcases ih with ⟨rfl, rfl⟩ | ⟨kind', place', children', hn, c, hc, inner, rfl, hinner⟩
      · exact ⟨kind, place, children, rfl, m, hmem, [], rfl, .root⟩
      · exact ⟨kind', place', children', hn, c, hc, kind :: inner, rfl, .child hinner hmem⟩
  · rintro (⟨rfl, rfl⟩ | ⟨kind, place, children, rfl, c, hc, inner, rfl, hinner⟩)
    · exact .root
    · exact Holds.trans (.child .root hc) hinner

theorem eq_of_holds {n m : Node} {around : List Element} (hn : n.children = [])
    (h : n.Holds around m) : around = [] ∧ m = n := by
  rcases holds_iff.1 h with hself | ⟨kind, place, children, rfl, c, hc, -⟩
  · exact hself
  · have hnil : children = [] := hn
    rw [hnil] at hc
    cases hc

/-- Each element around a node is held inside the ones around it. -/
theorem Holds.exists_element {root n : Node} {xs ys : List Element} {kind : Element}
    (h : root.Holds (xs ++ kind :: ys) n) :
    ∃ place children, root.Holds ys (.element kind place children) := by
  induction xs generalizing n with
  | nil =>
    cases h with
    | child h _ => exact ⟨_, _, h⟩
  | cons x xs ih =>
    cases h with
    | child h _ => exact ih h

mutual
theorem mem_descendants_iff (n m : Node) : m ∈ n.descendants ↔ ∃ around, n.Holds around m := by
  have hleaf (hn : n.children = []) : m = n ↔ ∃ around, n.Holds around m := by
    constructor
    · rintro rfl
      exact ⟨[], .root⟩
    · rintro ⟨around, h⟩
      exact (eq_of_holds hn h).2
  cases n with
  | entry | var | text =>
    rw [descendants, List.mem_singleton]
    exact hleaf rfl
  | element kind place children =>
    rw [descendants, List.mem_cons, mem_descendantsOfAll_iff children m]
    constructor
    · rintro (rfl | ⟨c, hc, inner, hinner⟩)
      · exact ⟨[], .root⟩
      · exact ⟨inner ++ [kind], Holds.trans (.child .root hc) hinner⟩
    · rintro ⟨around, h⟩
      rcases holds_iff.1 h with ⟨-, rfl⟩ | ⟨_, _, _, heq, c, hc, inner, -, hinner⟩
      · exact .inl rfl
      · cases heq
        exact .inr ⟨c, hc, inner, hinner⟩

theorem mem_descendantsOfAll_iff (ns : List Node) (m : Node) :
    m ∈ descendantsOfAll ns ↔ ∃ c ∈ ns, ∃ around, c.Holds around m := by
  cases ns with
  | nil => simp [descendantsOfAll]
  | cons n ns =>
    rw [descendantsOfAll, List.mem_append, mem_descendants_iff n m, mem_descendantsOfAll_iff ns m]
    simp only [List.mem_cons, exists_eq_or_imp]
end

/-- What stands below an element of a tree is held inside it. -/
theorem exists_holds_below {root n : Node} {kind : Element} {place : Place} {children : List Node}
    (h : .element kind place children ∈ root.descendants) (hn : n ∈ descendantsOfAll children) :
    ∃ around, root.Holds around n ∧ kind ∈ around := by
  obtain ⟨around, helement⟩ := (mem_descendants_iff root _).1 h
  obtain ⟨c, hc, inner, hinner⟩ := (mem_descendantsOfAll_iff children n).1 hn
  refine ⟨inner ++ kind :: around, ?_, ?_⟩
  · exact Holds.trans (.child helement hc) hinner
  · exact List.mem_append_right _ List.mem_cons_self

/-! ### What a node holds fits in what is around it -/

/-- Whatever a node holds, itself among it, fits in the elements around it there. -/
def FitsIn (n : Node) (around : List Tag) : Prop :=
  ∀ inner m, n.Holds inner m → ∀ tag ∈ m.tag?, tag.FitsIn (inner.map Element.tag ++ around)

theorem fitsIn_leaf {n : Node} {around : List Tag} (hchildren : n.children = [])
    (h : ∀ tag ∈ n.tag?, tag.FitsIn around) : n.FitsIn around := by
  intro inner m hm
  obtain ⟨rfl, rfl⟩ := eq_of_holds hchildren hm
  exact h

theorem fitsIn_element {kind : Element} {around : List Tag} {children : List Node}
    (hkind : kind.tag.FitsIn around) (h : ∀ c ∈ children, c.FitsIn (kind.tag :: around))
    (place : Place) : FitsIn (.element kind place children) around := by
  intro inner m hm
  rcases holds_iff.1 hm with ⟨rfl, rfl⟩ | ⟨_, _, _, heq, c, hc, inner', rfl, hinner⟩
  · intro tag htag
    cases htag
    exact hkind
  · cases heq
    have hfits := h c hc inner' m hinner
    simpa using hfits

/-- Of two wrappers around something one is enough. -/
theorem fitsIn_unwrapped {around : List Tag} {ns : List Node}
    (h : ∀ c ∈ ns, c.FitsIn (.desc :: around)) :
    ∀ c ∈ unwrapped ns, c.FitsIn (.desc :: around) := by
  unfold unwrapped
  split
  · next place children hs =>
    intro c hc inner m hm tag htag
    have hholds : Holds (.element .wrapper place children) (inner ++ [.wrapper]) m :=
      Holds.trans (.child .root hc) hm
    have hfits := h _ (mem_of_significant hs) _ m hholds tag htag
    rw [List.map_append, List.append_assoc] at hfits
    exact Branch.fitsIn_append_desc.1 hfits
  · exact h

theorem fitsIn_ofOpened {o : Opened} {around : List Tag} {ns : List Node}
    (ho : o.tag.FitsIn around) (h : ∀ c ∈ ns, c.FitsIn (o.tag :: around)) (place : Place) :
    (ofOpened o place ns).FitsIn around := by
  cases o with
  | entry =>
    apply fitsIn_leaf rfl
    intro tag htag
    cases htag
    exact ho
  | element kind =>
    rw [Opened.tag] at ho h
    cases kind with
    | wrapper => exact fitsIn_element ho (fitsIn_unwrapped h) place
    | sentence | conditional | list => exact fitsIn_element ho h place

end Node

namespace Branch

open Node

mutual
theorem fitsIn_node {around : List Tag} (b : Branch) (h : b.Nested around) (offset : Nat) :
    (b.node offset).FitsIn around := by
  cases b with
  | text raw =>
    rw [node]
    apply fitsIn_leaf rfl
    intro tag htag
    cases htag
  | var s attributes sc path =>
    rw [Nested] at h
    rw [node]
    apply fitsIn_leaf rfl
    intro tag htag
    cases htag
    exact h.1
  | single s attributes o =>
    rw [Nested] at h
    rw [node]
    apply fitsIn_ofOpened h.1
    intro c hc
    cases hc
  | block s attributes o c content =>
    rw [Nested] at h
    rw [node]
    exact fitsIn_ofOpened h.1 (fitsIn_nodes content h.2.2 _) _

theorem fitsIn_nodes {around : List Tag} (bs : List Branch) (h : NestedAll around bs)
    (offset : Nat) : ∀ n ∈ nodes offset bs, n.FitsIn around := by
  cases bs with
  | nil =>
    intro n hn
    cases hn
  | cons b bs =>
    obtain ⟨hb, hbs⟩ := nestedAll_cons.1 h
    rw [nodes_cons]
    intro n hn
    rcases List.mem_cons.1 hn with rfl | hn
    · exact fitsIn_node b hb offset
    · exact fitsIn_nodes bs hbs _ n hn
end

end Branch

namespace Node

variable {template : Text} {root : Node}

/-- **What a parsed tree holds fits in the elements around it.** -/
theorem fitsIn_of_parse (hparse : parse template = .ok root) : root.FitsIn [] := by
  obtain ⟨bs, ⟨-, hnested⟩, -, rfl⟩ := Branch.exists_of_parse hparse
  have hwrapper : Element.wrapper.tag.FitsIn [] := by
    constructor
    · intro parent hparent
      cases hparent
    · intro hitem
      cases hitem
  have hns := Branch.fitsIn_nodes bs (Branch.nestedAll_desc.2 hnested) 0
  obtain ⟨place, hroot⟩ := exists_root (Text.bytes template) (Branch.nodes 0 bs)
  rw [hroot]
  exact fitsIn_element hwrapper (fitsIn_unwrapped hns) place

/-- An element of a tree allows what stands below it, at any depth. -/
theorem forbids_of_parse (hparse : parse template = .ok root) {kind : Element} {place : Place}
    {children : List Node} (h : .element kind place children ∈ root.descendants) :
    ∀ n ∈ descendantsOfAll children, ∀ tag ∈ n.tag?, kind.tag.forbids tag = false := by
  intro n hn tag htag
  obtain ⟨around, hholds, hmem⟩ := exists_holds_below h hn
  have hfits := fitsIn_of_parse hparse around n hholds tag htag
  apply hfits.1
  rw [List.append_nil]
  exact List.mem_map_of_mem hmem

theorem isListContent_of_forbids {n : Node} (h : ∀ tag ∈ n.tag?, Tag.list.forbids tag = false) :
    n.isListContent = true := by
  cases n with
  | entry | text => rfl
  | var path s => cases h .var rfl
  | element kind place children =>
    cases kind with
    | conditional c => rfl
    | wrapper | sentence | list => cases h _ rfl

theorem isListContent_of_parse (hparse : parse template = .ok root) {name : Option Text}
    {place : Place} {children : List Node}
    (h : .element (.list name) place children ∈ root.descendants) :
    ∀ n ∈ descendantsOfAll children, n.isListContent = true := by
  intro n hn
  apply isListContent_of_forbids
  exact forbids_of_parse hparse h n hn

theorem exists_list_around_entry (hparse : parse template = .ok root) {around : List Element}
    {t : Text} {p : Place} (h : root.Holds around (.entry t p)) :
    ∃ inner name outer, around = inner ++ .list name :: outer ∧
      ∀ kind ∈ inner, ∃ c, kind = .conditional c := by
  have hfits := fitsIn_of_parse hparse around _ h .item rfl
  rw [List.append_nil] at hfits
  obtain ⟨kind, hkind, htag⟩ := List.mem_map.1 (hfits.2 rfl)
  obtain ⟨inner, outer, rfl⟩ := List.append_of_mem hkind
  cases kind with
  | wrapper | sentence | conditional => cases htag
  | list name =>
    refine ⟨inner, name, outer, rfl, ?_⟩
    intro kind hinner
    -- the element stands in the list, and an element that is no conditional cannot
    obtain ⟨xs, ys, rfl⟩ := List.append_of_mem hinner
    rw [List.append_assoc, List.cons_append] at h
    obtain ⟨place, children, helement⟩ := h.exists_element
    have hkind := fitsIn_of_parse hparse _ _ helement kind.tag rfl
    have hforbids := hkind.1 .list (by simp [Element.tag])
    cases kind with
    | conditional c => exact ⟨c, rfl⟩
    | wrapper | sentence | list => cases hforbids

/-- Below nodes that have a place in a list there is something conditional only if one of
    them is. -/
theorem any_isConditional_iff {children : List Node}
    (h : ∀ n ∈ descendantsOfAll children, n.isListContent = true) :
    children.any isConditional = true ↔
      ∃ n ∈ descendantsOfAll children, n.isConditional = true := by
  rw [List.any_eq_true]
  constructor
  · rintro ⟨n, hn, hcond⟩
    exact ⟨n, mem_descendantsOfAll_self hn, hcond⟩
  · rintro ⟨n, hn, hcond⟩
    obtain ⟨c, hc, around, hholds⟩ := (mem_descendantsOfAll_iff children n).1 hn
    refine ⟨c, hc, ?_⟩
    have hcontent := h c (mem_descendantsOfAll_self hc)
    cases c with
    | element | var => exact hcontent
    | entry | text =>
      obtain ⟨-, rfl⟩ := eq_of_holds rfl hholds
      exact hcond

theorem wellshaped (hparse : parse template = .ok root) : root.Wellshaped where
  root_wrapper := exists_of_parse_eq_ok hparse
  in_sentence := by
    intro place children h n hn
    have hforbids := forbids_of_parse hparse h n hn
    constructor
    · intro htag
      cases hforbids .sentence htag
    · intro htag
      cases hforbids .desc htag
  in_list := by
    intro name place children h
    exact isListContent_of_parse hparse h
  around_entry := by
    intro around t p h
    exact exists_list_around_entry hparse h
  conditional_list := by
    intro name place children h
    exact any_isConditional_iff (isListContent_of_parse hparse h)

end Node

end Scenery
