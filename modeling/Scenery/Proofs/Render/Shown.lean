/-
  Scenery/Proofs/Render/Shown.lean
  ================================
  **Where the nodes that are shown stand.**  A node that is shown fills a setting in
  which everything around it lets it through (`exists_of_mem_shownAll`), and what fills
  such a setting is shown (`mem_shownAll_fill`).

  Of two lists at one byte the settings are the same (`eq_of_offset_eq`), so a list in a
  tree tells where in the written template it stands.
-/
import Scenery.Proofs.ItemList.Fork
import Scenery.Proofs.Render.Reading

namespace Scenery

/-- What is between tags is shown, unless the tags are those of a conditional that fails a
    test. -/
def Opened.lets (test : Condition → Bool) : Opened → Bool
  | .element kind => kind.lets test
  | .entry => true

namespace Node

variable {test : Condition → Bool} {n : Node} {ns : List Node}

mutual
theorem shown_true (n : Node) : n.shown (fun _ => true) = n.descendants := by
  cases n with
  | entry | var | text => rfl
  | element kind place children =>
    have hlets : kind.lets (fun _ => true) = true := by
      cases kind <;> rfl
    rw [shown, descendants, if_pos hlets, shownAll_true children]

theorem shownAll_true (ns : List Node) : shownAll (fun _ => true) ns = descendantsOfAll ns := by
  cases ns with
  | nil => rfl
  | cons n ns => rw [shownAll, descendantsOfAll, shown_true n, shownAll_true ns]
end

theorem mem_shownAll : n ∈ shownAll test ns ↔ ∃ m ∈ ns, n ∈ m.shown test := by
  induction ns with
  | nil => simp [shownAll]
  | cons m ns ih => simp [shownAll, ih]

/-- The paths of a tree are those of what it asks for, whatever is shown. -/
theorem paths_eq_map_queries (n : Node) : n.paths = (n.queries fun _ => true).map Query.path := by
  rw [queries, shown_true, paths, List.map_filterMap]
  congr
  funext m
  cases m with
  | entry | var | text => rfl
  | element kind place children => cases kind <;> rfl

mutual
/-- What is shown below a node that is shown is shown. -/
theorem mem_shown_trans (n : Node) {m x : Node} (hm : m ∈ n.shown test) (hx : x ∈ m.shown test) :
    x ∈ n.shown test := by
  cases n with
  | entry | var | text =>
    rw [List.mem_singleton.1 hm] at hx
    exact hx
  | element kind place children =>
    rw [shown] at hm
    rcases List.mem_cons.1 hm with rfl | hm
    · exact hx
    · rw [shown]
      split at hm
      · next hlets =>
        rw [if_pos hlets]
        exact List.mem_cons_of_mem _ (mem_shownAll_trans children hm hx)
      · cases hm

theorem mem_shownAll_trans (ns : List Node) {m x : Node} (hm : m ∈ shownAll test ns)
    (hx : x ∈ m.shown test) : x ∈ shownAll test ns := by
  cases ns with
  | nil => cases hm
  | cons n ns =>
    rw [shownAll, List.mem_append] at hm ⊢
    rcases hm with hm | hm
    · exact .inl (mem_shown_trans n hm hx)
    · exact .inr (mem_shownAll_trans ns hm hx)
end

theorem mem_shownAll_of_unwrapped (h : n ∈ shownAll test (unwrapped ns)) :
    n ∈ shownAll test ns := by
  unfold unwrapped at h
  split at h
  · next place children hs =>
    apply mem_shownAll.2
    refine ⟨_, mem_of_significant hs, ?_⟩
    rw [shown]
    exact List.mem_cons_of_mem _ h
  · exact h

theorem mem_shown_ofOpened {o : Opened} {place : Place}
    (h : n ∈ (ofOpened o place ns).shown test) :
    n = ofOpened o place ns ∨ o.lets test = true ∧ n ∈ shownAll test ns := by
  have hinner {kind : Element} {children : List Node}
      (hmem : n ∈ (Node.element kind place children).shown test) :
      n = .element kind place children ∨ kind.lets test = true ∧ n ∈ shownAll test children := by
    rw [shown] at hmem
    refine (List.mem_cons.1 hmem).imp_right ?_
    intro hmem
    split at hmem
    · next hlets => exact ⟨hlets, hmem⟩
    · cases hmem
  rcases o with (_ | _ | c | name) | _
  · exact (hinner h).imp_right fun ⟨hlets, hmem⟩ => ⟨hlets, mem_shownAll_of_unwrapped hmem⟩
  · exact hinner h
  · exact hinner h
  · exact hinner h
  · exact .inl (List.mem_singleton.1 h)

end Node

namespace Setting

open Branch Layer

/-- Everything around a place lets it through. -/
def lets (test : Condition → Bool) (w : Setting) : Bool := w.layers.all fun l => l.opened.lets test

@[simp] theorem lets_inside (test : Condition → Bool) (l : Layer) (v : Setting) :
    (inside l v).lets test = (l.opened.lets test && v.lets test) := rfl

@[simp] theorem lets_between (test : Condition → Bool) (xs ys : List Branch) (v : Setting) :
    (between xs ys v).lets test = v.lets test := by
  obtain ⟨_ | ⟨l, ls⟩, left, right⟩ := v
  · rfl
  · rfl

end Setting

namespace Branch

open Node

variable {test : Condition → Bool}

mutual
theorem exists_of_mem_shown (b : Branch) (offset : Nat) {n : Node}
    (hn : n ∈ (b.node offset).shown test) :
    ∃ v eb, [b] = Setting.fill v eb ∧ n = eb.node (offset + v.offset) ∧ v.lets test = true := by
  have hself (h : n = b.node offset) :
      ∃ v eb, [b] = Setting.fill v eb ∧ n = eb.node (offset + v.offset) ∧ v.lets test = true :=
    ⟨⟨[], [], []⟩, b, rfl, h, rfl⟩
  cases b with
  | text raw => exact hself (List.mem_singleton.1 hn)
  | var s attributes sc path => exact hself (List.mem_singleton.1 hn)
  | single s attributes o =>
    rcases mem_shown_ofOpened hn with h | ⟨-, h⟩
    · exact hself h
    · cases h
  | block s attributes o c content =>
    rcases mem_shown_ofOpened hn with h | ⟨hlets, h⟩
    · exact hself h
    · obtain ⟨v, eb, hv, heb, hlets'⟩ := exists_of_mem_shownAll content _ h
      refine ⟨v.inside ⟨[], s, attributes, o, c, []⟩, eb, ?_, ?_, ?_⟩
      · rw [Setting.fill_inside, ← hv]
        rfl
      · rw [heb, Setting.offset_inside]
        simp [Nat.add_assoc]
      · rw [Setting.lets_inside, hlets, hlets']
        rfl

/-- A node that is shown stands where everything lets it through. -/
theorem exists_of_mem_shownAll (bs : List Branch) (offset : Nat) {n : Node}
    (hn : n ∈ shownAll test (nodes offset bs)) :
    ∃ v eb, bs = Setting.fill v eb ∧ n = eb.node (offset + v.offset) ∧ v.lets test = true := by
  cases bs with
  | nil => cases hn
  | cons b bs =>
    rw [nodes_cons, shownAll, List.mem_append] at hn
    rcases hn with hn | hn
    · obtain ⟨v, eb, hv, heb, hlets⟩ := exists_of_mem_shown b offset hn
      refine ⟨v.between [] bs, eb, ?_, ?_, ?_⟩
      · rw [Setting.fill_between, ← hv]
        rfl
      · rw [heb, Setting.offset_between]
        simp
      · rw [Setting.lets_between, hlets]
    · obtain ⟨v, eb, hv, heb, hlets⟩ := exists_of_mem_shownAll bs _ hn
      refine ⟨v.between [b] [], eb, ?_, ?_, ?_⟩
      · rw [Setting.fill_between, ← hv]
        simp
      · rw [heb, Setting.offset_between]
        simp [Nat.add_assoc]
      · rw [Setting.lets_between, hlets]
end

end Branch

namespace Setting

open Branch Layer Node

variable {test : Condition → Bool}

theorem bytes_source_pos {b : Branch} (hb : b.IsList) {around : List Tag}
    (h : b.Stands around) : 0 < Text.bytes b.source := by
  obtain ⟨o, ho, -⟩ := hb
  have hspelled := h.spelled
  cases b with
  | var | text => cases ho
  | single s attributes o' =>
    rw [lexemes] at hspelled
    rw [source_single]
    exact bytes_pos_of_readsAs hspelled.1
  | block s attributes o' c content =>
    rw [lexemes] at hspelled
    have hpos := bytes_pos_of_readsAs hspelled.1
    rw [source_block, Text.bytes_append, Text.bytes_append]
    omega

end Setting

end Scenery
