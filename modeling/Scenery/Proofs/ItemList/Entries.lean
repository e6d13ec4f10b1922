/-
  Scenery/Proofs/ItemList/Entries.lean
  ====================================
  **Entries where they stand in a list.**  An entry of a list, also one under
  conditions, fills a setting in the list's content (`exists_of_mem_descendants`), and
  its member stands between those before and those after that place
  (`exists_below_fill`).  No member before it comes from the same entry.
-/
import Scenery.Proofs.ItemList.Content

namespace Scenery

namespace Setting

open Branch Layer

/-- A setting with more branches in front of and behind everything. -/
def between (xs ys : List Branch) (v : Setting) : Setting :=
  match v.layers with
  | [] => ⟨[], xs ++ v.left, v.right ++ ys⟩
  | l :: ls =>
    ⟨{ l with before := xs ++ l.before, after := l.after ++ ys } :: ls, v.left, v.right⟩

/-- A setting inside one more element. -/
def inside (l : Layer) (v : Setting) : Setting := { v with layers := l :: v.layers }

theorem fill_between (xs ys : List Branch) (v : Setting) (b : Branch) :
    (between xs ys v).fill b = xs ++ v.fill b ++ ys := by
  obtain ⟨_ | ⟨l, ls⟩, left, right⟩ := v <;> simp [between, fill, fillAll, Layer.block]

theorem offset_between (xs ys : List Branch) (v : Setting) :
    (between xs ys v).offset = Text.bytes (sourceAll xs) + v.offset := by
  obtain ⟨_ | ⟨l, ls⟩, left, right⟩ := v <;>
    simp [between, offset, textBefore, lexemesBefore, Layer.lexemesBefore, sourceAll]

theorem layers_between {xs ys : List Branch} {v : Setting} (h : v.layers = []) :
    (between xs ys v).layers = [] := by
  obtain ⟨layers, left, right⟩ := v
  subst h
  rfl

theorem fill_ne_nil (v : Setting) (b : Branch) : v.fill b ≠ [] := by
  obtain ⟨_ | ⟨l, ls⟩, left, right⟩ := v <;> simp [fill, fillAll]

theorem fill_inside (l : Layer) (v : Setting) (b : Branch) :
    (inside l v).fill b = l.before ++ l.block (v.fill b) :: l.after := rfl

theorem offset_inside (l : Layer) (v : Setting) :
    (inside l v).offset =
      Text.bytes (sourceAll l.before) + (Text.bytes l.source + v.offset) := by
  simp [inside, offset, textBefore, lexemesBefore, Layer.lexemesBefore, sourceAll]

/-- The members of what stands before a place in a list. -/
def membersBefore (v : Setting) : List Member :=
  v.layers.flatMap (fun l => membersAll l.before) ++ membersAll v.left

/-- The members of the branches behind the elements around a place. -/
def membersBehind : List Layer → List Member
  | [] => []
  | l :: ls => membersBehind ls ++ membersAll l.after

/-- The members of what stands behind a place in a list. -/
def membersAfter (v : Setting) : List Member := membersAll v.right ++ membersBehind v.layers

end Setting

namespace Branch

/-- An entry is a block or a tag that closes itself. -/
def IsEntry (b : Branch) : Prop := b.opened? = some .entry

/-- The entry that a branch makes where it stands. -/
def entryAt (offset : Nat) (b : Branch) : ListSite.Entry :=
  ⟨sourceAll b.content, ⟨(b.node offset).span, (b.node offset).inner⟩⟩

/-- The member that an entry makes where it stands. -/
def memberAt (offset : Nat) (b : Branch) : Member :=
  ⟨sourceAll b.content, true, some (b.node offset).span⟩

theorem node_entry {around : List Tag} {b : Branch} (hb : b.IsEntry) (h : b.Nested around)
    (offset : Nat) :
    b.node offset = .entry (b.entryAt offset).text (b.entryAt offset).place := by
  cases b with
  | var | text => cases hb
  | single s attributes o =>
    obtain rfl : o = .entry := by simpa [IsEntry, opened?] using hb
    simp [entryAt, node, Node.ofOpened, content, Node.span, Node.inner]
  | block s attributes o c bs =>
    obtain rfl : o = .entry := by simpa [IsEntry, opened?] using hb
    rw [Nested] at h
    simp [entryAt, node, Node.ofOpened, content, Node.span, Node.inner, flatMap_rawText h.2.2]

/-! ### Where entries stand -/

mutual
theorem exists_of_mem_descendants_node {around : List Tag} (hlist : .list ∈ around) (b : Branch)
    (h : b.Nested around) (offset : Nat) {t : Text} {p : Place}
    (he : Node.entry t p ∈ (b.node offset).descendants) :
    ∃ v eb, [b] = Setting.fill v eb ∧ eb.IsEntry ∧ ⟨t, p⟩ = eb.entryAt (offset + v.offset) ∧
      (v.layers = [] ∨ (b.node offset).isConditional = true) := by
  have hself (hb : b.IsEntry) : ∃ v eb, [b] = Setting.fill v eb ∧ eb.IsEntry ∧
      ⟨t, p⟩ = eb.entryAt (offset + v.offset) ∧
      (v.layers = [] ∨ (b.node offset).isConditional = true) := by
    rw [node_entry hb h, Node.descendants, List.mem_singleton] at he
    cases he
    exact ⟨⟨[], [], []⟩, b, rfl, hb, rfl, .inl rfl⟩
  cases b with
  | text raw =>
    rw [node, Node.descendants] at he
    simp at he
  | var s attributes sc path =>
    rw [node, Node.descendants] at he
    simp at he
  | single s attributes o =>
    have hfit := h
    rw [Nested] at hfit
    rcases opened_of_fitsIn_list hlist hfit.1 with rfl | ⟨c, rfl⟩
    · exact hself rfl
    · rw [node, Node.ofOpened, Node.descendants, Node.descendantsOfAll] at he
      · simp at he
      · simp
  | block s attributes o c content =>
    have hfit := h
    rw [Nested] at hfit
    obtain ⟨hfit, -, hcontent⟩ := hfit
    rcases opened_of_fitsIn_list hlist hfit with rfl | ⟨cond, rfl⟩
    · exact hself rfl
    · rw [node, Node.ofOpened, Node.descendants, List.mem_cons] at he
      · rcases he with he | he
        · cases he
        · obtain ⟨v, eb, hv, heb, hentry, -⟩ :=
            exists_of_mem_descendants (List.mem_cons_of_mem _ hlist) content hcontent _ he
          refine ⟨v.inside ⟨[], s, attributes, .element (.conditional cond), c, []⟩, eb, ?_, heb,
            ?_, .inr (by rw [node]; rfl)⟩
          · rw [Setting.fill_inside, ← hv]
            rfl
          · rw [hentry, Setting.offset_inside]
            simp [Nat.add_assoc]
      · simp

theorem exists_of_mem_descendants {around : List Tag} (hlist : .list ∈ around)
    (bs : List Branch) (h : NestedAll around bs) (offset : Nat) {t : Text} {p : Place}
    (he : Node.entry t p ∈ Node.descendantsOfAll (nodes offset bs)) :
    ∃ v eb, bs = Setting.fill v eb ∧ eb.IsEntry ∧ ⟨t, p⟩ = eb.entryAt (offset + v.offset) ∧
      (v.layers = [] ∨ (nodes offset bs).any Node.isConditional = true) := by
  cases bs with
  | nil => simp [Node.descendantsOfAll] at he
  | cons b bs =>
    obtain ⟨hb, hbs⟩ := nestedAll_cons.1 h
    rw [nodes_cons, Node.descendantsOfAll, List.mem_append] at he
    rw [nodes_cons, List.any_cons, Bool.or_eq_true]
    rcases he with he | he
    · obtain ⟨v, eb, hv, heb, hentry, hlayers⟩ :=
        exists_of_mem_descendants_node hlist b hb offset he
      refine ⟨v.between [] bs, eb, ?_, heb, ?_, hlayers.imp Setting.layers_between .inl⟩
      · rw [Setting.fill_between, ← hv]
        rfl
      · rw [hentry, Setting.offset_between]
        simp
    · obtain ⟨v, eb, hv, heb, hentry, hlayers⟩ := exists_of_mem_descendants hlist bs hbs _ he
      refine ⟨v.between [b] [], eb, ?_, heb, ?_, hlayers.imp Setting.layers_between .inr⟩
      · rw [Setting.fill_between, ← hv]
        simp
      · rw [hentry, Setting.offset_between]
        simp [Nat.add_assoc]
end

/-! ### Members around an entry -/

theorem bytes_pos_of_readsAs {s : Text} {piece : TagText} (h : Lexeme.ReadsAs s piece) :
    0 < Text.bytes s := by
  obtain ⟨r, rfl, -⟩ := h
  have := Char.utf8Size_pos '<'
  simp only [Text.bytes_cons]
  omega

mutual
theorem start_lt_of_mem_node {around : List Tag} (hlist : .list ∈ around) {after : Text}
    (b : Branch) (h : b.Nested around) (rest : List Lexeme)
    (hs : Lexeme.Spelled after (b.lexemes ++ rest)) (offset : Nat) :
    (∀ m ∈ (b.node offset).descendants.flatMap Member.ofNode, ∀ span, m.source = some span →
      span.start < offset + Text.bytes b.source) ∧ Lexeme.Spelled after rest := by
  cases b with
  | text raw =>
    rw [lexemes, List.singleton_append] at hs
    refine ⟨?_, Lexeme.spelled_of_cons hs⟩
    intro m hm span hspan
    rw [node, Node.descendants, List.flatMap_singleton, Member.ofNode] at hm
    obtain ⟨p, -, rfl⟩ := List.mem_map.1 hm
    cases hspan
  | var s attributes sc path =>
    rw [Nested] at h
    exact absurd (h.1.1 .list hlist) (by simp [Tag.forbids])
  | single s attributes o =>
    rw [lexemes, List.singleton_append] at hs
    rw [Nested] at h
    refine ⟨?_, Lexeme.spelled_of_cons hs⟩
    intro m hm span hspan
    have hpos := bytes_pos_of_readsAs (Lexeme.spelled_tag.1 hs).1
    rw [node] at hm
    rcases opened_of_fitsIn_list hlist h.1 with rfl | ⟨c, rfl⟩
    · simp only [Node.ofOpened, Node.descendants, List.flatMap_singleton, Member.ofNode,
        List.mem_singleton] at hm
      subst hm
      cases hspan
      simp only [source_single]
      omega
    · simp [Node.ofOpened, Node.descendants, Node.descendantsOfAll, Member.ofNode] at hm
  | block s attributes o c content =>
    rw [lexemes, List.cons_append, List.append_assoc] at hs
    have hpos := bytes_pos_of_readsAs (Lexeme.spelled_tag.1 hs).1
    obtain ⟨hcontent, -, hrest⟩ := Lexeme.spelled_append_tag.1 (Lexeme.spelled_of_cons hs)
    rw [Nested] at h
    obtain ⟨hfit, -, hnested⟩ := h
    refine ⟨?_, hrest⟩
    intro m hm span hspan
    rw [node] at hm
    simp only [source_block, Text.bytes_append]
    rcases opened_of_fitsIn_list hlist hfit with rfl | ⟨cond, rfl⟩
    · simp only [Node.ofOpened, Node.descendants, List.flatMap_singleton, Member.ofNode,
        List.mem_singleton] at hm
      subst hm
      cases hspan
      simp only
      omega
    · have ih := start_lt_of_mem_below (List.mem_cons_of_mem _ hlist) content hnested hcontent
        (offset + Text.bytes s) m (by simpa [Node.ofOpened, Node.descendants, Member.ofNode,
          Member.below] using hm) span hspan
      omega

theorem start_lt_of_mem_below {around : List Tag} (hlist : .list ∈ around) {after : Text}
    (bs : List Branch) (h : NestedAll around bs) (hs : Lexeme.Spelled after (lexemesAll bs))
    (offset : Nat) :
    ∀ m ∈ Member.below (nodes offset bs), ∀ span, m.source = some span →
      span.start < offset + Text.bytes (sourceAll bs) := by
  cases bs with
  | nil =>
    intro m hm
    simp at hm
  | cons b bs =>
    obtain ⟨hb, hbs⟩ := nestedAll_cons.1 h
    rw [lexemesAll_cons] at hs
    obtain ⟨hfirst, hrest⟩ := start_lt_of_mem_node hlist b hb _ hs offset
    intro m hm span hspan
    rw [nodes_cons, Member.below_cons] at hm
    rw [sourceAll_cons, Text.bytes_append]
    rcases List.mem_append.1 hm with hm | hm
    · have := hfirst m hm span hspan
      omega
    · have := start_lt_of_mem_below hlist bs hbs hrest _ m hm span hspan
      omega
end

theorem descendantsOfAll_append (xs ys : List Node) :
    Node.descendantsOfAll (xs ++ ys) = Node.descendantsOfAll xs ++ Node.descendantsOfAll ys := by
  induction xs with
  | nil => rw [List.nil_append, Node.descendantsOfAll, List.nil_append]
  | cons x xs ih =>
    rw [List.cons_append, Node.descendantsOfAll, Node.descendantsOfAll, ih, List.append_assoc]

theorem below_append (xs ys : List Node) :
    Member.below (xs ++ ys) = Member.below xs ++ Member.below ys := by
  rw [Member.below, descendantsOfAll_append, List.flatMap_append, Member.below, Member.below]

theorem opened_of_nested_entry {around : List Tag} (hlist : .list ∈ around) {l : Layer}
    {v : Setting} {eb : Branch} (heb : eb.IsEntry)
    (h : (l.block (v.fill eb)).Nested around) : ∃ c, l.opened = .element (.conditional c) := by
  rw [Layer.block, Nested] at h
  obtain ⟨hfit, -, hinner⟩ := h
  rcases opened_of_fitsIn_list hlist hfit with ho | hc
  · rw [ho] at hinner
    obtain ⟨-, -, hentry, -⟩ := v.nestedAll_fill.1 hinner
    have hitem : .item ∈ v.tagsIn (.item :: around) :=
      Layer.mem_tagsIn_of_mem List.mem_cons_self v.layers
    cases eb with
    | var | text => cases heb
    | single s attributes o =>
      rw [Nested] at hentry
      exact absurd (hentry.1.1 _ hitem) (by simp [Tag.forbids])
    | block s attributes o c content =>
      rw [Nested] at hentry
      exact absurd (hentry.1.1 _ hitem) (by simp [Tag.forbids])
  · exact hc

/-- **The member of an entry stands between those before and those behind its place**,
    and is the first that comes from that entry. -/
theorem exists_below_fill {around : List Tag} (hlist : .list ∈ around) {after : Text}
    {v : Setting} {eb : Branch} (heb : eb.IsEntry) (h : NestedAll around (v.fill eb))
    (hs : Lexeme.Spelled after (lexemesAll (v.fill eb))) (offset : Nat) :
    ∃ A B, Member.below (nodes offset (v.fill eb)) = A ++ eb.memberAt (offset + v.offset) :: B ∧
      A.map Member.bare = v.membersBefore ∧ B.map Member.bare = v.membersAfter ∧
      ∀ m ∈ A, ∀ span, m.source = some span → span.start < offset + v.offset := by
  obtain ⟨layers, left, right⟩ := v
  induction layers generalizing around after offset with
  | nil =>
    obtain ⟨hleft, hright⟩ := nestedAll_append.1 h
    obtain ⟨hentry, hright⟩ := nestedAll_cons.1 hright
    have hspelled : Lexeme.Spelled after (lexemesAll left ++ (eb.lexemes ++ lexemesAll right)) := by
      simpa [Setting.fill, Layer.fillAll] using hs
    obtain ⟨hspelled, -, -⟩ := (spelled_append_element heb).1 hspelled
    have hoffset : Setting.offset ⟨[], left, right⟩ = Text.bytes (sourceAll left) := by
      simp [Setting.offset, Setting.textBefore, Setting.lexemesBefore, Layer.lexemesBefore,
        sourceAll]
    rw [hoffset]
    refine ⟨Member.below (nodes offset left), Member.below (nodes (offset +
      Text.bytes (sourceAll left) + Text.bytes eb.source) right), ?_, ?_, ?_,
      start_lt_of_mem_below hlist left hleft hspelled offset⟩
    · show Member.below (nodes offset (left ++ eb :: right)) = _
      rw [nodes_append, nodes_cons, below_append, Member.below_cons, node_entry heb hentry]
      rfl
    · rw [members_nodes hlist left hleft]
      rfl
    · rw [members_nodes hlist right hright]
      simp [Setting.membersAfter, Setting.membersBehind]
  | cons l ls ih =>
    obtain ⟨hbefore, hrest⟩ := nestedAll_append.1 h
    obtain ⟨hblock, hafter⟩ := nestedAll_cons.1 hrest
    obtain ⟨c, ho⟩ := opened_of_nested_entry (v := ⟨ls, left, right⟩) hlist heb hblock
    have hinner : NestedAll (l.opened.tag :: around) (Setting.fill ⟨ls, left, right⟩ eb) := by
      rw [Layer.block, Nested] at hblock
      exact hblock.2.2
    have hspelled : Lexeme.Spelled after (lexemesAll l.before ++
        (.tag l.source (.opening l.opened.tag l.attributes false)) ::
          (lexemesAll (Setting.fill ⟨ls, left, right⟩ eb) ++
            (.tag l.closing (.closing l.opened.tag)) :: lexemesAll l.after)) := by
      simpa [Setting.fill, Layer.fillAll, Layer.block, lexemes] using hs
    obtain ⟨hspelledBefore, -, hspelled⟩ := Lexeme.spelled_append_tag.1 hspelled
    obtain ⟨hspelledInner, -, -⟩ := Lexeme.spelled_append_tag.1 hspelled
    obtain ⟨A, B, hA, hbareA, hbareB, hstart⟩ := ih (List.mem_cons_of_mem _ hlist)
      (offset + Text.bytes (sourceAll l.before) + Text.bytes l.source) hinner hspelledInner
    have hoffset : Setting.offset ⟨l :: ls, left, right⟩ =
        Text.bytes (sourceAll l.before) + (Text.bytes l.source +
          Setting.offset ⟨ls, left, right⟩) := Setting.offset_inside l ⟨ls, left, right⟩
    rw [hoffset]
    simp only [Nat.add_assoc] at hA hstart ⊢
    refine ⟨Member.below (nodes offset l.before) ++ A, B ++ Member.below (nodes (offset +
      Text.bytes (sourceAll l.before) + Text.bytes (l.block (Layer.fillAll ls
        (left ++ eb :: right))).source) l.after), ?_, ?_, ?_, ?_⟩
    · show Member.below (nodes offset (l.before ++ l.block _ :: l.after)) = _
      rw [nodes_append, nodes_cons, below_append, Member.below_cons, Layer.block, node, ho,
        Node.ofOpened, Node.descendants, List.flatMap_cons, ← Member.below]
      · simp only [Setting.fill] at hA
        simp only [Member.ofNode, List.nil_append, Nat.add_assoc, hA]
        simp
      · simp
    · rw [List.map_append, hbareA, members_nodes hlist l.before hbefore]
      simp [Setting.membersBefore]
    · rw [List.map_append, hbareB, members_nodes hlist l.after hafter]
      simp [Setting.membersAfter, Setting.membersBehind]
    · intro m hm span hspan
      rcases List.mem_append.1 hm with hm | hm
      · have := start_lt_of_mem_below hlist l.before hbefore hspelledBefore offset m hm span hspan
        omega
      · exact hstart m hm span hspan

end Branch

end Scenery
