/-
  Scenery/Proofs/Render/Members.lean
  ==================================
  **Members that are counted and members that are rendered.**  A change of a list reads
  its members node by node, while the renderer gathers the text between two entries and
  takes it apart as a whole.  In a list without conditions no two texts meet, so both
  read the same members in the same order (`woven_nodes`).

  They part on entries with nothing but blanks.  The renderer leaves them out and a
  change counts them, so the two agree exactly if the list has no such entry
  (`listMembers_eq_ofNodes_iff`).
-/
import Scenery.Proofs.Render.RoundTrip

namespace Scenery

/-! ### Lists below a node -/

namespace Node

/-- What a list holds, as it is written: other elements than conditions and items have no
    place in it, and between two of them stands at most one text. -/
def ListContent (children : List Node) : Prop :=
  ∃ around offset bs, children = Branch.nodes offset bs ∧
    Branch.NestedAll (.list :: around) bs ∧ Lexeme.Spelled ['<'] (Branch.lexemesAll bs)

/-- Every list among nodes holds what a list can hold. -/
def ListsIn (ns : List Node) : Prop :=
  ∀ name place children, .element (.list name) place children ∈ ns → ListContent children

theorem listContent_nil : ListContent [] := ⟨[], 0, [], rfl, by simp, by simp⟩

theorem listsIn_cons {n : Node} {ns : List Node} (hn : n.isList = false) :
    ListsIn (n :: ns) ↔ ListsIn ns := by
  constructor
  · intro h name place children hmem
    exact h name place children (List.mem_cons_of_mem _ hmem)
  · intro h name place children hmem
    rcases List.mem_cons.1 hmem with rfl | hmem
    · cases hn
    · exact h name place children hmem

theorem listsIn_append {xs ys : List Node} (hx : ListsIn xs) (hy : ListsIn ys) :
    ListsIn (xs ++ ys) := by
  intro name place children hmem
  rcases List.mem_append.1 hmem with hmem | hmem
  · exact hx name place children hmem
  · exact hy name place children hmem

theorem listsIn_unwrapped {ns : List Node} (h : ListsIn (descendantsOfAll ns)) :
    ListsIn (descendantsOfAll (unwrapped ns)) := by
  intro name place children hmem
  apply h name place children
  unfold unwrapped at hmem
  split at hmem
  · next hs => exact mem_descendantsOfAll_of_significant hs hmem
  · exact hmem

theorem listsIn_root {size : Nat} {ns : List Node} (h : ListsIn (descendantsOfAll ns)) :
    ListsIn (root size ns).descendants := by
  unfold root
  split
  · next place children hs =>
    rw [descendants, listsIn_cons rfl]
    intro name p c hmem
    exact h name p c (mem_descendantsOfAll_of_significant hs hmem)
  · rw [descendants, listsIn_cons rfl]
    exact h

end Node

namespace Branch

open Node

variable {around : List Tag} {after : Text} {bs : List Branch}

mutual
theorem listsIn_node {around : List Tag} {after : Text} (b : Branch) (h : b.Nested around)
    (rest : List Lexeme) (hs : Lexeme.Spelled after (b.lexemes ++ rest)) (offset : Nat) :
    ListsIn (b.node offset).descendants ∧ Lexeme.Spelled after rest := by
  have hleaf {n : Node} (hn : n.isList = false) : ListsIn [n] :=
    (listsIn_cons hn).2 fun _ _ _ hmem => absurd hmem List.not_mem_nil
  cases b with
  | text raw =>
    rw [node, descendants]
    exact ⟨hleaf rfl, Lexeme.spelled_of_cons hs⟩
  | var s attributes sc path =>
    rw [node, descendants]
    exact ⟨hleaf rfl, Lexeme.spelled_of_cons hs⟩
  | single s attributes o =>
    refine ⟨?_, Lexeme.spelled_of_cons hs⟩
    rw [node]
    rcases o with (_ | _ | _ | name) | _
    · exact hleaf rfl
    · exact hleaf rfl
    · exact hleaf rfl
    · intro _ _ children hmem
      rw [ofOpened, descendants, descendantsOfAll, List.mem_singleton] at hmem
      · cases hmem
        exact listContent_nil
      · simp
    · exact hleaf rfl
  | block s attributes o c content =>
    rw [lexemes, List.cons_append, List.append_assoc] at hs
    obtain ⟨hcontent, -, hrest⟩ := Lexeme.spelled_append_tag.1 (Lexeme.spelled_of_cons hs)
    rw [Nested] at h
    have ih := listsIn_nodes content h.2.2 hcontent (offset + Text.bytes s)
    refine ⟨?_, hrest⟩
    rw [node]
    rcases o with (_ | _ | _ | name) | _
    · rw [ofOpened, descendants, listsIn_cons rfl]
      exact listsIn_unwrapped ih
    · rw [ofOpened, descendants, listsIn_cons rfl]
      · exact ih
      · simp
    · rw [ofOpened, descendants, listsIn_cons rfl]
      · exact ih
      · simp
    · intro _ _ children hmem
      rw [ofOpened, descendants, List.mem_cons] at hmem
      · rcases hmem with hmem | hmem
        · cases hmem
          exact ⟨around, _, content, rfl, h.2.2, hcontent⟩
        · exact ih _ _ _ hmem
      · simp
    · exact hleaf rfl

theorem listsIn_nodes {around : List Tag} {after : Text} (bs : List Branch)
    (h : NestedAll around bs) (hs : Lexeme.Spelled after (lexemesAll bs)) (offset : Nat) :
    ListsIn (descendantsOfAll (nodes offset bs)) := by
  cases bs with
  | nil =>
    intro name place children hmem
    rw [nodes_nil, descendantsOfAll] at hmem
    cases hmem
  | cons b bs =>
    obtain ⟨hb, hbs⟩ := nestedAll_cons.1 h
    rw [lexemesAll_cons] at hs
    obtain ⟨hfirst, hrest⟩ := listsIn_node b hb _ hs offset
    rw [nodes_cons, descendantsOfAll]
    exact listsIn_append hfirst (listsIn_nodes bs hbs hrest _)
end

/-! ### One reading and the other -/

/-- An element of a list that is no condition is an entry. -/
theorem exists_entry_of_opened (hlist : .list ∈ around) {b : Branch} (h : b.Nested around)
    (hcond : b.isConditional = false) {o : Opened} (ho : b.opened? = some o) : b.IsEntry := by
  have hfit : o.tag.FitsIn around := by
    cases b with
    | var | text => cases ho
    | single s attributes o' | block s attributes o' c content =>
      cases ho
      rw [Nested] at h
      exact h.1
  rcases opened_of_fitsIn_list hlist hfit with rfl | ⟨c, rfl⟩
  · exact ho
  · rw [isConditional, ho] at hcond
    cases hcond

/-- The text before a tag of a list is taken apart by itself. -/
theorem woven_of_tagFirst (hlist : .list ∈ around) (h : NestedAll around bs)
    (hcond : bs.any isConditional = false) (hfirst : Lexeme.TagFirst (lexemesAll bs))
    (pending : Text) (offset : Nat) :
    Render.woven pending (nodes offset bs) =
      Prose.split pending ++ Render.woven [] (nodes offset bs) := by
  have hnil : Prose.split [] = [] := Prose.split_blanks (by simp)
  cases bs with
  | nil => rw [nodes_nil, Render.woven, Render.woven, hnil, List.append_nil]
  | cons b bs =>
    rw [lexemesAll_cons] at hfirst
    rw [List.any_cons, Bool.or_eq_false_iff] at hcond
    obtain ⟨hb, -⟩ := nestedAll_cons.1 h
    have hentry (heb : b.IsEntry) : Render.woven pending (nodes offset (b :: bs)) =
        Prose.split pending ++ Render.woven [] (nodes offset (b :: bs)) := by
      rw [nodes_cons, node_entry heb hb, Render.woven, Render.woven, hnil, List.nil_append]
    cases b with
    | text raw =>
      rw [lexemes] at hfirst
      exact absurd hfirst (Lexeme.not_tagFirst_text _ _)
    | var s attributes sc path =>
      rw [Nested] at hb
      exact absurd (hb.1.1 .list hlist) (by simp [Tag.forbids])
    | single s attributes o | block s attributes o c content =>
      exact hentry (exists_entry_of_opened hlist hb hcond.1 rfl)

/-- **The renderer reads the members of a list that a change reads**, but for blank
    entries. -/
theorem woven_nodes (hlist : .list ∈ around) (h : NestedAll around bs)
    (hs : Lexeme.Spelled after (lexemesAll bs)) (hcond : bs.any isConditional = false)
    (offset : Nat) :
    Render.woven [] (nodes offset bs) =
      (membersAll bs).filterMap fun m => Text.trimmed? m.text := by
  induction bs generalizing offset with
  | nil =>
    rw [nodes_nil, Render.woven]
    exact Prose.split_blanks (by simp)
  | cons b bs ih =>
    obtain ⟨hb, hbs⟩ := nestedAll_cons.1 h
    rw [List.any_cons, Bool.or_eq_false_iff] at hcond
    rw [lexemesAll_cons] at hs
    have hrest (offset : Nat) := ih hbs (plain_of_mem_members b hb _ hs).2 hcond.2 offset
    have hentry (heb : b.IsEntry) : Render.woven [] (nodes offset (b :: bs)) =
        (membersAll (b :: bs)).filterMap fun m => Text.trimmed? m.text := by
      have hmembers := members_node hlist b hb offset
      rw [node_entry heb hb] at hmembers
      rw [nodes_cons, node_entry heb hb, Render.woven, hrest, membersAll_cons, ← hmembers,
        Node.descendants, List.filterMap_append]
      rcases htext : Text.trimmed? (b.entryAt offset).text with _ | t
      · simp [Member.ofNode, Member.bare, htext]
      · simp [Member.ofNode, Member.bare, htext]
    cases b with
    | text raw =>
      rw [lexemes, List.singleton_append] at hs
      rw [nodes_cons, node, Render.woven, List.nil_append,
        woven_of_tagFirst hlist hbs hcond.2 hs.2.1, hrest, membersAll_cons, members_text,
        List.filterMap_append, filterMap_ofText]
    | var s attributes sc path =>
      rw [Nested] at hb
      exact absurd (hb.1.1 .list hlist) (by simp [Tag.forbids])
    | single s attributes o | block s attributes o c content =>
      exact hentry (exists_entry_of_opened hlist hb hcond.1 rfl)

end Branch

namespace Render

open Branch

variable {children : List Node}

/-- The texts that are rendered are those of the members, trimmed, without the blank ones. -/
theorem listMembers_of_content (h : Node.ListContent children)
    (hcond : children.any Node.isConditional = false) (ctx : Context) :
    listMembers ctx children =
      .ok ((Member.ofNodes children).filterMap fun m => Text.trimmed? m.text) := by
  obtain ⟨around, offset, bs, rfl, hnested, hspelled⟩ := h
  have hmembers := members_nodes List.mem_cons_self bs hnested offset
  rw [← ofNodes_eq_below List.mem_cons_self hnested hcond] at hmembers
  rw [any_isConditional_nodes] at hcond
  rw [listMembers_eq, reachedAll_nodes List.mem_cons_self hnested hcond, Except.map,
    woven_nodes List.mem_cons_self hnested hspelled hcond, ← hmembers, List.filterMap_map]
  rfl

/-- Nothing is left out if and only if nothing is blank. -/
theorem filterMap_trimmed?_eq_map_iff (ms : List Member) :
    (ms.filterMap fun m => Text.trimmed? m.text) = (ms.map fun m => Text.trim m.text) ↔
      ∀ m ∈ ms, Text.trim m.text ≠ [] := by
  induction ms with
  | nil => simp
  | cons m ms ih =>
    rw [List.filterMap_cons, List.map_cons, List.forall_mem_cons, ← ih]
    rcases ht : Text.trimmed? m.text with _ | t
    · have hnone := Text.trimmed?_eq_none.1 ht
      constructor
      · intro heq
        have hlength := congrArg List.length heq
        have hle := List.length_filterMap_le (fun m : Member => Text.trimmed? m.text) ms
        simp only [List.length_cons, List.length_map] at hlength
        omega
      · intro h
        exact absurd hnone h.1
    · obtain ⟨htrim, hne⟩ := Text.trimmed?_eq_some.1 ht
      simp [htrim, hne]

/-- What stands between entries is never read as a blank member. -/
theorem trim_ne_nil_of_not_tagged {m : Member} (hm : m ∈ Member.ofNodes children)
    (htagged : m.tagged = false) : Text.trim m.text ≠ [] := by
  obtain ⟨n, -, hn⟩ := List.mem_flatMap.1 hm
  cases n with
  | entry t p =>
    rw [Member.ofNode, List.mem_singleton] at hn
    rw [hn] at htagged
    cases htagged
  | text raw span =>
    obtain ⟨p, hp, rfl⟩ := List.mem_map.1 hn
    obtain ⟨hne, -, -, hstart, hend⟩ := Prose.of_mem_split hp
    show Text.trim p ≠ []
    rwa [Text.trim_eq_self hstart hend]
  | element | var => cases hn

/-- **The members of a list that a change counts are the ones that are rendered**, in the
    same order and in every context, but for blank entries; so they are the same exactly
    if no entry of the list is blank. -/
theorem listMembers_eq_ofNodes_iff {template : Text} {root : Node}
    (hparse : Node.parse template = .ok root) {name : Option Text} {place : Place}
    (hmem : .element (.list name) place children ∈ root.descendants)
    (hcond : children.any Node.isConditional = false) (ctx : Context) :
    listMembers ctx children =
        .ok ((Member.ofNodes children).filterMap fun m => Text.trimmed? m.text) ∧
      (listMembers ctx children = .ok ((Member.ofNodes children).map fun m => Text.trim m.text) ↔
        ∀ m ∈ Member.ofNodes children, m.tagged = true → Text.trim m.text ≠ []) := by
  obtain ⟨bs, ⟨hspelled, hnested⟩, -, rfl⟩ := exists_of_parse hparse
  have hcontent := Node.listsIn_root (listsIn_nodes bs hnested hspelled 0) name place children hmem
  have hmembers := listMembers_of_content hcontent hcond ctx
  refine ⟨hmembers, ?_⟩
  rw [hmembers, Except.ok.injEq, filterMap_trimmed?_eq_map_iff]
  constructor
  · intro h m hm _
    exact h m hm
  · intro h m hm
    rcases htagged : m.tagged with _ | _
    · exact trim_ne_nil_of_not_tagged hm htagged
    · exact h m hm htagged

/-- A list of a concrete template can be computed. -/
theorem exists_list (template : Text) (P : List Node → Prop) [DecidablePred P]
    (h : (Node.parse template).toOption.any fun root => root.lists.any fun n => P n.children) :
    ∃ root name place children, Node.parse template = .ok root ∧
      .element (.list name) place children ∈ root.descendants ∧ P children := by
  obtain ⟨root, hroot, hlists⟩ := (Option.any_eq_true _ _).1 h
  obtain ⟨n, hn, hP⟩ := List.any_eq_true.1 hlists
  obtain ⟨hmem, hlist⟩ := List.mem_filter.1 hn
  cases n with
  | entry | var | text => cases hlist
  | element kind place children =>
    cases kind with
    | wrapper | sentence | conditional => cases hlist
    | list name =>
      exact ⟨root, name, place, children, eq_ok_of_toOption hroot, hmem, of_decide_eq_true hP⟩

/-- Entries with blanks around their words, and a phrase between them. -/
def petSentence : Text :=
  "<s>Here are <il><item> a DOG</item>, two of each, and <item>a CAT </item></il>.</s>".toList

/-- Nothing but the blanks around the words of the entries is lost. -/
theorem listMembers_eq_ofNodes_of_pets :
    ∃ root name place children, Node.parse petSentence = .ok root ∧
      .element (.list name) place children ∈ root.descendants ∧
      children.any Node.isConditional = false ∧
      (∀ m ∈ Member.ofNodes children, m.tagged = true → Text.trim m.text ≠ []) ∧
      ∀ ctx, listMembers ctx children =
        .ok ["a DOG".toList, "two of each".toList, "a CAT".toList] := by
  obtain ⟨root, name, place, children, hparse, hmem, hcond, hsolid, htexts⟩ := exists_list
    petSentence (fun children => children.any Node.isConditional = false ∧
      (∀ m ∈ Member.ofNodes children, m.tagged = true → Text.trim m.text ≠ []) ∧
      ((Member.ofNodes children).map fun m => Text.trim m.text) =
        ["a DOG".toList, "two of each".toList, "a CAT".toList]) (by decide +kernel)
  refine ⟨root, name, place, children, hparse, hmem, hcond, hsolid, ?_⟩
  intro ctx
  rw [(listMembers_eq_ofNodes_iff hparse hmem hcond ctx).2.2 hsolid, htexts]

/-- A list that holds one entry with nothing in it. -/
def emptyBasket : Text := "<s>I see <il><item> </item></il>.</s>".toList

/-- What is put in front of a blank entry is the only member that is rendered, but a change
    counts two and writes a connecting word. -/
theorem listMembers_ne_ofNodes_of_blank :
    ∃ template root name place children,
      ListChange.add emptyBasket ⟨"DOG".toList, .count 1, "a DOG".toList, none⟩ none =
        .ok (.changed template) ∧
      Node.parse template = .ok root ∧ .element (.list name) place children ∈ root.descendants ∧
      children.any Node.isConditional = false ∧
      ((Member.ofNodes children).map fun m => Text.trim m.text) = ["a DOG".toList, []] ∧
      listMembers {} children = .ok ["a DOG".toList] ∧
      render template {} = .ok "I see a DOG.".toList := by
  obtain ⟨root, name, place, children, hparse, hmem, hcond, htexts, hmembers⟩ := exists_list
    "<s>I see <il><item>a DOG</item> and <item> </item></il>.</s>".toList
    (fun children => children.any Node.isConditional = false ∧
      ((Member.ofNodes children).map fun m => Text.trim m.text) = ["a DOG".toList, []] ∧
      (listMembers {} children).toOption = some ["a DOG".toList]) (by decide +kernel)
  have hadd : ListChange.add emptyBasket ⟨"DOG".toList, .count 1, "a DOG".toList, none⟩ none =
      .ok (.changed "<s>I see <il><item>a DOG</item> and <item> </item></il>.</s>".toList) :=
    eq_ok_of_toOption (by decide +kernel)
  exact ⟨_, root, name, place, children, hadd, hparse, hmem, hcond, htexts,
    eq_ok_of_toOption hmembers, eq_ok_of_toOption (by decide +kernel)⟩

end Render

end Scenery
