/-
  Scenery/Proofs/ItemList/Content.lean
  ====================================
  **What a list holds.**  The members of a list depend on what is written in it, not
  on where it stands (`members_nodes`).

  In the other direction members are written as content: their entries stay apart,
  and everything between two entries is one text (`weave`).  That text is taken apart
  again when the list is read, so what it makes need not be what it was made of
  (`gathered`).
-/
import Scenery.ItemList.Change
import Scenery.Proofs.ItemList.Setting
import Scenery.Proofs.Prose.Phrase

namespace Scenery

namespace Member

/-- A member without the entry it comes from. -/
def bare (m : Member) : Member := { m with source := none }

@[simp] theorem bare_text (m : Member) : m.bare.text = m.text := rfl

@[simp] theorem bare_tagged (m : Member) : m.bare.tagged = m.tagged := rfl

/-- The members of the phrases of a text. -/
def ofText (raw : Text) : List Member := (Prose.split raw).map fun p => ⟨p, false, none⟩

/-- The members of nodes and of everything below them. -/
def below (nodes : List Node) : List Member :=
  (Node.descendantsOfAll nodes).flatMap ofNode

@[simp] theorem below_nil : below [] = [] := rfl

@[simp] theorem below_cons (n : Node) (ns : List Node) :
    below (n :: ns) = n.descendants.flatMap ofNode ++ below ns := by
  simp [below, Node.descendantsOfAll]

end Member

namespace Branch

mutual
/-- The members at and below a branch of a list. -/
def members : Branch → List Member
  | .block _ _ o _ content =>
    match o with
    | .entry => [⟨sourceAll content, true, none⟩]
    | .element _ => membersAll content
  | .single _ _ o =>
    match o with
    | .entry => [⟨[], true, none⟩]
    | .element _ => []
  | .var _ _ _ _ => []
  | .text raw => Member.ofText raw

/-- The members at and below branches of a list. -/
def membersAll : List Branch → List Member
  | [] => []
  | b :: bs => members b ++ membersAll bs
end

@[simp] theorem membersAll_nil : membersAll [] = [] := by rw [membersAll]

@[simp] theorem membersAll_cons (b : Branch) (bs : List Branch) :
    membersAll (b :: bs) = members b ++ membersAll bs := by rw [membersAll]

@[simp] theorem membersAll_append (xs ys : List Branch) :
    membersAll (xs ++ ys) = membersAll xs ++ membersAll ys := by
  induction xs with
  | nil => simp
  | cons x xs ih => simp [ih]

@[simp] theorem members_text (raw : Text) : members (.text raw) = Member.ofText raw := by
  rw [members]

theorem opened_of_fitsIn_list {around : List Tag} (hlist : .list ∈ around) {o : Opened}
    (h : o.tag.FitsIn around) : o = .entry ∨ ∃ c, o = .element (.conditional c) := by
  have hforbids := h.1 .list hlist
  rcases o with (_ | _ | c | name) | _
  · cases hforbids
  · cases hforbids
  · exact .inr ⟨c, rfl⟩
  · cases hforbids
  · exact .inl rfl

mutual
theorem members_node {around : List Tag} (hlist : .list ∈ around) (b : Branch)
    (h : b.Nested around) (offset : Nat) :
    ((b.node offset).descendants.flatMap Member.ofNode).map Member.bare = b.members := by
  cases b with
  | text raw =>
    rw [node, Node.descendants, members_text, Member.ofText]
    simp [Member.ofNode, Member.bare]
  | var s attributes sc path =>
    rw [Nested] at h
    exact absurd (h.1.1 .list hlist) (by simp [Tag.forbids])
  | single s attributes o =>
    rw [Nested] at h
    rw [node]
    rcases opened_of_fitsIn_list hlist h.1 with rfl | ⟨c, rfl⟩
    · simp [members, Node.ofOpened, Node.descendants, Member.ofNode, Member.bare]
    · simp [members, Node.ofOpened, Node.descendants, Node.descendantsOfAll, Member.ofNode]
  | block s attributes o c content =>
    rw [Nested] at h
    obtain ⟨hfit, -, hcontent⟩ := h
    rw [node]
    rcases opened_of_fitsIn_list hlist hfit with rfl | ⟨c, rfl⟩
    · simp [members, Node.ofOpened, Node.descendants, Member.ofNode, Member.bare,
        flatMap_rawText hcontent]
    · have ih := members_nodes (List.mem_cons_of_mem _ hlist) content hcontent
      simpa [members, Node.ofOpened, Node.descendants, Member.ofNode, Member.below] using ih _

theorem members_nodes {around : List Tag} (hlist : .list ∈ around) (bs : List Branch)
    (h : NestedAll around bs) (offset : Nat) :
    (Member.below (nodes offset bs)).map Member.bare = membersAll bs := by
  cases bs with
  | nil => simp
  | cons b bs =>
    obtain ⟨hb, hbs⟩ := nestedAll_cons.1 h
    rw [nodes_cons, Member.below_cons, List.map_append, members_node hlist b hb,
      members_nodes hlist bs hbs, membersAll_cons]
end

theorem ofNodes_eq_below {around : List Tag} (hlist : .list ∈ around) {bs : List Branch}
    (h : NestedAll around bs) {offset : Nat}
    (hcond : (nodes offset bs).any Node.isConditional = false) :
    Member.ofNodes (nodes offset bs) = Member.below (nodes offset bs) := by
  induction bs generalizing offset with
  | nil => simp [Member.ofNodes]
  | cons b bs ih =>
    obtain ⟨hb, hbs⟩ := nestedAll_cons.1 h
    rw [nodes_cons, List.any_cons, Bool.or_eq_false_iff] at hcond
    obtain ⟨hn, hns⟩ := hcond
    have hflat : (b.node offset).descendants = [b.node offset] := by
      cases b with
      | text raw => rw [node, Node.descendants]
      | var s attributes sc path => rw [node, Node.descendants]
      | single s attributes o =>
        rw [Nested] at hb
        rw [node] at hn ⊢
        rcases opened_of_fitsIn_list hlist hb.1 with rfl | ⟨c, rfl⟩
        · rw [Node.ofOpened, Node.descendants]
        · cases hn
      | block s attributes o c content =>
        rw [Nested] at hb
        rw [node] at hn ⊢
        rcases opened_of_fitsIn_list hlist hb.1 with rfl | ⟨c, rfl⟩
        · rw [Node.ofOpened, Node.descendants]
        · cases hn
    rw [nodes_cons, Member.below_cons, hflat, ← ih hbs hns]
    simp [Member.ofNodes]

end Branch

/-! ### The text of members -/

namespace Branch

/-- Texts in an item are one text, or none, and no `<` in it starts a tag. -/
theorem plain_of_spelled_item {around : List Tag} {bs : List Branch}
    (h : NestedAll (.item :: around) bs) (hs : Lexeme.Spelled ['<'] (lexemesAll bs)) :
    Plain (sourceAll bs) ['<'] := by
  rcases bs with _ | ⟨b, _ | ⟨b', bs⟩⟩
  · rw [sourceAll_nil]
    exact plain_nil _
  · obtain ⟨raw, rfl⟩ := exists_text_of_nested_item (nestedAll_cons.1 h).1
    simp only [lexemesAll_cons, lexemes, lexemesAll_nil, List.append_nil,
      Lexeme.spelled_text, Lexeme.sources_nil, List.nil_append] at hs
    simpa using hs.2.2.1
  · obtain ⟨hb, hbs⟩ := nestedAll_cons.1 h
    obtain ⟨raw, rfl⟩ := exists_text_of_nested_item hb
    obtain ⟨raw', rfl⟩ := exists_text_of_nested_item (nestedAll_cons.1 hbs).1
    simp only [lexemesAll_cons, lexemes, List.singleton_append, Lexeme.spelled_text] at hs
    exact absurd hs.2.1 (Lexeme.not_tagFirst_text _ _)

mutual
/-- No `<` of a member starts a tag before one. -/
theorem plain_of_mem_members {around : List Tag} {after : Text} (b : Branch)
    (h : b.Nested around) (rest : List Lexeme)
    (hs : Lexeme.Spelled after (b.lexemes ++ rest)) :
    (∀ m ∈ b.members, Plain m.text ['<']) ∧ Lexeme.Spelled after rest := by
  cases b with
  | text raw =>
    rw [lexemes, List.singleton_append] at hs
    refine ⟨?_, Lexeme.spelled_of_cons hs⟩
    intro m hm
    rw [members_text, Member.ofText] at hm
    obtain ⟨p, hp, rfl⟩ := List.mem_map.1 hm
    obtain ⟨-, -, hinfix, -⟩ := Prose.of_mem_split hp
    exact hs.2.2.1.of_isInfix hinfix (by decide) []
  | var s attributes sc path =>
    rw [lexemes, List.singleton_append] at hs
    refine ⟨?_, Lexeme.spelled_of_cons hs⟩
    intro m hm
    rw [members] at hm
    cases hm
  | single s attributes o =>
    rw [lexemes, List.singleton_append] at hs
    refine ⟨?_, Lexeme.spelled_of_cons hs⟩
    intro m hm
    rcases o with k | _
    · rw [members] at hm
      cases hm
    · rw [members] at hm
      rw [List.mem_singleton.1 hm]
      exact plain_nil _
  | block s attributes o c content =>
    rw [lexemes, List.cons_append, List.append_assoc] at hs
    obtain ⟨hcontent, -, hrest⟩ := Lexeme.spelled_append_tag.1 (Lexeme.spelled_of_cons hs)
    rw [Nested] at h
    refine ⟨?_, hrest⟩
    intro m hm
    rcases o with k | _
    · rw [members] at hm
      exact plain_of_mem_membersAll content h.2.2 hcontent m hm
    · rw [members] at hm
      rw [List.mem_singleton.1 hm]
      exact plain_of_spelled_item h.2.2 hcontent

theorem plain_of_mem_membersAll {around : List Tag} {after : Text} (bs : List Branch)
    (h : NestedAll around bs) (hs : Lexeme.Spelled after (lexemesAll bs)) :
    ∀ m ∈ membersAll bs, Plain m.text ['<'] := by
  cases bs with
  | nil =>
    intro m hm
    simp at hm
  | cons b bs =>
    obtain ⟨hb, hbs⟩ := nestedAll_cons.1 h
    rw [lexemesAll_cons] at hs
    obtain ⟨hplain, hrest⟩ := plain_of_mem_members b hb _ hs
    intro m hm
    rw [membersAll_cons] at hm
    rcases List.mem_append.1 hm with hm | hm
    · exact hplain m hm
    · exact plain_of_mem_membersAll bs hbs hrest m hm
end

end Branch

/-! ### Writing members -/

namespace Member

/-- A member that can be written: what is in its tags has no tag in it, and what is
    not in tags has no `<`. -/
def Writable (m : Member) : Prop := if m.tagged then Plain m.text ['<'] else '<' ∉ m.text

/-- Text that is no entry. -/
def loose (raw : Text) : Member := ⟨raw, false, none⟩

@[simp] theorem loose_tagged (raw : Text) : (loose raw).tagged = false := rfl

@[simp] theorem loose_text (raw : Text) : (loose raw).text = raw := rfl

@[simp] theorem markup_loose (raw : Text) : (loose raw).markup = raw := rfl

theorem writable_loose {raw : Text} (h : '<' ∉ raw) : (loose raw).Writable := by
  simpa [Writable] using h

/-- Entries and texts in a row make no other tags than those of the entries: no `<` starts
    one together with what follows it. -/
def PlainRow : List Member → Prop
  | [] => True
  | m :: ms =>
    Plain m.text (if m.tagged then ['<'] else ms.flatMap markup ++ ['<']) ∧ PlainRow ms

/-- What is read where entries and texts have been written in a row; `pending` is the
    text since the last entry. -/
def gathered (pending : Text) : List Member → List Member
  | [] => ofText pending
  | m :: ms =>
    if m.tagged then ofText pending ++ m.bare :: gathered [] ms
    else gathered (pending ++ m.text) ms

end Member

namespace Branch

/-- A text, unless it is empty. -/
def ofText (raw : Text) : List Branch := if raw = [] then [] else [.text raw]

/-- An entry as it is written. -/
def entry (t : Text) : Branch := .block "<item>".toList [] .entry "</item>".toList (ofText t)

/-- Entries and texts in a row, with the text between entries in one piece;
    `pending` is the text since the last entry. -/
def weave (pending : Text) : List Member → List Branch
  | [] => ofText pending
  | m :: ms =>
    if m.tagged then ofText pending ++ entry m.text :: weave [] ms
    else weave (pending ++ m.text) ms

@[simp] theorem sourceAll_ofText (raw : Text) : sourceAll (ofText raw) = raw := by
  by_cases h : raw = [] <;> simp [ofText, h]

theorem exists_node_entry (t : Text) (offset : Nat) :
    ∃ place, (entry t).node offset = .entry t place := by
  rw [entry, node, Node.ofOpened]
  by_cases hnil : t = []
  · subst hnil
    exact ⟨_, rfl⟩
  · simp [ofText, hnil, node, Node.rawText]

theorem sourceAll_weave (pending : Text) (ms : List Member) :
    sourceAll (weave pending ms) = pending ++ ms.flatMap Member.markup := by
  induction ms generalizing pending with
  | nil => simp [weave]
  | cons m ms ih =>
    rw [weave]
    by_cases h : m.tagged
    · simp [h, ih, entry, Member.markup]
    · simp [h, ih, Member.markup]

/-- Where members come from is not written. -/
theorem weave_map_bare (pending : Text) (ms : List Member) :
    weave pending (ms.map Member.bare) = weave pending ms := by
  induction ms generalizing pending with
  | nil => rfl
  | cons m ms ih =>
    rw [List.map_cons, weave, weave, Member.bare_tagged, Member.bare_text, ih, ih]

theorem membersAll_ofText (raw : Text) : membersAll (ofText raw) = Member.ofText raw := by
  by_cases h : raw = []
  · subst h
    simp [ofText, Member.ofText]
  · simp [ofText, h]

theorem members_entry (t : Text) : (entry t).members = [⟨t, true, none⟩] := by
  simp [entry, members]

theorem membersAll_weave (pending : Text) (ms : List Member) :
    membersAll (weave pending ms) = Member.gathered pending ms := by
  induction ms generalizing pending with
  | nil => exact membersAll_ofText pending
  | cons m ms ih =>
    rw [weave, Member.gathered]
    by_cases h : m.tagged
    · simp [h, ih, membersAll_ofText, members_entry, Member.bare]
    · simp [h, ih]

/-! ### The tags that are written -/

theorem readsAs_opening {name : Text} {tag : Tag} (h : Tag.ofName? name = some tag) :
    Lexeme.ReadsAs ('<' :: (name ++ ['>'])) (.opening tag [] false) := by
  have hend : TagText.readAttributes ['>'] = .ok ([], false, []) := by
    have hblanks : TagText.IsBlanks [] := by simp [TagText.IsBlanks]
    have h := TagText.readAttributes_end hblanks false []
    simpa using h
  have hname : TagText.readName? (name ++ ['>']) = some (false, tag, ['>']) := by
    have hends : TagText.endsName ['>'] := rfl
    simpa [TagText.slash] using TagText.readName?_name h false hends
  refine ⟨name ++ ['>'], rfl, ?_⟩
  simp only [readTag, hname, hend, TagText.tag_opening]

theorem readsAs_item : Lexeme.ReadsAs "<item>".toList (.opening .item [] false) :=
  readsAs_opening (show Tag.ofName? ['i', 't', 'e', 'm'] = some .item from rfl)

theorem readsAs_itemEnd : Lexeme.ReadsAs "</item>".toList (.closing .item) :=
  ⟨['/', 'i', 't', 'e', 'm', '>'], rfl, rfl⟩

theorem readsAs_listEnd : Lexeme.ReadsAs "</il>".toList (.closing .list) :=
  ⟨['/', 'i', 'l', '>'], rfl, rfl⟩

theorem fitsIn_item {around : List Tag} (h : Tag.list.FitsIn around) :
    Tag.item.FitsIn (.list :: around) := by
  refine ⟨fun parent hparent => ?_, fun _ => List.mem_cons_self⟩
  rcases List.mem_cons.1 hparent with rfl | hparent
  · rfl
  · have hlist := h.1 parent hparent
    cases parent <;> first | rfl | cases hlist

theorem nestedAll_ofText (around : List Tag) (raw : Text) : NestedAll around (ofText raw) := by
  by_cases h : raw = [] <;> simp [ofText, h, Nested]

theorem nestedAll_weave {around : List Tag} (h : Tag.item.FitsIn around) (pending : Text)
    (ms : List Member) : NestedAll around (weave pending ms) := by
  induction ms generalizing pending with
  | nil => exact nestedAll_ofText around pending
  | cons m ms ih =>
    rw [weave]
    by_cases hm : m.tagged
    · have hentry : (entry m.text).Nested around := by
        rw [entry, Nested]
        exact ⟨h, fun _ => rfl, nestedAll_ofText _ _⟩
      simp [hm, nestedAll_ofText, hentry, ih]
    · simpa [hm] using ih _

theorem spelled_ofText {raw : Text} (h : Plain raw ['<']) :
    Lexeme.Spelled ['<'] (lexemesAll (ofText raw)) := by
  by_cases hnil : raw = []
  · simp [ofText, hnil]
  · simp [ofText, hnil, lexemes, h]

theorem spelled_weave {pending : Text} {ms : List Member}
    (hpending : Plain pending (ms.flatMap Member.markup ++ ['<'])) (h : Member.PlainRow ms) :
    Lexeme.Spelled ['<'] (lexemesAll (weave pending ms)) := by
  induction ms generalizing pending with
  | nil => exact spelled_ofText hpending
  | cons m ms ih =>
    obtain ⟨hm, hms⟩ := h
    rw [List.flatMap_cons, List.append_assoc, Member.markup] at hpending
    rw [weave]
    by_cases htagged : m.tagged
    · rw [if_pos htagged] at hm hpending
      rw [if_pos htagged, lexemesAll_append, lexemesAll_cons, entry, lexemes, List.cons_append,
        List.append_assoc]
      refine Lexeme.spelled_append_tag.2 ⟨spelled_ofText ((plain_lt_iff _).1 hpending),
        readsAs_item, Lexeme.spelled_append_tag.2 ⟨spelled_ofText hm, readsAs_itemEnd, ?_⟩⟩
      exact ih (plain_nil _) hms
    · rw [if_neg htagged] at hm hpending
      rw [if_neg htagged]
      exact ih (plain_append.2 ⟨hpending, hm⟩) hms

end Branch

/-! ### Enumerations of members -/

namespace Member

/-- The members behind the first of three or more, with what stands before each. -/
def enumeratedTail : List Member → List Member
  | [] => []
  | [m] => [loose ", and ".toList, m]
  | m :: ms => loose ", ".toList :: m :: enumeratedTail ms

/-- Members with the connectors between them. -/
def enumerated : List Member → List Member
  | [] => []
  | [m] => [m]
  | [m, m'] => [m, loose " and ".toList, m']
  | m :: ms => m :: enumeratedTail ms

theorem enumeratedTail_cons (m m' : Member) (ms : List Member) :
    enumeratedTail (m :: m' :: ms) =
      loose ", ".toList :: m :: enumeratedTail (m' :: ms) := by
  rw [enumeratedTail]
  simp

theorem enumerated_cons (m m' m'' : Member) (ms : List Member) :
    enumerated (m :: m' :: m'' :: ms) = m :: enumeratedTail (m' :: m'' :: ms) := by
  rw [enumerated]
  · simp
  · simp

/-- What stands behind the first member does not depend on it. -/
theorem exists_enumerated_cons (ms : List Member) :
    ∃ rest, ∀ m, enumerated (m :: ms) = m :: rest := by
  match ms with
  | [] => exact ⟨_, fun _ => rfl⟩
  | [m'] => exact ⟨_, fun _ => rfl⟩
  | m' :: m'' :: ms =>
    refine ⟨enumeratedTail (m' :: m'' :: ms), ?_⟩
    intro m
    rw [enumerated_cons]

theorem enumeratedTail_map_bare (ms : List Member) :
    enumeratedTail (ms.map bare) = (enumeratedTail ms).map bare := by
  induction ms with
  | nil => rfl
  | cons m ms ih =>
    cases ms with
    | nil => rfl
    | cons m' ms =>
      rw [List.map_cons] at ih
      rw [List.map_cons, List.map_cons, enumeratedTail_cons, ih, enumeratedTail_cons]
      rfl

theorem enumerated_map_bare (ms : List Member) :
    enumerated (ms.map bare) = (enumerated ms).map bare := by
  match ms with
  | [] | [_] | [_, _] => rfl
  | m :: m' :: m'' :: ms =>
    have htail := enumeratedTail_map_bare (m' :: m'' :: ms)
    rw [List.map_cons, List.map_cons] at htail
    rw [List.map_cons, List.map_cons, List.map_cons, enumerated_cons, htail, enumerated_cons]
    rfl

theorem flatMap_markup_enumeratedTail (ms : List Member) :
    (enumeratedTail ms).flatMap markup =
      Prose.behindFirst [',', ' '] ", and ".toList (ms.map markup) := by
  induction ms with
  | nil => rfl
  | cons m ms ih =>
    cases ms with
    | nil =>
      simp only [enumeratedTail, List.flatMap_cons, List.flatMap_nil, markup_loose, List.map_cons,
        List.map_nil, Prose.behindFirst, List.append_nil]
    | cons m' ms =>
      rw [enumeratedTail_cons, List.flatMap_cons, List.flatMap_cons, ih, markup_loose]
      rfl

theorem flatMap_markup_enumerated (ms : List Member) :
    (enumerated ms).flatMap markup = joined ms := by
  match ms with
  | [] => rfl
  | [m] =>
    simp only [enumerated, joined, Prose.join, List.flatMap_cons, List.flatMap_nil, List.map_cons,
      List.map_nil, List.append_nil]
  | [m, m'] =>
    simp only [enumerated, joined, Prose.join, List.flatMap_cons, List.flatMap_nil, List.map_cons,
      List.map_nil, List.append_nil, markup_loose, List.append_assoc]
  | m :: m' :: m'' :: ms =>
    rw [enumerated_cons, List.flatMap_cons, flatMap_markup_enumeratedTail]
    exact (Prose.join_eq_behindFirst _ _ _ _).symm

theorem mem_enumeratedTail {m : Member} {ms : List Member} (h : m ∈ enumeratedTail ms) :
    m ∈ ms ∨ m = loose ", and ".toList ∨ m = loose ", ".toList := by
  induction ms with
  | nil => cases h
  | cons m' ms ih =>
    cases ms with
    | nil =>
      simp only [enumeratedTail, List.mem_cons, List.not_mem_nil, or_false] at h ⊢
      exact h.elim (fun h => .inr (.inl h)) .inl
    | cons m'' ms =>
      rw [enumeratedTail_cons, List.mem_cons, List.mem_cons] at h
      rcases h with h | h | h
      · exact .inr (.inr h)
      · exact .inl (h ▸ List.mem_cons_self)
      · exact (ih h).imp_left (List.mem_cons_of_mem _)

theorem mem_enumerated {m : Member} {ms : List Member} (h : m ∈ enumerated ms) :
    m ∈ ms ∨ ∃ connector ∈ [", and ".toList, ", ".toList, " and ".toList], m = loose connector := by
  match ms with
  | [] => cases h
  | [m₁] => exact .inl h
  | [m₁, m₂] =>
    simp only [enumerated, List.mem_cons, List.not_mem_nil, or_false] at h ⊢
    rcases h with h | h | h
    · exact .inl (.inl h)
    · exact .inr ⟨_, .inr (.inr rfl), h⟩
    · exact .inl (.inr h)
  | m₁ :: m₂ :: m₃ :: ms =>
    rw [enumerated_cons, List.mem_cons] at h
    rcases h with h | h
    · exact .inl (h ▸ List.mem_cons_self)
    · rcases mem_enumeratedTail h with h | h | h
      · exact .inl (List.mem_cons_of_mem _ h)
      · exact .inr ⟨_, by simp, h⟩
      · exact .inr ⟨_, by simp, h⟩

theorem lt_not_mem_connector {connector : Text}
    (h : connector ∈ [", and ".toList, ", ".toList, " and ".toList]) : '<' ∉ connector := by
  intro hlt
  simp only [List.mem_cons, List.not_mem_nil, or_false] at h
  rcases h with rfl | rfl | rfl <;> exact absurd hlt (by decide)

theorem plainRow_of_writable {ms : List Member} (h : ∀ m ∈ ms, m.Writable) :
    PlainRow (enumerated ms) := by
  have hrow {row : List Member} (hw : ∀ m ∈ row, m.Writable) : PlainRow row := by
    induction row with
    | nil => trivial
    | cons m row ih =>
      have hm := hw m List.mem_cons_self
      refine ⟨?_, ih fun m' hm' => hw m' (List.mem_cons_of_mem _ hm')⟩
      rw [Writable] at hm
      by_cases htagged : m.tagged
      · rw [if_pos htagged] at hm ⊢
        exact hm
      · rw [if_neg htagged] at hm ⊢
        exact plain_of_not_mem hm _
  apply hrow
  intro m hm
  rcases mem_enumerated hm with hm | ⟨connector, hconnector, rfl⟩
  · exact h m hm
  · exact writable_loose (lt_not_mem_connector hconnector)

theorem plainRow_loose {raw : Text} (h : '<' ∉ raw) {ms : List Member} :
    PlainRow (loose raw :: ms) ↔ PlainRow ms :=
  and_iff_right (plain_of_not_mem h _)

theorem plainRow_tagged {m : Member} (h : m.tagged = true) {ms : List Member} :
    PlainRow (m :: ms) ↔ Plain m.text ['<'] ∧ PlainRow ms := by
  rw [PlainRow, if_pos h]

theorem plainRow_singleton {m : Member} (h : Plain m.text ['<']) : PlainRow [m] := by
  refine ⟨?_, trivial⟩
  split
  · exact h
  · exact h

theorem plainRow_untagged {m : Member} (h : m.tagged = false) {ms : List Member} :
    PlainRow (m :: ms) ↔ Plain m.text (ms.flatMap markup ++ ['<']) ∧ PlainRow ms := by
  rw [PlainRow, if_neg (by simp [h])]

/-- A comma or the end of the list behind a member makes no tag with it. -/
theorem plainRow_cons_enumeratedTail {m : Member} {ms : List Member} (hm : Plain m.text ['<'])
    (hms : PlainRow (enumeratedTail ms)) : PlainRow (m :: enumeratedTail ms) := by
  rcases htagged : m.tagged with _ | _
  · refine (plainRow_untagged htagged).2 ⟨?_, hms⟩
    rw [flatMap_markup_enumeratedTail]
    rcases ms.map markup with _ | ⟨t, _ | ⟨t', ts⟩⟩
    · exact hm
    · exact hm.breaksName (c := ',') (by decide) _
    · exact hm.breaksName (c := ',') (by decide) _
  · exact (plainRow_tagged htagged).2 ⟨hm, hms⟩

theorem plainRow_enumeratedTail {ms : List Member} (h : ∀ m ∈ ms, Plain m.text ['<']) :
    PlainRow (enumeratedTail ms) := by
  induction ms with
  | nil => trivial
  | cons m ms ih =>
    have hm := h m List.mem_cons_self
    have hms := ih fun m' hm' => h m' (List.mem_cons_of_mem _ hm')
    cases ms with
    | nil =>
      rw [enumeratedTail]
      exact (plainRow_loose (by decide)).2 (plainRow_singleton hm)
    | cons m' ms =>
      rw [enumeratedTail_cons]
      exact (plainRow_loose (by decide)).2 (plainRow_cons_enumeratedTail hm hms)

/-- Two members of which the first is a text that ends in the name of a tag: the `and`
    between them makes it the start of one. -/
def FormsTag : List Member → Prop
  | [m, _] => m.tagged = false ∧ EndsInTagName m.text
  | _ => False

/-- An enumeration makes other tags than its own only if it has two members and the first
    becomes the start of one. -/
theorem plainRow_enumerated {ms : List Member} (h : ∀ m ∈ ms, Plain m.text ['<'])
    (hforms : ¬FormsTag ms) : PlainRow (enumerated ms) := by
  match ms with
  | [] => trivial
  | [m] => exact plainRow_singleton (h m List.mem_cons_self)
  | [m, m'] =>
    have hm := h m List.mem_cons_self
    have hm' := h m' (List.mem_cons_of_mem _ List.mem_cons_self)
    have hrest : PlainRow [loose " and ".toList, m'] :=
      (plainRow_loose (by decide)).2 (plainRow_singleton hm')
    rw [enumerated]
    rcases htagged : m.tagged with _ | _
    · refine (plainRow_untagged htagged).2 ⟨?_, hrest⟩
      rw [List.flatMap_cons, markup_loose]
      exact hm.blank (fun hends => hforms ⟨htagged, hends⟩) (c := ' ') (by decide) _
    · exact (plainRow_tagged htagged).2 ⟨hm, hrest⟩
  | m :: m' :: m'' :: ms =>
    rw [enumerated_cons]
    exact plainRow_cons_enumeratedTail (h m List.mem_cons_self)
      (plainRow_enumeratedTail fun m' hm' => h m' (List.mem_cons_of_mem _ hm'))

/-! ### Reading enumerations -/

theorem ofText_phrase {p : Text} (h : Prose.IsPhrase p) : ofText p = [loose p] := by
  rw [ofText, h]
  rfl

theorem ofText_blanks {raw : Text} (h : ∀ c ∈ raw, Text.isBlank c) : ofText raw = [] := by
  rw [ofText, Prose.split_blanks h]
  rfl

@[simp] theorem ofText_nil : ofText [] = [] := ofText_blanks (by simp)

@[simp] theorem gathered_nil (pending : Text) : gathered pending [] = ofText pending := rfl

theorem gathered_nil_append (pending : Text) : gathered pending [] = ofText pending ++ [] := by
  rw [gathered_nil, List.append_nil]

theorem gathered_tagged {m : Member} (h : m.tagged = true) (pending : Text) (ms : List Member) :
    gathered pending (m :: ms) = ofText pending ++ m.bare :: gathered [] ms := by
  rw [gathered, if_pos h]

theorem gathered_untagged {m : Member} (h : m.tagged = false) (pending : Text)
    (ms : List Member) : gathered pending (m :: ms) = gathered (pending ++ m.text) ms := by
  rw [gathered, if_neg (by simp [h])]

theorem bare_of_not_tagged {m : Member} (h : m.tagged = false) : m.bare = loose m.text := by
  obtain ⟨text, tagged, source⟩ := m
  subst h
  rfl

theorem gathered_comma (a b : Text) (ms : List Member) :
    gathered (a ++ ',' :: b) ms = ofText a ++ gathered b ms := by
  induction ms generalizing b with
  | nil => simp [ofText, Prose.split_append_comma]
  | cons m ms ih =>
    rcases h : m.tagged with _ | _
    · rw [gathered_untagged h, gathered_untagged h, List.append_assoc, List.cons_append]
      exact ih _
    · rw [gathered_tagged h, gathered_tagged h]
      simp [ofText, Prose.split_append_comma]

/-- Text that is nothing by itself and leaves a phrase behind it alone. -/
def IsLead (a : Text) : Prop :=
  ofText a = [] ∧ ∀ p, Prose.IsPhrase p → ofText (a ++ p) = [loose p]

theorem isLead_nil : IsLead [] := ⟨ofText_nil, fun _ => ofText_phrase⟩

theorem isLead_blank : IsLead [' '] := by
  refine ⟨ofText_blanks (List.forall_mem_singleton.2 rfl), ?_⟩
  intro p hp
  rw [ofText, List.singleton_append, Prose.split_cons_blank (by decide), ← ofText, ofText_phrase hp]

theorem isLead_and : IsLead " and ".toList := by
  constructor
  · rw [ofText, Prose.split_andWord]
    rfl
  · intro p hp
    obtain ⟨hne, hcomma, hstart, hend, -, hinner⟩ := Prose.isPhrase_iff.1 hp
    have htrim : Text.trimmed? p = some p :=
      Text.trimmed?_eq_some.2 ⟨Text.trim_eq_self hstart hend, hne⟩
    rw [ofText, Prose.split_and_append hstart hcomma, hinner, List.filterMap_cons_some htrim]
    rfl

theorem ofText_append_and {p q : Text} (hp : Prose.IsPhrase p)
    (hstart : Text.NotStarting Text.isBlank q) (hcomma : ',' ∉ q) :
    ofText (p ++ " and ".toList ++ q) = loose p :: ofText (" and ".toList ++ q) := by
  rw [ofText, Prose.split_append_and hp hstart hcomma]
  rfl

/-- A member behind a lead, if what follows ends the text of the member. -/
theorem gathered_lead {a : Text} (ha : IsLead a) {m : Member}
    (hm : m.tagged = false → Prose.IsPhrase m.text) {rest found : List Member}
    (hrest : ∀ pending, gathered pending rest = ofText pending ++ found) :
    gathered a (m :: rest) = m.bare :: found := by
  rcases h : m.tagged with _ | _
  · rw [gathered_untagged h, hrest, ha.2 _ (hm h), bare_of_not_tagged h]
    rfl
  · rw [gathered_tagged h, hrest, ha.1, ofText_nil]
    rfl

theorem gathered_enumeratedTail {ms : List Member} (hne : ms ≠ [])
    (h : ∀ m ∈ ms, m.tagged = false → Prose.IsPhrase m.text) (pending : Text) :
    gathered pending (enumeratedTail ms) = ofText pending ++ ms.map bare := by
  induction ms generalizing pending with
  | nil => exact absurd rfl hne
  | cons m ms ih =>
    have hm := h m List.mem_cons_self
    have hms := fun m' hm' => h m' (List.mem_cons_of_mem _ hm')
    cases ms with
    | nil =>
      rw [enumeratedTail, gathered_untagged rfl]
      show gathered (pending ++ ',' :: " and ".toList) [m] = _
      rw [gathered_comma, gathered_lead isLead_and hm gathered_nil_append]
      rfl
    | cons m' ms =>
      rw [enumeratedTail_cons, gathered_untagged rfl]
      show gathered (pending ++ ',' :: [' ']) _ = _
      rw [gathered_comma, gathered_lead isLead_blank hm (ih (by simp) hms)]
      rfl

/-- **Reading an enumeration gives its members back**, if its untagged members are
    phrases. -/
theorem gathered_enumerated {ms : List Member}
    (h : ∀ m ∈ ms, m.tagged = false → Prose.IsPhrase m.text) :
    gathered [] (enumerated ms) = ms.map bare := by
  match ms with
  | [] => exact ofText_nil
  | [m] => exact gathered_lead isLead_nil (h m List.mem_cons_self) gathered_nil_append
  | [m, m'] =>
    have hm := h m List.mem_cons_self
    have hm' := h m' (List.mem_cons_of_mem _ List.mem_cons_self)
    rw [enumerated]
    rcases htagged : m.tagged with _ | _
    · -- the connecting word stands behind a phrase, not behind a tag
      rw [gathered_untagged htagged, gathered_untagged rfl, List.nil_append, loose_text]
      rcases htagged' : m'.tagged with _ | _
      · have hphrase' := hm' htagged'
        obtain ⟨-, hcomma, hstart, -⟩ := Prose.isPhrase_iff.1 hphrase'
        rw [gathered_untagged htagged', gathered_nil, ofText_append_and (hm htagged) hstart hcomma,
          isLead_and.2 _ hphrase', List.map_cons, List.map_cons, bare_of_not_tagged htagged,
          bare_of_not_tagged htagged']
        rfl
      · have hsplit := ofText_append_and (hm htagged) (q := []) (by simp) (by simp)
        rw [List.append_nil, List.append_nil, isLead_and.1] at hsplit
        rw [gathered_tagged htagged', gathered_nil, ofText_nil, hsplit, List.map_cons,
          List.map_cons, bare_of_not_tagged htagged]
        rfl
    · rw [gathered_tagged htagged, gathered_untagged rfl, ofText_nil, List.nil_append,
        List.nil_append, loose_text, gathered_lead isLead_and hm' gathered_nil_append]
      rfl
  | m :: m' :: m'' :: ms =>
    have hm := h m List.mem_cons_self
    have hms := fun m' hm' => h m' (List.mem_cons_of_mem _ hm')
    rw [enumerated_cons]
    exact gathered_lead isLead_nil hm (gathered_enumeratedTail (by simp) hms)

end Member

end Scenery
