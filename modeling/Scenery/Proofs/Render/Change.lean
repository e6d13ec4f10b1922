/-
  Scenery/Proofs/Render/Change.lean
  =================================
  **A change of a list as the reader sees it.**  A member that enters or leaves a list is
  seen in one sentence (`reader_of_structural_change`): the template asks for the same
  paths and has the same faults, and of its units only that of the sentence around the
  list can be another one.  There the list says its new members, and the copula next to
  it may take another form (`Agreed`).
-/
import Scenery.Proofs.ItemList.Members
import Scenery.Proofs.Render.Elision
import Scenery.Proofs.Render.Sentence

namespace Scenery

namespace Render

/-- A copula is the last word of a text: it starts at a boundary, and only blanks stand
    behind it. -/
structure CopulaLast (u word blanks : Text) : Prop where
  form : Prose.IsCopula word
  apart : Text.endsApart u
  blanks_ne : blanks ≠ []
  blanks : ∀ c ∈ blanks, Text.isBlank c

/-- A copula is the first word of a text: only blanks stand before it, and it ends at a
    boundary. -/
structure CopulaFirst (blanks word u : Text) : Prop where
  form : Prose.IsCopula word
  apart : Text.startsApart u
  blanks_ne : blanks ≠ []
  blanks : ∀ c ∈ blanks, Text.isBlank c

/-- What is said before and behind a list, with another form of the copula next to the
    list if that has changed. -/
inductive Agreed : List Part → List Part → List Part → List Part → Prop where
  | same (before behind : List Part) : Agreed before behind before behind
  | before {u word blanks : Text} (ps behind : List Part) (plural : Bool) :
    CopulaLast u word blanks →
    Agreed (ps ++ [.words (u ++ (word ++ blanks))]) behind
      (ps ++ [.words (u ++ (Prose.agree word plural ++ blanks))]) behind
  | behind {blanks word u : Text} (before ps : List Part) (plural : Bool) :
    CopulaFirst blanks word u →
    Agreed before (.words (blanks ++ (word ++ u)) :: ps)
      before (.words (blanks ++ (Prose.agree word plural ++ u)) :: ps)

theorem Agreed.among {before behind before' behind' : List Part}
    (h : Agreed before behind before' behind') (xs ys : List Part) :
    Agreed (xs ++ before) (behind ++ ys) (xs ++ before') (behind' ++ ys) := by
  cases h with
  | same => exact .same _ _
  | before ps _ plural hlast =>
    have hframe := Agreed.before (xs ++ ps) (behind ++ ys) plural hlast
    simp only [List.append_assoc] at hframe ⊢
    exact hframe
  | behind _ ps plural hfirst => exact .behind _ _ plural hfirst

end Render

open Branch Layer Node Render ListChange

/-! ### The texts next to a list -/

namespace Setting

/-- The same setting, with another form of the copula next to the element if that has
    changed. -/
inductive Reagreed : Setting → Setting → Prop where
  | same (w : Setting) : Reagreed w w
  | before {u word blanks : Text} (layers : List Layer) (left right : List Branch)
    (plural : Bool) : CopulaLast u word blanks →
    Reagreed ⟨layers, left ++ [.text (u ++ (word ++ blanks))], right⟩
      ⟨layers, left ++ [.text (u ++ (Prose.agree word plural ++ blanks))], right⟩
  | behind {blanks word u : Text} (layers : List Layer) (left right : List Branch)
    (plural : Bool) : CopulaFirst blanks word u →
    Reagreed ⟨layers, left, .text (blanks ++ (word ++ u)) :: right⟩
      ⟨layers, left, .text (blanks ++ (Prose.agree word plural ++ u)) :: right⟩

variable {w w' : Setting}

theorem Reagreed.layers (h : Reagreed w w') : w'.layers = w.layers := by
  cases h <;> rfl

/-- Texts ask for nothing. -/
theorem Reagreed.queriesAll (h : Reagreed w w') (test : Condition → Bool) :
    queriesAll test (nodes 0 w'.left) = queriesAll test (nodes 0 w.left) ∧
      queriesAll test (nodes 0 w'.right) = queriesAll test (nodes 0 w.right) := by
  cases h with
  | same => exact ⟨rfl, rfl⟩
  | before layers left right plural =>
    refine ⟨?_, rfl⟩
    rw [queriesAll_append_cons, queriesAll_append_cons]
    rfl
  | behind layers left right plural =>
    refine ⟨rfl, ?_⟩
    rw [nodes_cons, nodes_cons, queriesAll_cons, queriesAll_cons, queriesAll_nodes right,
      ← queriesAll_nodes right]
    rfl

theorem Reagreed.agreed (h : Reagreed w w') (ctx : Context) :
    Agreed (partsAll ctx (nodes 0 w.left)) (partsAll ctx (nodes 0 w.right))
      (partsAll ctx (nodes 0 w'.left)) (partsAll ctx (nodes 0 w'.right)) := by
  have hcons (raw : Text) (right : List Branch) :
      partsAll ctx (nodes 0 (.text raw :: right)) =
        .words raw :: partsAll ctx (nodes 0 right) := by
    rw [nodes_cons, partsAll, partsAll_nodes right]
    rfl
  have hconcat (left : List Branch) (raw : Text) :
      partsAll ctx (nodes 0 (left ++ [.text raw])) =
        partsAll ctx (nodes 0 left) ++ [.words raw] := by
    rw [partsAll_append_cons]
    rfl
  cases h with
  | same => exact .same _ _
  | before layers left right plural hlast =>
    rw [hconcat, hconcat]
    exact .before _ _ plural hlast
  | behind layers left right plural hfirst =>
    rw [hcons, hcons]
    exact .behind _ _ plural hfirst

end Setting

/-! ### The list itself -/

/-- The texts of the members of a list, trimmed, without the blank ones. -/
def ListSite.texts (s : ListSite) : List Text :=
  (Member.ofNodes s.children).filterMap fun m => Text.trimmed? m.text

namespace Branch

/-- A list without conditions asks for nothing. -/
theorem queriesAll_of_no_conditional {around : List Tag} (hlist : .list ∈ around)
    {bs : List Branch} (h : NestedAll around bs) (hcond : bs.any isConditional = false)
    (test : Condition → Bool) (offset : Nat) : queriesAll test (nodes offset bs) = [] := by
  induction bs generalizing offset with
  | nil => rfl
  | cons b bs ih =>
    obtain ⟨hb, hbs⟩ := nestedAll_cons.1 h
    rw [List.any_cons, Bool.or_eq_false_iff] at hcond
    have hnone : (b.node offset).queries test = [] := by
      cases b with
      | text raw => rfl
      | var s attributes sc path =>
        rw [Nested] at hb
        exact absurd (hb.1.1 .list hlist) (by simp [Tag.forbids])
      | single s attributes o | block s attributes o c content =>
        rw [Nested] at hb
        rcases opened_of_fitsIn_list hlist hb.1 with rfl | ⟨condition, rfl⟩
        · rfl
        · cases hcond.1
    rw [nodes_cons, queriesAll_cons, hnone, ih hbs hcond.2]
    rfl

variable {b : Branch} {around : List Tag}

theorem listContent_children (hb : b.IsList) (h : b.Stands around) (offset : Nat) :
    ListContent (b.node offset).children := by
  obtain ⟨hnested, hspelled⟩ := content_of_stands hb h
  rw [children_node hb]
  exact ⟨around, _, _, rfl, hnested, hspelled⟩

theorem queries_of_isList (hb : b.IsList) (h : b.Stands around)
    (hcond : b.content.any isConditional = false) (test : Condition → Bool) (offset : Nat) :
    (b.node offset).queries test = [] := by
  rw [SentenceSetting.node_of_isList hb, queries_list, children_node hb]
  exact queriesAll_of_no_conditional List.mem_cons_self (content_of_stands hb h).1 hcond test _

/-- A list without conditions says its members, but for blank ones. -/
theorem parts_of_isList (hb : b.IsList) (h : b.Stands around)
    (hcond : b.content.any isConditional = false) (ctx : Context) (offset : Nat) :
    parts ctx (b.node offset) =
      [.members ((Member.ofNodes (b.node offset).children).filterMap
        fun m => Text.trimmed? m.text)] := by
  have hcontent := listContent_children hb h offset
  have hnone : (b.node offset).children.any Node.isConditional = false := by
    rw [children_node hb, any_isConditional_nodes, hcond]
  have hmembers := listMembers_of_content hcontent hnone ctx
  rw [listMembers_eq_answer hcontent] at hmembers
  rw [SentenceSetting.node_of_isList hb, parts, (answer_eq_ok.1 hmembers).2]
  rfl

end Branch

/-! ### What a sentence says around a list -/

namespace SentenceSetting

variable (p : SentenceSetting)

/-- The sentence with something else in it. -/
def holding (inner : Setting) : SentenceSetting := { p with inner }

theorem partsAll_content (b : Branch) (ctx : Context) :
    partsAll ctx (p.content b) = partsAll ctx (nodes 0 (p.inner.fill b)) :=
  partsAll_nodes _ p.start ctx

variable {p}

/-- Outside of the sentence a template says the same whatever the sentence holds. -/
theorem exists_passages (hp : p.Proper) (ctx : Context) :
    ∃ before behind, ∀ inner b size,
      passages ctx (root size (nodes 0 ((p.holding inner).setting.fill b))) =
        before ++ ((if p.outer.lets (Condition.holds ctx) then
          [.sentence (partsAll ctx (nodes 0 (inner.fill b)))] else []) ++ behind) := by
  obtain ⟨before, behind, hframe⟩ := (framed_fillAll ctx p.outer.left p.outer.right hp.outer).2
  refine ⟨before, behind, ?_⟩
  intro inner b size
  have hsentence : passages ctx (((p.holding inner).sentence b).node 0) =
      [.sentence (partsAll ctx (nodes 0 (inner.fill b)))] := by
    rw [sentence, node, ← partsAll_nodes _ (0 + Text.bytes p.source)]
    rfl
  have hrow := hframe ((p.holding inner).sentence b) ((p.holding inner).isSentence b)
  dsimp only at hrow
  rw [hsentence] at hrow
  obtain ⟨place, hroot⟩ := exists_root size (nodes 0 ((p.holding inner).setting.fill b))
  rw [hroot, passages, fill_setting]
  exact hrow

/-- In the sentence, what stands around the list is the same whatever is next to it. -/
theorem exists_parts (hp : p.Proper) (ctx : Context) :
    ∃ before behind, ∀ left right b,
      partsAll ctx (nodes 0 ((⟨p.inner.layers, left, right⟩ : Setting).fill b)) =
        before ++ ((if p.inner.lets (Condition.holds ctx) then
          partsAll ctx (nodes 0 left) ++ (parts ctx (b.node 0) ++ partsAll ctx (nodes 0 right))
          else []) ++ behind) := by
  obtain ⟨before, behind, hframe⟩ := exists_partsAll_fillAll ctx hp.inner
  refine ⟨before, behind, ?_⟩
  intro left right b
  rw [Setting.fill, hframe, partsAll_append_cons]
  rfl

end SentenceSetting

/-- A list in a sentence before and after its members have been written anew. -/
structure Rewritten (list : Option Text) (p : SentenceSetting) (v : Setting) (b b' : Branch) :
    Prop where
  found : Found list p.setting b
  found' : Found list (p.holding v).setting b'
  reagreed : Setting.Reagreed p.inner v
  unconditional : b.content.any Branch.isConditional = false
  unconditional' : b'.content.any Branch.isConditional = false

namespace Rewritten

open SentenceSetting

variable {list : Option Text} {p : SentenceSetting} {v : Setting} {b b' : Branch}

theorem proper (h : Rewritten list p v b b') : p.Proper :=
  proper_of_nested h.found.isList h.found.written.2

theorem parse (h : Rewritten list p v b b') : Node.parse (p.template b) = .ok (p.tree b) :=
  parse_sourceAll h.found.written

theorem parse' (h : Rewritten list p v b b') :
    Node.parse ((p.holding v).template b') = .ok ((p.holding v).tree b') :=
  parse_sourceAll h.found'.written

/-- What is asked of the context stays the same. -/
theorem queries (h : Rewritten list p v b b') (test : Condition → Bool) :
    ((p.holding v).tree b').queries test = (p.tree b).queries test := by
  have hlayers : (p.holding v).setting.layers = p.setting.layers := by
    show p.outer.layers ++ p.layer :: v.layers = _
    rw [h.reagreed.layers]
    rfl
  have hb := queries_of_isList h.found.isList h.found.stands h.unconditional test 0
  have hb' := queries_of_isList h.found'.isList h.found'.stands h.unconditional' test 0
  obtain ⟨hleft, hright⟩ := h.reagreed.queriesAll test
  rw [SentenceSetting.tree, queries_root, SentenceSetting.tree, queries_root, Setting.fill,
    Setting.fill, hlayers]
  apply queriesAll_fillAll
  rw [queriesAll_append_cons, queriesAll_append_cons, hb, hb']
  show queriesAll test (nodes 0 v.left) ++ ([] ++ queriesAll test (nodes 0 v.right)) = _
  rw [hleft, hright]
  rfl

theorem faults (h : Rewritten list p v b b') (ctx : Context) :
    ((p.holding v).tree b').faults ctx = (p.tree b).faults ctx := by
  rw [Node.faults, h.queries, Node.faults]

theorem paths (h : Rewritten list p v b b') : ((p.holding v).tree b').paths = (p.tree b).paths := by
  rw [paths_eq_map_queries, h.queries, paths_eq_map_queries]

/-- **The units stay the same**, but for the one that the sentence makes. -/
theorem units (h : Rewritten list p v b b') {ctx : Context} {us : List Text}
    (hus : Render.units ctx (p.tree b) = .ok us) :
    ∃ us', Render.units ctx ((p.holding v).tree b') = .ok us' ∧
      (p.outer.lets (Condition.holds ctx) = false → us' = us) ∧
      (p.outer.lets (Condition.holds ctx) = true → ∃ before after,
        us = before ++ ((unit? (partsAll ctx (p.content b))).toList ++ after) ∧
        us' = before ++ ((unit? (partsAll ctx ((p.holding v).content b'))).toList ++ after)) := by
  rw [units_eq h.parse, answer_eq_ok] at hus
  obtain ⟨hnone, rfl⟩ := hus
  obtain ⟨before, behind, hframe⟩ := exists_passages h.proper ctx
  have hold : passages ctx (p.tree b) = _ := hframe p.inner b _
  have hnew : passages ctx ((p.holding v).tree b') = _ := hframe v b' _
  refine ⟨layout (passages ctx ((p.holding v).tree b')), ?_, ?_, ?_⟩
  · rw [units_eq h.parse', h.faults, hnone, answer_nil]
  · intro hlets
    rw [hnew, hold, hlets]
    rfl
  · intro hlets
    refine ⟨layout before, layout behind, ?_, ?_⟩
    · rw [hold, hlets, if_pos rfl, List.singleton_append, layout_sentence, partsAll_content]
    · rw [hnew, hlets, if_pos rfl, List.singleton_append, layout_sentence, partsAll_content]
      rfl

/-- **What the sentence says stays the same**, but for the list and the copula next to
    it. -/
theorem parts (h : Rewritten list p v b b') (ctx : Context) :
    (p.inner.lets (Condition.holds ctx) = false →
      partsAll ctx ((p.holding v).content b') = partsAll ctx (p.content b)) ∧
    (p.inner.lets (Condition.holds ctx) = true → ∃ before behind before' behind',
      Agreed before behind before' behind' ∧
      partsAll ctx (p.content b) = before ++ (.members (p.setting.site b).texts :: behind) ∧
      partsAll ctx ((p.holding v).content b') =
        before' ++ (.members ((p.holding v).setting.site b').texts :: behind')) := by
  obtain ⟨before, behind, hframe⟩ := exists_parts h.proper ctx
  have hold : partsAll ctx (p.content b) = _ :=
    (p.partsAll_content b ctx).trans (hframe p.inner.left p.inner.right b)
  have hnew : partsAll ctx ((p.holding v).content b') = _ :=
    ((p.holding v).partsAll_content b' ctx).trans (h.reagreed.layers ▸ hframe v.left v.right b')
  have hb : Render.parts ctx (b.node 0) = [.members (p.setting.site b).texts] := by
    rw [← parts_node p.setting.offset]
    exact parts_of_isList h.found.isList h.found.stands h.unconditional ctx _
  have hb' : Render.parts ctx (b'.node 0) = [.members ((p.holding v).setting.site b').texts] := by
    rw [← parts_node (p.holding v).setting.offset]
    exact parts_of_isList h.found'.isList h.found'.stands h.unconditional' ctx _
  rw [hold, hnew, hb, hb']
  constructor
  · intro hlets
    simp only [hlets]
    rfl
  · intro hlets
    refine ⟨_, _, _, _, (h.reagreed.agreed ctx).among before behind, ?_, ?_⟩
    · rw [hlets, if_pos rfl]
      simp
    · rw [hlets, if_pos rfl]
      simp

end Rewritten

/-! ### Sentences and lists of a tree -/

namespace Node

/-- The node is a sentence. -/
def isSentence : Node → Bool
  | .element .sentence _ _ => true
  | _ => false

theorem exists_of_isList {n : Node} (h : n.isList = true) :
    ∃ name place children, n = .element (.list name) place children := by
  cases n with
  | entry | var | text => cases h
  | element kind place children =>
    cases kind with
    | wrapper | sentence | conditional => cases h
    | list name => exact ⟨name, place, children, rfl⟩

end Node

/-! ### Structural changes -/

namespace ListChange

/-- What a structural change makes of the members of a list: an item comes in front, or the
    one that mentions it is left out. -/
inductive MembersAfter (s : ListSite) (item : Item) : List Member → Prop where
  | entered {count : Nat} : item.quantity = .count count → 1 ≤ count →
    s.findEntry? item = none →
    MembersAfter s item
      (inserted s (Prose.quantityPhrase item count) (Member.ofNodes s.children))
  | left {before behind : List Member} {e : ListSite.Entry} : item.quantity = .count 0 →
    s.findEntry? item = some e →
    Member.ofNodes s.children = before ++ ⟨e.text, true, some e.place.span⟩ :: behind →
    MembersAfter s item (deleted s before.length (Member.ofNodes s.children))

variable {template template' : Text} {list : Option Text} {s : ListSite} {item : Item}

/-- The members that are written are read again. -/
theorem MembersAfter.writable {members : List Member} (hm : MembersAfter s item members)
    (h : Finds template list s) (hcond : s.isConditional = false)
    (hphrases : ∀ m ∈ Member.ofNodes s.children, m.tagged = false →
      '<' ∉ m.text ∧ Prose.IsPhrase m.text ∧ Prose.IsPhrase (Prose.decapitalize m.text))
    (hphrase : ∀ count, item.quantity = .count count → 1 ≤ count →
      '<' ∉ Prose.quantityPhrase item count) :
    (∀ m ∈ members, m.Writable) ∧ ∀ m ∈ members, m.Phrased := by
  have hw := writable_of_mem_ofNodes h hcond fun m hm htagged => (hphrases m hm htagged).1
  have hp : ∀ m ∈ Member.ofNodes s.children, m.Phrased := fun m hm htagged =>
    (hphrases m hm htagged).2.1
  cases hm with
  | entered hq hcount =>
    constructor
    · exact writable_of_mem_inserted s (hphrase _ hq hcount) hw
    · apply of_mem_inserted s hp
      · intro m hm htagged
        exact (hphrases m hm htagged).2.2
      · exact fun htagged => absurd htagged (by simp)
      · exact fun htagged => absurd htagged (by simp)
  | left =>
    constructor
    · exact writable_of_mem_deleted s _ hw
    · exact of_mem_deleted s _ hp fun m hm => (hp m hm).capitalize

end ListChange

end Scenery
