/-
  Scenery/Proofs/ItemList/Edited.lean
  ===================================
  **Templates after a change of one of their lists.**  A change writes new members
  into a list (`withMembers_fill`) or other words into an entry of it
  (`exists_withQuantity`).  Either way the template parses again, and the name that
  found the list finds it at the same place (`Found.finds`, `Found.samePlace`).

  `add_of_finds` and `remove_of_finds` say which of these a change does.
-/
import Scenery.Proofs.ItemList.Copula
import Scenery.Proofs.ItemList.Entries
import Scenery.Proofs.Prose.Quantity

namespace Scenery

/-- A name finds a list in a template. -/
def Finds (template : Text) (list : Option Text) (s : ListSite) : Prop :=
  ∃ root, Node.parse template = .ok root ∧ ListSite.find? root list = some s

theorem finds_unique {template : Text} {list : Option Text} {s s' : ListSite}
    (h : Finds template list s) (h' : Finds template list s') : s = s' := by
  obtain ⟨root, hparse, hfind⟩ := h
  obtain ⟨root', hparse', hfind'⟩ := h'
  cases hparse.symm.trans hparse'
  exact Option.some.inj (hfind.symm.trans hfind')

/-- A list that a name finds in a concrete template can be computed. -/
theorem exists_finds (template : Text) (list : Option Text) (P : ListSite → Prop)
    [DecidablePred P]
    (h : ((Node.parse template).toOption.bind (ListSite.find? · list)).any (P ·)) :
    ∃ s, Finds template list s ∧ P s := by
  obtain ⟨s, hs, hP⟩ := (Option.any_eq_true _ _).1 h
  obtain ⟨root, hroot, hfind⟩ := Option.bind_eq_some_iff.1 hs
  exact ⟨s, ⟨root, eq_ok_of_toOption hroot, hfind⟩, by simpa using hP⟩

/-- Two lists have the same place in two templates: they have the same name and the
    same standing in their sentence, and so have the lists before and behind them the
    same names. -/
def SamePlace (template template' : Text) (s s' : ListSite) : Prop :=
  ∃ root root' before behind before' behind',
    Node.parse template = .ok root ∧ ListSite.all root = before ++ s :: behind ∧
    Node.parse template' = .ok root' ∧ ListSite.all root' = before' ++ s' :: behind' ∧
    before'.map (·.name) = before.map (·.name) ∧ behind'.map (·.name) = behind.map (·.name) ∧
    s'.name = s.name ∧ s'.opensSentence = s.opensSentence

theorem SamePlace.opensSentence {template template' : Text} {s s' : ListSite}
    (h : SamePlace template template' s s') : s'.opensSentence = s.opensSentence := by
  obtain ⟨_, _, _, _, _, _, -, -, -, -, -, -, -, hopens⟩ := h
  exact hopens

/-- A list that a name finds in a written template. -/
structure Found (list : Option Text) (w : Setting) (b : Branch) : Prop where
  isList : b.IsList
  sound : w.Sound [] []
  stands : b.Stands (w.tagsIn [])
  resolves : ListSite.Resolves list w.namesBefore b.listName?

namespace Branch

/-- The characters of an opening tag. -/
def openingSource : Branch → Text
  | .block s _ _ _ _ => s
  | .single s _ _ => s
  | .var s _ _ _ => s
  | .text _ => []

theorem children_node {b : Branch} (hb : b.IsList) (offset : Nat) :
    (b.node offset).children = nodes (offset + Text.bytes b.openingSource) b.content := by
  obtain ⟨name, ho, -⟩ := exists_of_isList hb
  cases b with
  | var | text => cases ho
  | single s attributes o =>
    obtain rfl : o = .element (.list name) := by simpa [opened?] using ho
    rw [node, content, nodes_nil]
    · rfl
    · simp
  | block s attributes o c bs =>
    obtain rfl : o = .element (.list name) := by simpa [opened?] using ho
    rw [node]
    rfl

/-- An element that depends on a condition. -/
def isConditional (b : Branch) : Bool :=
  match b.opened? with
  | some (.element (.conditional _)) => true
  | _ => false

theorem isConditional_node (b : Branch) (offset : Nat) :
    (b.node offset).isConditional = b.isConditional := by
  cases b with
  | text | var =>
    rw [node]
    rfl
  | single s attributes o | block s attributes o c bs =>
    rw [node]
    rcases o with (_ | _ | _ | _) | _ <;> rfl

theorem any_isConditional_nodes (bs : List Branch) (offset : Nat) :
    (nodes offset bs).any Node.isConditional = bs.any isConditional := by
  induction bs generalizing offset with
  | nil => simp
  | cons b bs ih => rw [nodes_cons, List.any_cons, List.any_cons, isConditional_node, ih]

theorem isConditional_of_isEntry {b : Branch} (hb : b.IsEntry) : b.isConditional = false := by
  rw [isConditional, hb]

theorem any_isConditional_fill (v : Setting) {x y : Branch}
    (h : x.isConditional = y.isConditional) :
    (v.fill x).any isConditional = (v.fill y).any isConditional := by
  obtain ⟨_ | ⟨l, ls⟩, left, right⟩ := v
  · simp [Setting.fill, Layer.fillAll, h]
  · simp [Setting.fill, Layer.fillAll, Layer.block, isConditional, opened?]

theorem any_isConditional_weave (pending : Text) (ms : List Member) :
    (weave pending ms).any isConditional = false := by
  have htext (raw : Text) : (ofText raw).any isConditional = false := by
    by_cases h : raw = []
    · simp [ofText, h]
    · simp [ofText, h, isConditional, opened?]
  induction ms generalizing pending with
  | nil => exact htext pending
  | cons m ms ih =>
    rw [weave]
    by_cases hm : m.tagged
    · have hentry : (entry m.text).isConditional = false := isConditional_of_isEntry rfl
      rw [if_pos hm, List.any_append, htext, List.any_cons, hentry, ih]
      rfl
    · rw [if_neg hm]
      exact ih _

/-- A list that holds something has two tags, and its content stands between them. -/
theorem exists_closingSource {b : Branch} (hb : b.IsList) (hne : b.content ≠ []) :
    ∃ closing, b.source = b.openingSource ++ (sourceAll b.content ++ closing) ∧
      ∀ content, (b.withContent content).source =
        b.openingSource ++ (sourceAll content ++ closing) := by
  obtain ⟨name, ho, -⟩ := exists_of_isList hb
  cases b with
  | var | text => cases ho
  | single s attributes o => exact absurd rfl hne
  | block s attributes o c bs =>
    refine ⟨c, ?_, ?_⟩
    · rw [source_block, openingSource, Branch.content]
      simp
    · intro content
      rw [withContent, source_block, openingSource]
      simp

theorem content_of_stands {b : Branch} (hb : b.IsList) {around : List Tag}
    (h : b.Stands around) :
    NestedAll (.list :: around) b.content ∧ Lexeme.Spelled ['<'] (lexemesAll b.content) := by
  obtain ⟨name, ho, -⟩ := exists_of_isList hb
  obtain ⟨hnested, hspelled⟩ := h
  cases b with
  | var | text => cases ho
  | single s attributes o => simp [content]
  | block s attributes o c bs =>
    obtain rfl : o = .element (.list name) := by simpa [opened?] using ho
    rw [Nested] at hnested
    rw [lexemes] at hspelled
    obtain ⟨-, hspelled⟩ := hspelled
    exact ⟨hnested.2.2, (Lexeme.spelled_append_tag.1 hspelled).1⟩

end Branch

namespace Found

open Branch

variable {list : Option Text} {w w' : Setting} {b : Branch}

theorem exists_of_find? {bs : List Branch} (hwritten : Written bs) {size : Nat} {s : ListSite}
    (h : ListSite.find? (Node.root size (nodes 0 bs)) list = some s) :
    ∃ w b, Found list w b ∧ bs = w.fill b ∧ s = w.site b := by
  obtain ⟨w, b, rfl, hb, rfl, hr⟩ := ListSite.exists_of_find? hwritten.2 h
  have ⟨o, ho, _⟩ := hb
  obtain ⟨hsound, hstands⟩ := (Setting.sound_and_stands ho).1 hwritten
  exact ⟨w, b, ⟨hb, hsound, hstands, hr⟩, rfl, rfl⟩

theorem exists_of_finds {template : Text} {s : ListSite} (h : Finds template list s) :
    ∃ w b, Found list w b ∧ sourceAll (w.fill b) = template ∧ s = w.site b := by
  obtain ⟨root, hparse, hfind⟩ := h
  obtain ⟨bs, hwritten, hsource, rfl⟩ := exists_of_parse hparse
  obtain ⟨w, b, hfound, rfl, hs⟩ := exists_of_find? hwritten hfind
  exact ⟨w, b, hfound, hsource, hs⟩

theorem written (h : Found list w b) : Written (w.fill b) := by
  obtain ⟨o, ho, -⟩ := h.isList
  exact (Setting.sound_and_stands ho).2 ⟨h.sound, h.stands⟩

theorem finds (h : Found list w b) : Finds (sourceAll (w.fill b)) list (w.site b) :=
  ⟨_, parse_sourceAll h.written, ListSite.find?_fill h.isList h.written.2 h.resolves _⟩

/-- A list with new content, among texts that may have changed too, is found again. -/
theorem withContent (h : Found list w b) (halike : Setting.Alike w w') (hsound : w'.Sound [] [])
    {content : List Branch} (hn : NestedAll (.list :: w.tagsIn []) content)
    (hs : Lexeme.Spelled ['<'] (lexemesAll content)) : Found list w' (b.withContent content) where
  isList := isList_withContent h.isList content
  sound := hsound
  stands := by
    rw [halike.tags]
    exact stands_withContent h.isList h.stands hn hs
  resolves := by
    rw [halike.before, listName?_withContent]
    exact h.resolves

/-- Such a list has the same place. -/
theorem samePlace (h : Found list w b) (halike : Setting.Alike w w') {content : List Branch}
    (h' : Found list w' (b.withContent content)) :
    SamePlace (sourceAll (w.fill b)) (sourceAll (w'.fill (b.withContent content))) (w.site b)
      (w'.site (b.withContent content)) := by
  obtain ⟨A, B, hall, hA, hB⟩ := ListSite.exists_all_fill w h.isList h.written.2
    (Text.bytes (sourceAll (w.fill b)))
  obtain ⟨A', B', hall', hA', hB'⟩ := ListSite.exists_all_fill w' h'.isList h'.written.2
    (Text.bytes (sourceAll (w'.fill (b.withContent content))))
  refine ⟨_, _, A, B, A', B', parse_sourceAll h.written, hall, parse_sourceAll h'.written, hall',
    ?_, ?_, listName?_withContent b content, halike.opens⟩
  · rw [hA', hA, halike.before]
  · rw [hB', hB, halike.after]

theorem children (h : Found list w b) :
    (w.site b).children = nodes (w.offset + Text.bytes b.openingSource) b.content :=
  children_node h.isList w.offset

theorem map_bare_below (h : Found list w b) :
    (Member.below (w.site b).children).map Member.bare = membersAll b.content := by
  rw [h.children]
  exact members_nodes List.mem_cons_self _ (content_of_stands h.isList h.stands).1 _

theorem isConditional_site (h : Found list w b) :
    (w.site b).isConditional = b.content.any isConditional := by
  rw [ListSite.isConditional, h.children, any_isConditional_nodes]

theorem ofNodes_children (h : Found list w b) (hcond : (w.site b).isConditional = false) :
    Member.ofNodes (w.site b).children = Member.below (w.site b).children := by
  rw [ListSite.isConditional, h.children] at hcond
  rw [h.children]
  exact ofNodes_eq_below List.mem_cons_self (content_of_stands h.isList h.stands).1 hcond

theorem plain_of_mem_below (h : Found list w b) :
    ∀ m ∈ Member.below (w.site b).children, Plain m.text ['<'] := by
  intro m hm
  obtain ⟨hnested, hspelled⟩ := content_of_stands h.isList h.stands
  have hbare : m.bare ∈ membersAll b.content := by
    rw [← h.map_bare_below]
    exact List.mem_map_of_mem hm
  exact plain_of_mem_membersAll _ hnested hspelled m.bare hbare

theorem exists_of_mem_entries (h : Found list w b) {e : ListSite.Entry}
    (he : e ∈ (w.site b).entries) :
    ∃ v eb, b.content = Setting.fill v eb ∧ eb.IsEntry ∧
      e = eb.entryAt (w.offset + Text.bytes b.openingSource + v.offset) ∧
      (v.layers = [] ∨ (w.site b).isConditional = true) := by
  obtain ⟨hnested, -⟩ := content_of_stands h.isList h.stands
  obtain ⟨n, hn, hentry⟩ := List.mem_filterMap.1 he
  rw [h.children] at hn
  rw [ListSite.isConditional, h.children]
  cases n with
  | entry t p =>
    cases hentry
    exact exists_of_mem_descendants List.mem_cons_self _ hnested _ hn
  | element | var | text => cases hentry

theorem exists_below_of_content (h : Found list w b) {v : Setting} {eb : Branch}
    (hcontent : b.content = v.fill eb) (heb : eb.IsEntry) :
    ∃ A B, Member.below (w.site b).children =
        A ++ eb.memberAt (w.offset + Text.bytes b.openingSource + v.offset) :: B ∧
      A.map Member.bare = v.membersBefore ∧ B.map Member.bare = v.membersAfter ∧
      ∀ m ∈ A, m.source ≠
        some (eb.node (w.offset + Text.bytes b.openingSource + v.offset)).span := by
  obtain ⟨hnested, hspelled⟩ := content_of_stands h.isList h.stands
  rw [hcontent] at hnested hspelled
  obtain ⟨A, B, hbelow, hA, hB, hstart⟩ := exists_below_fill List.mem_cons_self heb hnested
    hspelled (w.offset + Text.bytes b.openingSource)
  refine ⟨A, B, by rw [h.children, hcontent, hbelow], hA, hB, ?_⟩
  intro m hm hsource
  have hlt := hstart m hm _ hsource
  rw [span_node] at hlt
  exact Nat.lt_irrefl _ hlt

/-- The member of an entry is found behind those before its place. -/
theorem findIdx?_of_content (h : Found list w b) (hcond : (w.site b).isConditional = false)
    {v : Setting} {eb : Branch} (hcontent : b.content = v.fill eb) (heb : eb.IsEntry) :
    (Member.ofNodes (w.site b).children).findIdx? (fun m => m.source ==
      some (eb.entryAt (w.offset + Text.bytes b.openingSource + v.offset)).place.span) =
        some v.membersBefore.length := by
  obtain ⟨A, B, hbelow, hA, -, hsource⟩ := h.exists_below_of_content hcontent heb
  have hnone : A.findIdx? (fun m => m.source == some (eb.entryAt (w.offset +
      Text.bytes b.openingSource + v.offset)).place.span) = none := by
    rw [List.findIdx?_eq_none_iff]
    intro m hm
    exact beq_eq_false_iff_ne.2 (hsource m hm)
  rw [h.ofNodes_children hcond, hbelow, List.findIdx?_append, hnone, List.findIdx?_cons, ← hA]
  simp [memberAt, entryAt]

end Found

/-! ### Entries that mention an item -/

theorem ListSite.of_findEntry? {s : ListSite} {item : Item} {e : Entry}
    (h : s.findEntry? item = some e) : e ∈ s.entries ∧ Text.trim e.text ≠ [] := by
  refine ⟨List.mem_of_find?_eq_some h, ?_⟩
  exact Prose.trim_ne_nil_of_mentionsItem (List.find?_eq_some_iff_append.1 h).1

namespace ListChange

open Branch

variable {list : Option Text} {w : Setting} {b : Branch}

/-! ### New members -/

/-- The setting of a list after new members have been written into it. -/
def agreeing (w : Setting) (members : List Member) (before : Nat) : Setting :=
  if members ≠ [] ∧ (decide (2 ≤ before) ≠ decide (2 ≤ members.length)) then
    match w.copulaWord? with
    | some word => w.reworded (Prose.agree word (isPlural members))
    | none => w
  else w

section Agreeing

variable (w) (members : List Member) (before : Nat)

theorem alike_agreeing : Setting.Alike w (agreeing w members before) := by
  rw [agreeing]
  split
  · split
    · exact w.alike_reworded (Prose.agree_mem _ _)
    · exact .refl w
  · exact .refl w

theorem sound_agreeing {around : List Tag} {after : Text} (h : w.Sound around after) :
    (agreeing w members before).Sound around after := by
  rw [agreeing]
  split
  · split
    · exact h.reworded (Prose.agree_mem _ _)
    · exact h
  · exact h

theorem copulaWord?_agreeing :
    (agreeing w members before).copulaWord? =
      if members ≠ [] ∧ (decide (2 ≤ before) ≠ decide (2 ≤ members.length)) then
        w.copulaWord?.map (Prose.agree · (isPlural members))
      else w.copulaWord? := by
  rw [agreeing]
  split
  · rcases hword : w.copulaWord? with _ | word
    · exact hword
    · exact (Setting.reworded_found (Prose.agree_mem _ _) hword).1
  · rfl

end Agreeing

/-- **New members are written into a list.**  The copula next to it follows if the list
    crosses between one member and several. -/
theorem withMembers_fill (h : Found list w b) (members : List Member) (before : Nat) :
    withMembers (sourceAll (w.fill b)) (w.site b) members before =
      .changed (sourceAll ((agreeing w members before).fill
        (b.withContent (weave [] (Member.enumerated members))))) := by
  obtain ⟨a, x, y, c, hsource, hsource', hedit, -⟩ := exists_contentEdit h.isList h.stands
    (weave [] (Member.enumerated members))
  have hjoined : sourceAll (weave [] (Member.enumerated members)) = Member.joined members := by
    rw [sourceAll_weave, Member.flatMap_markup_enumerated, List.nil_append]
  -- without an edit of the copula only the list changes
  have halone : Edit.applyAll [⟨Span.behind (w.textBefore ++ a) x, y⟩] (sourceAll (w.fill b)) =
      sourceAll (w.fill (b.withContent (weave [] (Member.enumerated members)))) := by
    have happly := Edit.applyAll_one (w.textBefore ++ a) x (c ++ w.textAfter) y
    rw [w.sourceAll_fill, w.sourceAll_fill, hsource, hsource']
    simpa using happly
  have hword := w.word_adjacentCopula?_site b
  rw [hjoined] at hedit
  rw [withMembers, memberEdits, hedit, agreeing]
  by_cases hcrosses : members ≠ [] ∧ (decide (2 ≤ before) ≠ decide (2 ≤ members.length))
  · rw [if_pos hcrosses, if_pos hcrosses, copulaEdit?]
    rcases hc : adjacentCopula? (w.site b) with _ | copula
    · rw [hc, Option.map_none] at hword
      rw [← hword, Option.map_none, Option.toList_none, halone]
    · rw [hc, Option.map_some] at hword
      rw [← hword, Option.map_some, Option.toList_some,
        ← (Setting.exists_pieces hc hsource _ hsource').1, Prose.WordAt.span]
  · rw [if_neg hcrosses, if_neg hcrosses, halone]

/-- The list is found again, if its new members make no other tags than their own. -/
theorem found_agreeing (h : Found list w b) {members : List Member} (before : Nat)
    (hrow : Member.PlainRow (Member.enumerated members)) :
    Found list (agreeing w members before)
      (b.withContent (weave [] (Member.enumerated members))) :=
  h.withContent (alike_agreeing w members before) (sound_agreeing w members before h.sound)
    (nestedAll_weave (fitsIn_item (ListSite.fitsIn_of_isList h.isList h.stands.nested)) _ _)
    (spelled_weave (plain_nil _) hrow)

/-! ### New words -/

variable {v : Setting} {opening closing : Text} {attributes : List Attribute} {bs : List Branch}

/-- The words of an entry start no tag before its closing one. -/
theorem plain_of_stands {around : List Tag}
    (h : Stands around (.block opening attributes .entry closing bs)) :
    Plain (sourceAll bs) ['<'] := by
  have hentry := h.nested
  rw [Nested] at hentry
  have hspelled := h.spelled
  rw [lexemes] at hspelled
  exact plain_of_spelled_item hentry.2.2 (Lexeme.spelled_append_tag.1 hspelled.2).1

/-- An entry with other words may stand where it stood. -/
theorem stands_ofText {around : List Tag} {words : Text} (hwords : Plain words ['<'])
    (h : Stands around (.block opening attributes .entry closing bs)) :
    Stands around (.block opening attributes .entry closing (ofText words)) := by
  have hentry := h.nested
  rw [Nested] at hentry
  have hspelled := h.spelled
  rw [lexemes] at hspelled
  obtain ⟨hopening, hinner⟩ := hspelled
  obtain ⟨-, hclosing, -⟩ := Lexeme.spelled_append_tag.1 hinner
  constructor
  · rw [Nested]
    exact ⟨hentry.1, hentry.2.1, nestedAll_ofText _ _⟩
  · rw [lexemes]
    exact ⟨hopening, Lexeme.spelled_append_tag.2 ⟨spelled_ofText hwords, hclosing, trivial⟩⟩

/-- The words of an entry stand between its tags, and other words may stand there. -/
theorem exists_source_entry (h : Found list w b)
    (hcontent : b.content = v.fill (.block opening attributes .entry closing bs)) :
    ∃ before behind, sourceAll (w.fill b) = before ++ (sourceAll bs ++ behind) ∧
      (entryAt (w.offset + Text.bytes b.openingSource + v.offset)
        (.block opening attributes .entry closing bs)).place.inner =
          Span.behind before (sourceAll bs) ∧
      ∀ words, sourceAll (w.fill (b.withContent (v.fill (.block opening attributes .entry closing
        (ofText words))))) = before ++ (words ++ behind) := by
  have hne : b.content ≠ [] := by
    rw [hcontent]
    exact v.fill_ne_nil _
  obtain ⟨listClosing, hb, hb'⟩ := exists_closingSource h.isList hne
  refine ⟨w.textBefore ++ (b.openingSource ++ (v.textBefore ++ opening)),
    closing ++ (v.textAfter ++ (listClosing ++ w.textAfter)), ?_, ?_, ?_⟩
  · rw [w.sourceAll_fill, hb, hcontent, v.sourceAll_fill, source_block]
    simp
  · simp [entryAt, node, Node.ofOpened, Node.inner, Span.behind, Setting.offset, Nat.add_assoc]
  · intro words
    rw [w.sourceAll_fill, hb', v.sourceAll_fill, source_block, sourceAll_ofText]
    simp

/-- The edit of an entry's words replaces what stands between its tags. -/
theorem withQuantity_entryAt (h : Found list w b)
    (hcontent : b.content = v.fill (.block opening attributes .entry closing bs)) (item : Item)
    (count : Nat) :
    withQuantity (sourceAll (w.fill b))
        (entryAt (w.offset + Text.bytes b.openingSource + v.offset)
          (.block opening attributes .entry closing bs)) item count =
      .changed (sourceAll (w.fill (b.withContent (v.fill (.block opening attributes .entry closing
        (ofText (Prose.requantify (sourceAll bs) item count))))))) := by
  obtain ⟨before, behind, hsource, hinner, hwords⟩ := exists_source_entry h hcontent
  rw [withQuantity, hinner, hsource, Span.slice_behind, Edit.applyAll_one, hwords]

/-- **Other words are written into an entry**, and nothing else changes. -/
theorem exists_withQuantity (h : Found list w b) {item : Item} {e : ListSite.Entry}
    (he : ListSite.findEntry? (w.site b) item = some e) {count : Nat}
    (hphrase : '<' ∉ Prose.quantityPhrase item count) :
    ∃ content A B, Found list w (b.withContent content) ∧
      withQuantity (sourceAll (w.fill b)) e item count =
        .changed (sourceAll (w.fill (b.withContent content))) ∧
      Member.below (w.site b).children = A ++ ⟨e.text, true, some e.place.span⟩ :: B ∧
      (∀ m ∈ A, m.source ≠ some e.place.span) ∧
      (Member.below (w.site (b.withContent content)).children).map Member.bare =
        A.map Member.bare ++
          ⟨Prose.requantify e.text item count, true, none⟩ :: B.map Member.bare ∧
      (w.site (b.withContent content)).isConditional = (w.site b).isConditional := by
  obtain ⟨hmem, hne⟩ := ListSite.of_findEntry? he
  obtain ⟨v, eb, hcontent, heb, rfl, hlayers⟩ := h.exists_of_mem_entries hmem
  obtain ⟨A, B, hbelow, hA, hB, hsource⟩ := h.exists_below_of_content hcontent heb
  obtain ⟨hnested, hspelled⟩ := content_of_stands h.isList h.stands
  rw [hcontent] at hnested hspelled
  obtain ⟨hsound, hstands⟩ := (Setting.sound_and_stands heb).1 ⟨hspelled, hnested⟩
  cases eb with
  | var | text => cases heb
  | single s attributes o => exact absurd rfl hne
  | block s attributes o c bs =>
    obtain rfl : o = .entry := by simpa [IsEntry, opened?] using heb
    have hedit := withQuantity_entryAt h hcontent item count
    have hplain : Plain (Prose.requantify (sourceAll bs) item count) ['<'] :=
      Prose.plain_requantify (plain_of_stands hstands) hphrase
    generalize hwords : Prose.requantify (sourceAll bs) item count = words at hplain hedit
    have heb' : IsEntry (.block s attributes .entry c (ofText words)) := rfl
    obtain ⟨hspelled', hnested'⟩ :=
      (Setting.sound_and_stands heb').2 ⟨hsound, stands_ofText hplain hstands⟩
    have h' := h.withContent (.refl w) h.sound hnested' hspelled'
    have hcontent' := content_withContent h.isList
      (v.fill (.block s attributes .entry c (ofText words)))
    obtain ⟨A', B', hbelow', hA', hB', -⟩ := h'.exists_below_of_content hcontent' heb'
    refine ⟨v.fill (.block s attributes .entry c (ofText words)), A, B, h', hedit, hbelow, hsource,
      ?_, ?_⟩
    · have htext : Prose.requantify (entryAt (w.offset + Text.bytes b.openingSource + v.offset)
          (.block s attributes .entry c bs)).text item count = words := hwords
      have hmember (offset : Nat) :
          (memberAt offset (.block s attributes .entry c (ofText words))).bare =
            ⟨words, true, none⟩ := by
        simp [memberAt, Member.bare, Branch.content]
      rw [hbelow', List.map_append, List.map_cons, hA', hB', hA, hB, htext, hmember]
    · rw [h'.isConditional_site, h.isConditional_site, hcontent, hcontent']
      exact any_isConditional_fill v rfl

/-! ### What a change does -/

variable {template : Text} {s : ListSite} {item : Item} {count : Nat}

theorem add_of_finds (h : Finds template list s) (hq : item.quantity = .count count) :
    add template item list = .ok (
      if count = 0 then .unchanged .zeroQuantity
      else
        match s.findEntry? item with
        | some e => withQuantity template e item count
        | none =>
          if s.isConditional then .unchanged .conditionalList
          else
            let members := Member.ofNodes s.children
            withMembers template s (inserted s (Prose.quantityPhrase item count) members)
              members.length) := by
  obtain ⟨root, hparse, hfind⟩ := h
  rw [add, hq]
  simp only [hparse, hfind]
  by_cases hcount : count = 0
  · simp only [hcount, if_true]
  · simp only [hcount, if_false]
    rcases s.findEntry? item with _ | e
    · by_cases hcond : s.isConditional = true
      · simp only [hcond, if_true]
      · simp only [hcond]
        rfl
    · rfl

theorem remove_of_finds (h : Finds template list s) (hq : item.quantity = .count count)
    {e : ListSite.Entry} (he : s.findEntry? item = some e) :
    remove template item list = .ok (
      if 0 < count then withQuantity template e item count
      else if s.isConditional then .unchanged .conditionalList
      else
        let members := Member.ofNodes s.children
        match members.findIdx? fun m => m.source == some e.place.span with
        | none => .unchanged .noMatchingEntry
        | some index => withMembers template s (deleted s index members) members.length) := by
  obtain ⟨root, hparse, hfind⟩ := h
  rw [remove, hq]
  simp only [hparse, hfind, he]
  by_cases hcount : 0 < count
  · simp only [hcount, if_true]
  · simp only [hcount, if_false]
    by_cases hcond : s.isConditional = true
    · simp only [hcond, if_true]
    · rw [if_neg hcond, if_neg hcond]
      cases (Member.ofNodes s.children).findIdx? (·.source == some e.place.span) with
      | none => rfl
      | some index => rfl

theorem remove_of_findEntry?_eq_none (h : Finds template list s)
    (hq : item.quantity = .count count) (hnone : s.findEntry? item = none) :
    remove template item list = .ok (.unchanged .noMatchingEntry) := by
  obtain ⟨root, hparse, hfind⟩ := h
  rw [remove, hq]
  simp only [hparse, hfind, hnone]

/-- What changes a template finds a list in it. -/
theorem exists_finds_of_changed {template' : Text}
    (hchange : add template item list = .ok (.changed template') ∨
      remove template item list = .ok (.changed template')) : ∃ s, Finds template list s := by
  rcases hq : item.quantity with count | _
  · rcases hparse : Node.parse template with error | root
    · rcases hchange with hadd | hremove
      · simp [add, hq, hparse] at hadd
      · simp [remove, hq, hparse] at hremove
    · rcases hfind : ListSite.find? root list with _ | s
      · rcases hchange with hadd | hremove
        · simp [add, hq, hparse, hfind] at hadd
        · simp [remove, hq, hparse, hfind] at hremove
      · exact ⟨s, root, hparse, hfind⟩
  · rcases hchange with hadd | hremove
    · simp [add, hq] at hadd
    · simp [remove, hq] at hremove

/-- A change of a template gives an entry another number, puts a member in front, or
    takes a member out. -/
theorem changed_cases (h : Finds template list s) {template' : Text}
    (hchange : add template item list = .ok (.changed template') ∨
      remove template item list = .ok (.changed template')) :
    (∃ count e, item.quantity = .count count ∧ 1 ≤ count ∧ s.findEntry? item = some e ∧
      withQuantity template e item count = .changed template') ∨
    (∃ count, item.quantity = .count count ∧ 1 ≤ count ∧ s.findEntry? item = none ∧
      s.isConditional = false ∧
      withMembers template s (inserted s (Prose.quantityPhrase item count)
        (Member.ofNodes s.children)) (Member.ofNodes s.children).length = .changed template') ∨
    (∃ e index, item.quantity = .count 0 ∧ s.findEntry? item = some e ∧
      s.isConditional = false ∧
      (Member.ofNodes s.children).findIdx? (fun m => m.source == some e.place.span) =
        some index ∧
      withMembers template s (deleted s index (Member.ofNodes s.children))
        (Member.ofNodes s.children).length = .changed template') := by
  rcases hq : item.quantity with count | _
  · rcases hchange with hadd | hremove
    · rw [add_of_finds h hq] at hadd
      by_cases hcount : count = 0
      · simp [hcount] at hadd
      · rw [if_neg hcount, Except.ok.injEq] at hadd
        have hpos : 1 ≤ count := Nat.one_le_iff_ne_zero.2 hcount
        rcases he : s.findEntry? item with _ | e
        · by_cases hcond : s.isConditional = true
          · simp [he, hcond] at hadd
          · rw [Bool.not_eq_true] at hcond
            simp only [he, hcond] at hadd
            exact .inr (.inl ⟨count, rfl, hpos, rfl, hcond, hadd⟩)
        · simp only [he] at hadd
          exact .inl ⟨count, e, rfl, hpos, rfl, hadd⟩
    · rcases he : s.findEntry? item with _ | e
      · obtain ⟨root, hparse, hfind⟩ := h
        rw [remove, hq] at hremove
        simp [hparse, hfind, he] at hremove
      · rw [remove_of_finds h hq he, Except.ok.injEq] at hremove
        by_cases hcount : 0 < count
        · rw [if_pos hcount] at hremove
          exact .inl ⟨count, e, rfl, hcount, rfl, hremove⟩
        · obtain rfl : count = 0 := by omega
          by_cases hcond : s.isConditional = true
          · simp [hcond] at hremove
          · rw [Bool.not_eq_true] at hcond
            rw [if_neg hcount, if_neg (by simp [hcond])] at hremove
            rcases hindex : (Member.ofNodes s.children).findIdx?
                (fun m => m.source == some e.place.span) with _ | index
            · simp [hindex] at hremove
            · simp only [hindex] at hremove
              exact .inr (.inr ⟨e, index, rfl, rfl, hcond, hindex, hremove⟩)
  · rcases hchange with hadd | hremove
    · simp [add, hq] at hadd
    · simp [remove, hq] at hremove

end ListChange

/-! ### Seen from the template -/

namespace Finds

open Branch ListChange

variable {list : Option Text} {template : Text} {s : ListSite} {item : Item}

theorem ofNodes_children (h : Finds template list s) (hcond : s.isConditional = false) :
    Member.ofNodes s.children = Member.below s.children := by
  obtain ⟨w, b, hfound, -, rfl⟩ := Found.exists_of_finds h
  exact hfound.ofNodes_children hcond

theorem plain_of_mem_below (h : Finds template list s) :
    ∀ m ∈ Member.below s.children, Plain m.text ['<'] := by
  obtain ⟨w, b, hfound, -, rfl⟩ := Found.exists_of_finds h
  exact hfound.plain_of_mem_below

/-- The member of an entry that mentions an item is found among the others. -/
theorem exists_findIdx? (h : Finds template list s) (hcond : s.isConditional = false)
    {e : ListSite.Entry} (he : s.findEntry? item = some e) :
    ∃ A B, Member.ofNodes s.children = A ++ ⟨e.text, true, some e.place.span⟩ :: B ∧
      (Member.ofNodes s.children).findIdx? (fun m => m.source == some e.place.span) =
        some A.length := by
  obtain ⟨w, b, hfound, -, rfl⟩ := Found.exists_of_finds h
  obtain ⟨hmem, -⟩ := ListSite.of_findEntry? he
  obtain ⟨v, eb, hcontent, heb, rfl, -⟩ := hfound.exists_of_mem_entries hmem
  obtain ⟨A, B, hbelow, hA, -⟩ := hfound.exists_below_of_content hcontent heb
  refine ⟨A, B, by rw [h.ofNodes_children hcond, hbelow]; rfl, ?_⟩
  rw [hfound.findIdx?_of_content hcond hcontent heb, ← hA, List.length_map]

/-- **What writing new members comes to.**  The members that are read then are those of
    the enumeration that is written. -/
theorem withMembers (h : Finds template list s) {members : List Member}
    (hrow : Member.PlainRow (Member.enumerated members)) (before : Nat) :
    ∃ template' s', ListChange.withMembers template s members before = .changed template' ∧
      Finds template' list s' ∧ SamePlace template template' s s' ∧ s'.isConditional = false ∧
      (Member.ofNodes s'.children).map Member.bare =
        Member.gathered [] (Member.enumerated members) ∧
      (adjacentCopula? s').map (·.word) =
        if members ≠ [] ∧ (decide (2 ≤ before) ≠ decide (2 ≤ members.length)) then
          ((adjacentCopula? s).map (·.word)).map (Prose.agree · (isPlural members))
        else (adjacentCopula? s).map (·.word) := by
  obtain ⟨w, b, hfound, rfl, rfl⟩ := Found.exists_of_finds h
  have hfound' := found_agreeing hfound before hrow
  have hcontent := content_withContent hfound.isList (weave [] (Member.enumerated members))
  have hcond : ((agreeing w members before).site
      (b.withContent (weave [] (Member.enumerated members)))).isConditional = false := by
    rw [hfound'.isConditional_site, hcontent, any_isConditional_weave]
  refine ⟨_, _, withMembers_fill hfound members before, hfound'.finds,
    hfound.samePlace (alike_agreeing w members before) hfound', hcond, ?_, ?_⟩
  · rw [hfound'.ofNodes_children hcond, hfound'.map_bare_below, hcontent, membersAll_weave]
  · rw [Setting.word_adjacentCopula?_site, Setting.word_adjacentCopula?_site,
      copulaWord?_agreeing]

/-- **What writing another number comes to.**  The member of the entry gets other words,
    and the members around it stay as they are. -/
theorem withQuantity (h : Finds template list s) {e : ListSite.Entry}
    (he : s.findEntry? item = some e) {count : Nat}
    (hphrase : '<' ∉ Prose.quantityPhrase item count) :
    ∃ template' s' A B, ListChange.withQuantity template e item count = .changed template' ∧
      Finds template' list s' ∧ SamePlace template template' s s' ∧
      s'.isConditional = s.isConditional ∧
      Member.below s.children = A ++ ⟨e.text, true, some e.place.span⟩ :: B ∧
      (∀ m ∈ A, m.source ≠ some e.place.span) ∧
      (Member.below s'.children).map Member.bare = A.map Member.bare ++
        ⟨Prose.requantify e.text item count, true, none⟩ :: B.map Member.bare ∧
      (adjacentCopula? s').map (·.word) = (adjacentCopula? s).map (·.word) := by
  obtain ⟨w, b, hfound, rfl, rfl⟩ := Found.exists_of_finds h
  obtain ⟨content, A, B, hfound', hchange, hbelow, hsource, hbelow', hcond⟩ :=
    exists_withQuantity hfound he hphrase
  refine ⟨_, _, A, B, hchange, hfound'.finds, hfound.samePlace (.refl w) hfound', hcond, hbelow,
    hsource, hbelow', ?_⟩
  rw [Setting.word_adjacentCopula?_site, Setting.word_adjacentCopula?_site]

end Finds

end Scenery
