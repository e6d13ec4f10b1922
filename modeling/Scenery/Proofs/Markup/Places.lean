/-
  Scenery/Proofs/Markup/Places.lean
  =================================
  **Places in the template.**  Whoever changes a template writes at the places that its
  tree gives.  They can be trusted (`faithful_of_parse`): every place lies in the
  template and cuts no character, what stands there is what the node was read from, and
  the places of children are next to each other, inside the place of their parent.

  The nodes of a written tree have such places because its parts are laid out one
  behind the other, wherever the whole stands (`faithful_nodes`).  A wrapper that takes
  the content of a wrapper inside it takes nodes whose places lie inside its own; what
  it loses is only that they leave nothing out.
-/
import Scenery.Proofs.Markup.Shape
import Scenery.Proofs.Span

namespace Scenery

/-- A character of the text starts at the byte, or the text ends there. -/
def Text.IsBoundary (t : Text) (n : Nat) : Prop := ∃ u v, t = u ++ v ∧ Text.bytes u = n

namespace Span

/-- The range lies in a text and cuts no character. -/
structure In (s : Span) (t : Text) : Prop where
  start_le_stop : s.start ≤ s.stop
  stop_le : s.stop ≤ Text.bytes t
  start_boundary : t.IsBoundary s.start
  stop_boundary : t.IsBoundary s.stop

/-- The range lies in another one. -/
def Inside (s outer : Span) : Prop := outer.start ≤ s.start ∧ s.stop ≤ outer.stop

theorem Inside.trans {a b c : Span} (hab : a.Inside b) (hbc : b.Inside c) : a.Inside c :=
  ⟨Nat.le_trans hbc.1 hab.1, Nat.le_trans hab.2 hbc.2⟩

/-- The place of a piece between two others. -/
theorem in_behind (a x c : Text) : (behind a x).In (a ++ (x ++ c)) where
  start_le_stop := Nat.le_add_right _ _
  stop_le := by
    simp only [behind, Text.bytes_append]
    omega
  start_boundary := ⟨a, x ++ c, rfl, rfl⟩
  stop_boundary := ⟨a ++ x, c, by rw [List.append_assoc], Text.bytes_append a x⟩

/-- The end of a piece. -/
theorem in_emptyAt (a c : Text) : (emptyAt (Text.bytes a)).In (a ++ c) := in_behind a [] c

end Span

namespace Node

/-- Nodes in a row, each of which starts where the one before it ends, take up the bytes
    from the first number up to the second. -/
inductive Tiles : Nat → Nat → List Node → Prop
  | nil (n : Nat) : Tiles n n []
  | cons {stop : Nat} {n : Node} {ns : List Node} : n.span.start ≤ n.span.stop →
    Tiles n.span.stop stop ns → Tiles n.span.start stop (n :: ns)

/-- A node has its place in a template, and its children have theirs in it. -/
structure Laid (template : Text) (n : Node) : Prop where
  span_in : n.span.In template
  inner_in : n.inner.In template
  inner_inside : n.inner.Inside n.span
  /-- An entry has what is between its tags for its text. -/
  entry_text : ∀ t p, n = .entry t p → p.inner.slice template = t
  /-- The children are in the order of the template, and no two have a byte in common. -/
  siblings : n.children.Pairwise fun a b => a.span.stop ≤ b.span.start
  children_inside : ∀ c ∈ n.children, c.span.Inside n.inner
  /-- But for wrappers, which may have taken the content of another one, the children take
      up everything between the tags. -/
  tiled : ∀ kind place children, n = .element kind place children → kind ≠ .wrapper →
    Tiles place.inner.start place.inner.stop children

/-- What was opened for a node. -/
def opened? : Node → Option Opened
  | .element kind _ _ => some (.element kind)
  | .entry _ _ => some .entry
  | _ => none

/-- A node stands in a template where its place says: a text with its characters, a
    variable or an element that closes itself with its tag, and every other element with
    an opening tag that comes to it, its content, and a closing tag. -/
inductive WrittenIn (template : Text) : Node → Prop
  | text {raw : Text} {span : Span} : span.slice template = raw →
    WrittenIn template (.text raw span)
  | var {path : Text} {span : Span} {attributes : List Attribute} {sc : Bool} :
    Lexeme.ReadsAs (span.slice template) (.opening .var attributes sc) →
    Branch.Reads attributes path → WrittenIn template (.var path span)
  | single {n : Node} {o : Opened} {attributes : List Attribute} :
    n.opened? = some o → Branch.Opens o.tag attributes o →
    Lexeme.ReadsAs (n.span.slice template) (.opening o.tag attributes true) →
    n.inner = Span.emptyAt n.span.stop → WrittenIn template n
  | block {n : Node} {o : Opened} {attributes : List Attribute} {s c : Text} :
    n.opened? = some o → Branch.Opens o.tag attributes o →
    Lexeme.ReadsAs s (.opening o.tag attributes false) → Lexeme.ReadsAs c (.closing o.tag) →
    n.span.slice template = s ++ (n.inner.slice template ++ c) →
    n.inner.start = n.span.start + Text.bytes s →
    n.inner.stop + Text.bytes c = n.span.stop → WrittenIn template n

/-- A node has its place in a template and is written there. -/
structure Faithful (template : Text) (n : Node) : Prop extends n.Laid template where
  written : n.WrittenIn template

/-- A node that stands for a whole template which is not a single wrapper: it has no tags. -/
structure Implicit (template : Text) (n : Node) : Prop where
  span_eq : n.span = ⟨0, Text.bytes template⟩
  inner_eq : n.inner = ⟨0, Text.bytes template⟩
  no_wrapper : ∀ place children, significant n.children ≠ [.element .wrapper place children]

/-! ### Nodes in a row -/

namespace Tiles

variable {start stop : Nat} {ns : List Node}

theorem le (h : Tiles start stop ns) : start ≤ stop := by
  induction h with
  | nil => exact Nat.le_refl _
  | cons hn _ ih => exact Nat.le_trans hn ih

theorem inside (h : Tiles start stop ns) : ∀ n ∈ ns, n.span.Inside ⟨start, stop⟩ := by
  induction h with
  | nil =>
    intro n hn
    cases hn
  | cons hle hrest ih =>
    intro m hm
    rcases List.mem_cons.1 hm with rfl | hm
    · exact ⟨Nat.le_refl _, hrest.le⟩
    · exact ⟨Nat.le_trans hle (ih m hm).1, (ih m hm).2⟩

theorem pairwise (h : Tiles start stop ns) :
    ns.Pairwise fun a b => a.span.stop ≤ b.span.start := by
  induction h with
  | nil => exact .nil
  | cons _ hrest ih =>
    apply List.Pairwise.cons _ ih
    intro m hm
    exact (hrest.inside m hm).1

end Tiles

/-! ### What tags open -/

section Opened

variable (o : Opened) (place : Place) (ns : List Node)

theorem span_ofOpened : (ofOpened o place ns).span = place.span := by
  rcases o with (_ | _ | _ | _) | _ <;> rfl

theorem inner_ofOpened : (ofOpened o place ns).inner = place.inner := by
  rcases o with (_ | _ | _ | _) | _ <;> rfl

theorem opened?_ofOpened : (ofOpened o place ns).opened? = some o := by
  rcases o with (_ | _ | _ | _) | _ <;> rfl

end Opened

/-! ### Places of elements -/

/-- What a wrapper holds has been below its content. -/
theorem mem_descendantsOfAll_of_unwrapped {ns : List Node} {n : Node}
    (h : n ∈ descendantsOfAll (unwrapped ns)) : n ∈ descendantsOfAll ns := by
  unfold unwrapped at h
  split at h
  · next place children hs => exact mem_descendantsOfAll_of_significant hs h
  · exact h

theorem eq_or_mem_of_ofOpened {o : Opened} {place : Place} {ns : List Node} {n : Node}
    (h : n ∈ (ofOpened o place ns).descendants) :
    n = ofOpened o place ns ∨ n ∈ descendantsOfAll ns := by
  rcases o with (_ | _ | _ | _) | _
  · rcases List.mem_cons.1 h with rfl | h
    · exact .inl rfl
    · exact .inr (mem_descendantsOfAll_of_unwrapped h)
  · exact List.mem_cons.1 h
  · exact List.mem_cons.1 h
  · exact List.mem_cons.1 h
  · exact .inl (List.mem_singleton.1 h)

section Laid

variable {template : Text} {place : Place} {ns : List Node}

/-- An element is laid out if what is between its tags is. -/
theorem laid_element {kind : Element} (hspan : place.span.In template)
    (hinner : place.inner.In template) (hinside : place.inner.Inside place.span)
    (htiles : Tiles place.inner.start place.inner.stop ns) :
    Laid template (.element kind place ns) where
  span_in := hspan
  inner_in := hinner
  inner_inside := hinside
  entry_text := by
    intro t p h
    cases h
  siblings := htiles.pairwise
  children_inside := htiles.inside
  tiled := by
    intro kind' place' children h _
    cases h
    exact htiles

/-- What a wrapper takes from a wrapper inside it lies inside its own place. -/
theorem laid_wrapper (hspan : place.span.In template) (hinner : place.inner.In template)
    (hinside : place.inner.Inside place.span)
    (htiles : Tiles place.inner.start place.inner.stop ns) (hns : ∀ n ∈ ns, n.Laid template) :
    Laid template (.element .wrapper place (unwrapped ns)) := by
  unfold unwrapped
  split
  · next place' children hs =>
    have hin := mem_of_significant hs
    have hwrapper := hns _ hin
    refine ⟨hspan, hinner, hinside, ?_, hwrapper.siblings, ?_, ?_⟩
    · intro t p h
      cases h
    · intro c hc
      apply (hwrapper.children_inside c hc).trans
      exact hwrapper.inner_inside.trans (htiles.inside _ hin)
    · intro kind p c h hkind
      cases h
      exact absurd rfl hkind
  · exact laid_element hspan hinner hinside htiles

/-- A node that is no element is laid out if its text, should it be an entry, is what is
    between its tags. -/
theorem laid_leaf {n : Node} (hleaf : ∀ kind place children, n ≠ .element kind place children)
    (hspan : n.span.In template) (hinner : n.inner.In template)
    (hinside : n.inner.Inside n.span)
    (htext : ∀ t p, n = .entry t p → p.inner.slice template = t) : n.Laid template := by
  have hchildren : n.children = [] := by
    cases n with
    | element kind place children => exact absurd rfl (hleaf kind place children)
    | entry | var | text => rfl
  refine ⟨hspan, hinner, hinside, htext, ?_, ?_, ?_⟩
  · rw [hchildren]
    exact .nil
  · rw [hchildren]
    intro c hc
    cases hc
  · intro kind p c h
    exact absurd h (hleaf kind p c)

theorem laid_ofOpened {o : Opened} (hspan : place.span.In template)
    (hinner : place.inner.In template) (hinside : place.inner.Inside place.span)
    (htiles : Tiles place.inner.start place.inner.stop ns) (hns : ∀ n ∈ ns, n.Laid template)
    (htext : o = .entry → place.inner.slice template = ns.flatMap rawText) :
    (ofOpened o place ns).Laid template := by
  cases o with
  | element kind =>
    cases kind with
    | wrapper => exact laid_wrapper hspan hinner hinside htiles hns
    | sentence | conditional | list => exact laid_element hspan hinner hinside htiles
  | entry =>
    have hentry : (Node.entry (ns.flatMap rawText) place).Laid template := by
      apply laid_leaf
      · nofun
      · exact hspan
      · exact hinner
      · exact hinside
      · intro t p h
        cases h
        exact htext rfl
    exact hentry

end Laid

/-! ### Single parts where they are written -/

section Parts

variable {s : Text} {attributes : List Attribute}

theorem faithful_text (pre raw post : Text) :
    Faithful (pre ++ (raw ++ post)) (.text raw (Span.behind pre raw)) := by
  have hspan := Span.in_behind pre raw post
  constructor
  · exact laid_leaf nofun hspan hspan ⟨Nat.le_refl _, Nat.le_refl _⟩ nofun
  · exact .text (Span.slice_behind pre raw post)

/-- Nothing is inside a tag that closes itself. -/
theorem inner_alone (pre s post : Text) :
    (Span.emptyAt (Span.behind pre s).stop).In (pre ++ (s ++ post)) ∧
      (Span.emptyAt (Span.behind pre s).stop).Inside (Span.behind pre s) ∧
      (Span.emptyAt (Span.behind pre s).stop).slice (pre ++ (s ++ post)) = [] := by
  have hstop : (Span.behind pre s).stop = Text.bytes (pre ++ s) := (Text.bytes_append pre s).symm
  rw [hstop, ← List.append_assoc]
  refine ⟨Span.in_emptyAt (pre ++ s) post, ?_, Span.slice_behind (pre ++ s) [] post⟩
  exact ⟨by simp [Span.behind, Span.emptyAt], Nat.le_of_eq hstop.symm⟩

theorem faithful_var {path : Text} {sc : Bool}
    (hs : Lexeme.ReadsAs s (.opening .var attributes sc)) (hreads : Branch.Reads attributes path)
    (pre post : Text) : Faithful (pre ++ (s ++ post)) (.var path (Span.behind pre s)) := by
  obtain ⟨hin, hinside, -⟩ := inner_alone pre s post
  constructor
  · exact laid_leaf nofun (Span.in_behind pre s post) hin hinside nofun
  · rw [← Span.slice_behind pre s post] at hs
    exact .var hs hreads

theorem faithful_single {o : Opened} (hs : Lexeme.ReadsAs s (.opening o.tag attributes true))
    (hopens : Branch.Opens o.tag attributes o) (pre post : Text) :
    Faithful (pre ++ (s ++ post))
      (ofOpened o ⟨Span.behind pre s, Span.emptyAt (Span.behind pre s).stop⟩ []) := by
  obtain ⟨hin, hinside, hslice⟩ := inner_alone pre s post
  constructor
  · apply laid_ofOpened (Span.in_behind pre s post) hin hinside (.nil _)
    · intro c hc
      cases hc
    · intro _
      exact hslice
  · apply WrittenIn.single (opened?_ofOpened o _ _) hopens
    · rw [span_ofOpened, Span.slice_behind]
      exact hs
    · rw [inner_ofOpened, span_ofOpened]

/-- What is between two tags. -/
theorem source_between (pre s content c post : Text) :
    pre ++ (s ++ content ++ c ++ post) = pre ++ s ++ (content ++ (c ++ post)) := by
  simp only [List.append_assoc]

theorem faithful_block {o : Opened} {c content pre post : Text} {ns : List Node}
    (hs : Lexeme.ReadsAs s (.opening o.tag attributes false))
    (hc : Lexeme.ReadsAs c (.closing o.tag)) (hopens : Branch.Opens o.tag attributes o)
    (htiles : Tiles (Text.bytes (pre ++ s)) (Text.bytes (pre ++ s) + Text.bytes content) ns)
    (hns : ∀ n ∈ ns, n.Laid (pre ++ (s ++ content ++ c ++ post)))
    (htext : o = .entry → ns.flatMap rawText = content) :
    Faithful (pre ++ (s ++ content ++ c ++ post))
      (ofOpened o ⟨Span.behind pre (s ++ content ++ c), Span.behind (pre ++ s) content⟩ ns) := by
  have hinner := Span.in_behind (pre ++ s) content (c ++ post)
  have hslice := Span.slice_behind (pre ++ s) content (c ++ post)
  rw [← source_between] at hinner hslice
  constructor
  · refine laid_ofOpened (Span.in_behind pre _ post) hinner ?_ htiles hns ?_
    · simp only [Span.Inside, Span.behind, Text.bytes_append]
      omega
    · intro ho
      rw [htext ho]
      exact hslice
  · apply WrittenIn.block (opened?_ofOpened o _ _) hopens hs hc
    · rw [span_ofOpened, inner_ofOpened, hslice, Span.slice_behind, List.append_assoc]
    · rw [span_ofOpened, inner_ofOpened]
      exact Text.bytes_append pre s
    · rw [span_ofOpened, inner_ofOpened]
      simp only [Span.behind, Text.bytes_append, Nat.add_assoc]

end Parts

end Node

namespace Branch

open Node

/-- The places of branches in a row meet. -/
theorem tiles_nodes (bs : List Branch) (offset : Nat) :
    Tiles offset (offset + Text.bytes (sourceAll bs)) (nodes offset bs) := by
  induction bs generalizing offset with
  | nil =>
    rw [nodes_nil, sourceAll_nil]
    exact .nil offset
  | cons b bs ih =>
    have hspan := span_node b offset
    have htail := ih (offset + Text.bytes b.source)
    rw [nodes_cons, sourceAll_cons, Text.bytes_append, ← Nat.add_assoc]
    have h : Tiles (b.node offset).span.start
        (offset + Text.bytes b.source + Text.bytes (sourceAll bs))
        (b.node offset :: nodes (offset + Text.bytes b.source) bs) := by
      apply Tiles.cons
      · rw [hspan]
        exact Nat.le_add_right _ _
      · rw [hspan]
        exact htail
    rw [hspan] at h
    exact h

/-- The tags of a branch can be read from the characters that write them. -/
def TagsRead (ls : List Lexeme) : Prop := ∀ s piece, .tag s piece ∈ ls → Lexeme.ReadsAs s piece

theorem tagsRead_of_spelled {after : Text} {ls : List Lexeme} (h : Lexeme.Spelled after ls) :
    TagsRead ls := by
  induction ls with
  | nil =>
    intro s piece hmem
    cases hmem
  | cons l ls ih =>
    intro s piece hmem
    rcases List.mem_cons.1 hmem with rfl | hmem
    · exact h.1
    · exact ih (Lexeme.spelled_of_cons h) s piece hmem

/-! ### Where written parts stand -/

theorem source_var (s : Text) (attributes : List Attribute) (sc : Bool) (path : Text) :
    source (.var s attributes sc path) = s := by simp [source, lexemes]

section Behind

variable (pre s : Text) (attributes : List Attribute)

theorem node_var_behind (sc : Bool) (path : Text) :
    (Branch.var s attributes sc path).node (Text.bytes pre) = .var path (Span.behind pre s) := by
  rw [node]
  rfl

theorem node_single_behind (o : Opened) :
    (Branch.single s attributes o).node (Text.bytes pre) =
      .ofOpened o ⟨Span.behind pre s, Span.emptyAt (Span.behind pre s).stop⟩ [] := by
  rw [node]
  rfl

theorem node_block_behind (o : Opened) (c : Text) (content : List Branch) :
    (Branch.block s attributes o c content).node (Text.bytes pre) =
      .ofOpened o
        ⟨Span.behind pre (s ++ sourceAll content ++ c), Span.behind (pre ++ s) (sourceAll content)⟩
        (nodes (Text.bytes (pre ++ s)) content) := by
  rw [node]
  simp only [Span.behind, Text.bytes_append, Nat.add_assoc]

end Behind

mutual
/-- **A written part of a template has its nodes where they are written.** -/
theorem faithful_node {around : List Tag} (b : Branch) (hnested : b.Nested around)
    (hread : TagsRead b.lexemes) (pre post : Text) :
    ∀ n ∈ (b.node (Text.bytes pre)).descendants, n.Faithful (pre ++ (b.source ++ post)) := by
  intro n hn
  cases b with
  | text raw =>
    rw [node, Node.descendants, List.mem_singleton] at hn
    rw [hn, source_text]
    exact faithful_text pre raw post
  | var s attributes sc path =>
    rw [Nested] at hnested
    rw [node_var_behind, Node.descendants, List.mem_singleton] at hn
    rw [hn, source_var]
    have hpiece := hread s (.opening .var attributes sc) (by simp [lexemes])
    exact faithful_var hpiece hnested.2 pre post
  | single s attributes o =>
    rw [Nested] at hnested
    rw [node_single_behind] at hn
    rw [source_single]
    rcases eq_or_mem_of_ofOpened hn with rfl | hn
    · exact faithful_single (hread s _ (by simp [lexemes])) hnested.2 pre post
    · cases hn
  | block s attributes o c content =>
    rw [Nested] at hnested
    obtain ⟨-, hopens, hcontent⟩ := hnested
    have hbelow : ∀ n ∈ descendantsOfAll (nodes (Text.bytes (pre ++ s)) content),
        n.Faithful (pre ++ s ++ (sourceAll content ++ (c ++ post))) := by
      apply faithful_nodes content hcontent
      intro s' piece hmem
      apply hread
      simp [lexemes, hmem]
    rw [← source_between] at hbelow
    rw [node_block_behind] at hn
    rw [source_block]
    rcases eq_or_mem_of_ofOpened hn with rfl | hn
    · have hs : Lexeme.ReadsAs s (.opening o.tag attributes false) :=
        hread s _ (by simp [lexemes])
      apply faithful_block hs (hread c _ (by simp [lexemes])) hopens
      · exact tiles_nodes content _
      · intro n hn
        exact (hbelow n (mem_descendantsOfAll_self hn)).toLaid
      · rintro rfl
        exact flatMap_rawText hcontent _
    · exact hbelow n hn

theorem faithful_nodes {around : List Tag} (bs : List Branch) (hnested : NestedAll around bs)
    (hread : TagsRead (lexemesAll bs)) (pre post : Text) :
    ∀ n ∈ descendantsOfAll (nodes (Text.bytes pre) bs),
      n.Faithful (pre ++ (sourceAll bs ++ post)) := by
  intro n hn
  cases bs with
  | nil => cases hn
  | cons b bs =>
    obtain ⟨hb, hbs⟩ := nestedAll_cons.1 hnested
    rw [lexemesAll_cons] at hread
    rw [nodes_cons, descendantsOfAll, ← Text.bytes_append] at hn
    have hfirst := faithful_node b hb (fun s p h => hread s p (List.mem_append_left _ h)) pre
      (sourceAll bs ++ post)
    have hrest := faithful_nodes bs hbs (fun s p h => hread s p (List.mem_append_right _ h))
      (pre ++ b.source) post
    rw [sourceAll_cons, List.append_assoc]
    rcases List.mem_append.1 hn with hn | hn
    · exact hfirst n hn
    · rw [← List.append_assoc]
      exact hrest n hn
end

end Branch

namespace Node

/-- **The places of a tree can be trusted**: they lie in the template and cut no character, what
    stands there is what the node was read from, and those of children are next to each other,
    inside that of their parent.  The root of a template that is not a single wrapper has no
    tags, and has the whole template for its place. -/
theorem faithful_of_parse {template : Text} {root : Node} (hparse : parse template = .ok root) :
    (∀ n ∈ root.descendants, n.Laid template) ∧
      (∀ n ∈ descendantsOfAll root.children, n.WrittenIn template) ∧
      (root.WrittenIn template ∨ root.Implicit template) := by
  obtain ⟨bs, ⟨hspelled, hnested⟩, rfl, rfl⟩ := Branch.exists_of_parse hparse
  have hbelow := Branch.faithful_nodes bs hnested (Branch.tagsRead_of_spelled hspelled) [] []
  rw [List.append_nil, List.nil_append, Text.bytes_nil] at hbelow
  unfold root
  split
  · next place children hs =>
    have hroot : ∀ n ∈ (element .wrapper place children).descendants,
        n.Faithful (Branch.sourceAll bs) := by
      intro n hn
      exact hbelow n (mem_descendantsOfAll_of_mem (mem_of_significant hs) hn)
    refine ⟨?_, ?_, .inl (hroot _ (mem_descendants_self _)).written⟩
    · intro n hn
      exact (hroot n hn).toLaid
    · intro n hn
      exact (hroot n (List.mem_cons_of_mem _ hn)).written
  · next hs =>
    have hwhole := Span.in_behind [] (Branch.sourceAll bs) []
    rw [Span.behind, Text.bytes_nil, Nat.zero_add, List.nil_append, List.append_nil] at hwhole
    have htiles := Branch.tiles_nodes bs 0
    rw [Nat.zero_add] at htiles
    refine ⟨?_, ?_, .inr ⟨rfl, rfl, hs⟩⟩
    · intro n hn
      rcases List.mem_cons.1 hn with rfl | hn
      · exact laid_element hwhole hwhole ⟨Nat.le_refl _, Nat.le_refl _⟩ htiles
      · exact (hbelow n hn).toLaid
    · intro n hn
      exact (hbelow n hn).written

/-- Characters of several bytes, wrappers in one another, an entry and a list that close
    themselves, and a text in front of all. -/
def terrace : Text :=
  ("☾ <desc> <desc><s>Voilà <il name='α'><item>un CAFÉ</item>, <if cond='nuit == true'>" ++
    "<item/></if></il><il/> <var v='qui'/>…</s></desc></desc>").toList

theorem faithful_of_parse_of_terrace :
    ∃ root, parse terrace = .ok root ∧
      (root.descendants.map fun n => (n.span.start, n.span.stop)) =
        [(0, 146), (0, 4), (4, 146), (17, 132), (20, 27), (27, 105), (41, 62), (62, 64),
          (64, 100), (88, 95), (105, 110), (110, 111), (111, 125), (125, 128)] ∧
      (∀ n ∈ root.descendants, n.Laid terrace) ∧
      (∀ n ∈ descendantsOfAll root.children, n.WrittenIn terrace) ∧
      (root.WrittenIn terrace ∨ root.Implicit terrace) := by
  obtain ⟨root, hparse, hspans⟩ := exists_parsed terrace
    (fun root => (root.descendants.map fun n => (n.span.start, n.span.stop)) =
      [(0, 146), (0, 4), (4, 146), (17, 132), (20, 27), (27, 105), (41, 62), (62, 64),
        (64, 100), (88, 95), (105, 110), (110, 111), (111, 125), (125, 128)])
    (by decide +kernel)
  exact ⟨root, hparse, hspans, faithful_of_parse hparse⟩

end Node

end Scenery
