/-
  Scenery/Proofs/Render/Wrapping.lean
  ===================================
  **Wrappers around a template are not seen.**  A template in nested descriptions, with
  nothing but blanks between the tags of one and the next, has the tree of the template
  itself, further on by what stands before it (`exists_parse_wrap`), so it is rendered
  as the template itself in every context (`render_wrap`).

  The tags do not join with the template: it parses by itself, so a `<` at its end
  starts no tag, and before another tag it still starts none (`Lexeme.spelled_lt`).
-/
import Scenery.Proofs.ItemList.Content
import Scenery.Proofs.Render.Around

namespace Scenery

/-- What stands between the tags of a description and those of the one inside it. -/
structure Gap where
  opening : Text
  closing : Text

namespace Gap

/-- There are only blanks between the tags. -/
def IsBlank (g : Gap) : Prop :=
  Text.isAllBlank g.opening = true ∧ Text.isAllBlank g.closing = true

/-- The opening tag of a description. -/
def openTag : Text := "<desc>".toList

/-- The closing tag of a description. -/
def closeTag : Text := "</desc>".toList

/-- The opening tags of nested descriptions, one more than there are gaps. -/
def openings : List Gap → Text
  | [] => openTag
  | g :: gs => openTag ++ g.opening ++ openings gs

/-- The closing tags of nested descriptions. -/
def closings : List Gap → Text
  | [] => closeTag
  | g :: gs => closings gs ++ g.closing ++ closeTag

/-- A template in nested descriptions, outermost first. -/
def wrap (gaps : List Gap) (template : Text) : Text :=
  openings gaps ++ template ++ closings gaps

end Gap

namespace Branch

open Gap

/-- A description as it is written. -/
def description (content : List Branch) : Branch :=
  .block openTag [] (.element .wrapper) closeTag content

/-- Branches in nested descriptions. -/
def wrapped : List Gap → List Branch → Branch
  | [], bs => description bs
  | g :: gs, bs => description (ofText g.opening ++ wrapped gs bs :: ofText g.closing)

theorem exists_wrapped (gaps : List Gap) (bs : List Branch) :
    ∃ content, wrapped gaps bs = description content := by
  cases gaps with
  | nil => exact ⟨_, rfl⟩
  | cons g gs => exact ⟨_, rfl⟩

theorem opened?_wrapped (gaps : List Gap) (bs : List Branch) :
    (wrapped gaps bs).opened? = some (.element .wrapper) := by
  obtain ⟨content, h⟩ := exists_wrapped gaps bs
  rw [h]
  rfl

theorem source_wrapped (gaps : List Gap) (bs : List Branch) :
    (wrapped gaps bs).source = wrap gaps (sourceAll bs) := by
  induction gaps with
  | nil =>
    rw [wrapped, description, source_block]
    rfl
  | cons g gs ih =>
    rw [wrapped, description, source_block, sourceAll_append, sourceAll_cons, sourceAll_ofText,
      sourceAll_ofText, ih]
    simp only [wrap, openings, closings, List.append_assoc]

/-! ### Reading the tags -/

theorem spelled_description {content : List Branch}
    (h : Lexeme.Spelled ['<'] (lexemesAll content)) (after : Text) :
    Lexeme.Spelled after (description content).lexemes := by
  have hopen : Lexeme.ReadsAs openTag (.opening .desc [] false) :=
    readsAs_opening (show Tag.ofName? ['d', 'e', 's', 'c'] = some .desc from rfl)
  have hclose : Lexeme.ReadsAs closeTag (.closing .desc) :=
    ⟨['/', 'd', 'e', 's', 'c', '>'], rfl, rfl⟩
  rw [description, lexemes]
  exact ⟨hopen, Lexeme.spelled_append_tag.2 ⟨h, hclose, trivial⟩⟩

theorem nested_description {around : List Tag} (content : List Branch) :
    (description content).Nested around ↔ Tag.desc.FitsIn around ∧ NestedAll around content := by
  have hopens : Opens .desc [] (.element .wrapper) := fun _ => rfl
  rw [description, Nested, Opened.tag, Element.tag, nestedAll_desc]
  simp [hopens]

/-- Blanks can stand in front of everything. -/
theorem spelled_blanks {raw : Text} (h : Text.isAllBlank raw) (after : Text) :
    Lexeme.Spelled after (lexemesAll (ofText raw)) := by
  have hplain : Plain raw after := by
    apply plain_of_not_mem
    intro hmem
    exact absurd (List.all_eq_true.1 h _ hmem) (by decide)
  by_cases hnil : raw = []
  · simp [ofText, hnil]
  · simp [ofText, hnil, lexemes, hplain]

theorem spelled_wrapped {gaps : List Gap} (hgaps : ∀ g ∈ gaps, g.IsBlank) {bs : List Branch}
    (h : Lexeme.Spelled ['<'] (lexemesAll bs)) (after : Text) :
    Lexeme.Spelled after (wrapped gaps bs).lexemes := by
  induction gaps generalizing after with
  | nil => exact spelled_description h after
  | cons g gs ih =>
    obtain ⟨hg, hgs⟩ := List.forall_mem_cons.1 hgaps
    apply spelled_description
    rw [lexemesAll_append, lexemesAll_cons]
    apply (spelled_append_element (opened?_wrapped gs bs)).2
    exact ⟨spelled_blanks hg.1 _, ih hgs _, spelled_blanks hg.2 _⟩

theorem fitsIn_nil {tag : Tag} (h : tag ≠ .item) : tag.FitsIn [] := by
  constructor
  · intro parent hparent
    cases hparent
  · intro hitem
    exact absurd hitem h

theorem nested_wrapped (gaps : List Gap) {bs : List Branch} (h : NestedAll [] bs) :
    (wrapped gaps bs).Nested [] := by
  have hfits : Tag.desc.FitsIn [] := fitsIn_nil (by decide)
  induction gaps with
  | nil => exact (nested_description bs).2 ⟨hfits, h⟩
  | cons g gs ih =>
    apply (nested_description _).2
    refine ⟨hfits, ?_⟩
    rw [nestedAll_append, nestedAll_cons]
    exact ⟨nestedAll_ofText _ _, ih, nestedAll_ofText _ _⟩

/-! ### The tree of a wrapped template -/

theorem all_isBlank_ofText {raw : Text} (h : Text.isAllBlank raw) :
    (ofText raw).all isBlank = true := by
  by_cases hnil : raw = []
  · simp [ofText, hnil]
  · simp [ofText, hnil, isBlank, h]

/-- Only the branch between blanks counts. -/
theorem significant_between {xs ys : List Branch} (hxs : xs.all isBlank) (hys : ys.all isBlank)
    {b : Branch} (hb : b.isBlank = false) (offset : Nat) :
    Node.significant (nodes offset (xs ++ b :: ys)) =
      [b.node (offset + Text.bytes (sourceAll xs))] := by
  have hnode : (b.node (offset + Text.bytes (sourceAll xs))).isBlankText = false := by
    rw [isBlankText_node, hb]
  rw [nodes_append, nodes_cons, Node.significant_append_cons hnode,
    Render.significant_nodes_eq_nil.2 hxs, Render.significant_nodes_eq_nil.2 hys]
  rfl

theorem isBlank_wrapped (gaps : List Gap) (bs : List Branch) :
    (wrapped gaps bs).isBlank = false := by
  obtain ⟨content, h⟩ := exists_wrapped gaps bs
  rw [h]
  rfl

/-- The content of the innermost description is that of all of them. -/
theorem exists_node_wrapped {gaps : List Gap} (hgaps : ∀ g ∈ gaps, g.IsBlank)
    (bs : List Branch) (offset : Nat) :
    ∃ place, (wrapped gaps bs).node offset =
      .element .wrapper place
        (Node.unwrapped (nodes (offset + Text.bytes (openings gaps)) bs)) := by
  induction gaps generalizing offset with
  | nil =>
    rw [wrapped, description, node]
    exact ⟨_, rfl⟩
  | cons g gs ih =>
    obtain ⟨hg, hgs⟩ := List.forall_mem_cons.1 hgaps
    obtain ⟨place, hnode⟩ := ih hgs (offset + Text.bytes openTag + Text.bytes g.opening)
    have hsignificant := significant_between (all_isBlank_ofText hg.1) (all_isBlank_ofText hg.2)
      (isBlank_wrapped gs bs) (offset + Text.bytes openTag)
    rw [sourceAll_ofText, hnode] at hsignificant
    have hbytes : offset + Text.bytes (openings (g :: gs)) =
        offset + Text.bytes openTag + Text.bytes g.opening + Text.bytes (openings gs) := by
      simp only [openings, Text.bytes_append, Nat.add_assoc]
    rw [wrapped, description, node, Node.ofOpened, Node.unwrapped_of_significant hsignificant,
      hbytes]
    exact ⟨_, rfl⟩

theorem written_wrapped {gaps : List Gap} (hgaps : ∀ g ∈ gaps, g.IsBlank) {bs : List Branch}
    (h : Written bs) : Written [wrapped gaps bs] := by
  constructor
  · rw [lexemesAll_cons, lexemesAll_nil, List.append_nil]
    exact spelled_wrapped hgaps (Lexeme.spelled_lt h.1) []
  · rw [nestedAll_cons]
    exact ⟨nested_wrapped gaps h.2, nestedAll_nil _⟩

/-! ### Blanks around a wrapper -/

theorem isAllBlank_sourceAll {xs : List Branch} (h : xs.all isBlank) :
    Text.isAllBlank (sourceAll xs) = true := by
  induction xs with
  | nil =>
    rw [sourceAll_nil]
    rfl
  | cons x xs ih =>
    rw [List.all_cons, Bool.and_eq_true] at h
    have hx : Text.isAllBlank x.source = true := by
      cases x with
      | text raw =>
        rw [source_text]
        exact h.1
      | var | single | block => cases h.1
    rw [sourceAll_cons, Text.isAllBlank, List.all_append, Bool.and_eq_true]
    exact ⟨hx, ih h.2⟩

/-- If one node counts, it is that of a branch between blanks. -/
theorem exists_of_significant {bs : List Branch} {offset : Nat} {n : Node}
    (h : Node.significant (nodes offset bs) = [n]) :
    ∃ xs b ys, bs = xs ++ b :: ys ∧ xs.all isBlank ∧ ys.all isBlank ∧ b.isBlank = false ∧
      n = b.node (offset + Text.bytes (sourceAll xs)) := by
  induction bs generalizing offset with
  | nil => cases h
  | cons b bs ih =>
    rw [nodes_cons, Node.significant, List.filter_cons, isBlankText_node] at h
    cases hb : b.isBlank with
    | true =>
      rw [hb] at h
      obtain ⟨xs, b', ys, rfl, hxs, hys, hb', hn⟩ := ih h
      refine ⟨b :: xs, b', ys, rfl, ?_, hys, hb', ?_⟩
      · rw [List.all_cons, hb, hxs]
        rfl
      · rw [hn, sourceAll_cons, Text.bytes_append, Nat.add_assoc]
    | false =>
      rw [hb] at h
      obtain ⟨hn, hrest⟩ := List.cons.inj h
      refine ⟨[], b, bs, rfl, rfl, Render.significant_nodes_eq_nil.1 hrest, hb, ?_⟩
      rw [← hn, sourceAll_nil]
      rfl

end Branch

namespace Node

open Branch

theorem root_of_significant {ns children : List Node} {place : Place}
    (h : significant ns = [.element .wrapper place children]) (size : Nat) :
    root size ns = .element .wrapper place children := by
  simp only [root, h]

/-- Blanks around a template that has a wrapper of its own only move it. -/
theorem parse_between_blanks {template : Text} {root : Node} (hparse : parse template = .ok root)
    (hroot : root.inner ≠ root.span) {g : Gap} (hg : g.IsBlank) :
    parse (g.opening ++ template ++ g.closing) = .ok (root.moved (Text.bytes g.opening)) := by
  obtain ⟨bs, ⟨hspelled, hnested⟩, rfl, rfl⟩ := exists_of_parse hparse
  have hexplicit : ∃ place children,
      significant (nodes 0 bs) = [.element .wrapper place children] := by
    by_contra hnone
    apply hroot
    unfold Node.root
    split
    · next place children h => exact absurd ⟨place, children, h⟩ hnone
    · rfl
  obtain ⟨place, children, hsignificant⟩ := hexplicit
  obtain ⟨xs, b, ys, rfl, hxs, hys, hb, hnode⟩ := exists_of_significant hsignificant
  have hopened : b.opened? = some (.element .wrapper) :=
    eq_of_beq (Render.isWrapper_of_node hnode.symm)
  -- the blanks join the blanks that stand next to the wrapper already
  have hbefore : Text.isAllBlank (g.opening ++ sourceAll xs) = true := by
    rw [Text.isAllBlank, List.all_append, Bool.and_eq_true]
    exact ⟨hg.1, isAllBlank_sourceAll hxs⟩
  have hbehind : Text.isAllBlank (sourceAll ys ++ g.closing) = true := by
    rw [Text.isAllBlank, List.all_append, Bool.and_eq_true]
    exact ⟨isAllBlank_sourceAll hys, hg.2⟩
  have hwritten : Written (ofText (g.opening ++ sourceAll xs) ++
      b :: ofText (sourceAll ys ++ g.closing)) := by
    rw [lexemesAll_append, lexemesAll_cons, spelled_append_element hopened] at hspelled
    rw [nestedAll_append, nestedAll_cons] at hnested
    constructor
    · rw [lexemesAll_append, lexemesAll_cons]
      apply (spelled_append_element hopened).2
      exact ⟨spelled_blanks hbefore _, hspelled.2.1, spelled_blanks hbehind _⟩
    · rw [nestedAll_append, nestedAll_cons]
      exact ⟨nestedAll_ofText _ _, hnested.2.1, nestedAll_ofText _ _⟩
  have hsource : sourceAll (ofText (g.opening ++ sourceAll xs) ++
      b :: ofText (sourceAll ys ++ g.closing)) =
      g.opening ++ sourceAll (xs ++ b :: ys) ++ g.closing := by
    simp only [sourceAll_append, sourceAll_cons, sourceAll_ofText, List.append_assoc]
  have hsignificant' := significant_between (all_isBlank_ofText hbefore)
    (all_isBlank_ofText hbehind) hb 0
  have hoffset : 0 + Text.bytes (g.opening ++ sourceAll xs) =
      Text.bytes g.opening + (0 + Text.bytes (sourceAll xs)) := by
    simp only [Text.bytes_append, Nat.zero_add]
  rw [sourceAll_ofText, hoffset, node_moved, ← hnode] at hsignificant'
  rw [← hsource, parse_sourceAll hwritten, root_of_significant hsignificant' _,
    root_of_significant hsignificant]
  rfl

end Node

namespace Render

open Gap

/-- The tree of a wrapped template is a wrapper of what the template holds, further on. -/
theorem exists_parse_wrap {template : Text} {root : Node} (hparse : Node.parse template = .ok root)
    {gaps : List Gap} (hgaps : ∀ g ∈ gaps, g.IsBlank) :
    ∃ place, Node.parse (wrap gaps template) =
      .ok (.element .wrapper place
        (Node.movedAll (Text.bytes (openings gaps)) root.children)) := by
  obtain ⟨bs, hwritten, rfl, rfl⟩ := Branch.exists_of_parse hparse
  obtain ⟨place, hnode⟩ := Branch.exists_node_wrapped hgaps bs 0
  obtain ⟨place', hroot⟩ := Node.exists_root (Text.bytes (Branch.sourceAll bs)) (Branch.nodes 0 bs)
  have hmoved : Node.unwrapped (Branch.nodes (0 + Text.bytes (openings gaps)) bs) =
      Node.movedAll (Text.bytes (openings gaps)) (Node.unwrapped (Branch.nodes 0 bs)) := by
    rw [Nat.add_comm, Branch.nodes_moved, Node.movedAll, Node.unwrapped_relocateAll]
  have hsource : Branch.sourceAll [Branch.wrapped gaps bs] = wrap gaps (Branch.sourceAll bs) := by
    rw [Branch.sourceAll_cons, Branch.sourceAll_nil, List.append_nil, Branch.source_wrapped]
  rw [← hsource, Branch.parse_sourceAll (Branch.written_wrapped hgaps hwritten),
    Branch.nodes_cons, Branch.nodes_nil, hnode, hroot, hmoved]
  exact ⟨place, rfl⟩

/-- Templates whose trees differ in places only are rendered alike. -/
theorem render_of_bare_eq {template template' : Text} {root root' : Node}
    (hparse : Node.parse template = .ok root) (hparse' : Node.parse template' = .ok root')
    (h : root'.bare = root.bare) (ctx : Context) : render template' ctx = render template ctx := by
  have hfaults : root'.faults ctx = root.faults ctx := by
    rw [← faults_bare root' (.refl _ ctx), h, faults_bare root (.refl _ ctx)]
  have hpassages : passages ctx root' = passages ctx root := by
    rw [← passages_bare root' (.refl _ ctx), h, passages_bare root (.refl _ ctx)]
  rw [render_eq hparse', render_eq hparse, tree_eq hparse', tree_eq hparse, hfaults, hpassages]

/-- **Wrappers around a template are not seen.**  A template that parses also does so in
    nested descriptions with blanks between their tags, and with blanks around it too if it has
    a wrapper of its own.  Its tree then holds the same, further on by the bytes in front of it,
    and in every context it is rendered to the same text or fails with the same error. -/
theorem render_wrap {template : Text} {root : Node} (hparse : Node.parse template = .ok root)
    {gaps : List Gap} (hgaps : ∀ g ∈ gaps, g.IsBlank) :
    (∃ root', Node.parse (wrap gaps template) = .ok root' ∧
      root'.children = Node.movedAll (Text.bytes (openings gaps)) root.children ∧
      ∀ ctx, render (wrap gaps template) ctx = render template ctx) ∧
    (root.inner ≠ root.span → ∀ g : Gap, g.IsBlank →
      ∃ root', Node.parse (wrap gaps (g.opening ++ template ++ g.closing)) = .ok root' ∧
        root'.children =
          Node.movedAll (Text.bytes (openings gaps ++ g.opening)) root.children ∧
        ∀ ctx, render (wrap gaps (g.opening ++ template ++ g.closing)) ctx =
          render template ctx) := by
  obtain ⟨place, children, rfl⟩ := Node.exists_of_parse_eq_ok hparse
  constructor
  · obtain ⟨place', hwrapped⟩ := exists_parse_wrap hparse hgaps
    refine ⟨_, hwrapped, rfl, ?_⟩
    intro ctx
    apply render_of_bare_eq hparse hwrapped
    rw [Node.bare, Node.bare, Node.children, Node.bareAll_movedAll]
  · intro hroot g hg
    obtain ⟨place', hwrapped⟩ := exists_parse_wrap (Node.parse_between_blanks hparse hroot hg) hgaps
    have hchildren : Node.movedAll (Text.bytes (openings gaps))
        (Node.moved (Text.bytes g.opening) (.element .wrapper place children)).children =
        Node.movedAll (Text.bytes (openings gaps ++ g.opening)) children := by
      rw [Text.bytes_append]
      exact Node.movedAll_movedAll _ _ children
    rw [hchildren] at hwrapped
    refine ⟨_, hwrapped, rfl, ?_⟩
    intro ctx
    apply render_of_bare_eq hparse hwrapped
    rw [Node.bare, Node.bare, Node.bareAll_movedAll]

/-- A template with a `<` at its end and a variable. -/
def shelfLabel : Text := "<s>Shelf <var v='shelf.no'/>.</s> 1 <".toList

/-- Two descriptions more, the inner one on a line of its own. -/
def lineBreaks : List Gap := [⟨"\n ".toList, "\n".toList⟩, ⟨[], [' ']⟩]

/-- The wrapped label shows the number of the shelf, or fails for want of it; a label that is a
    description may have blanks around it. -/
theorem render_wrap_of_shelfLabel :
    (∃ root root', Node.parse shelfLabel = .ok root ∧ (∀ g ∈ lineBreaks, g.IsBlank) ∧
      wrap lineBreaks shelfLabel =
        ("<desc>\n <desc><desc><s>Shelf <var v='shelf.no'/>.</s> 1 <" ++
          "</desc> </desc>\n</desc>").toList ∧
      Node.parse (wrap lineBreaks shelfLabel) = .ok root' ∧
      root'.children = Node.movedAll 20 root.children ∧
      render (wrap lineBreaks shelfLabel) (.ofList [("shelf.no".toList, .text "7".toList)]) =
        .ok "Shelf 7. 1 <".toList ∧
      render (wrap lineBreaks shelfLabel) {} =
        .error (.eval (.unknownPath "shelf.no".toList))) ∧
    ∃ root root', Node.parse "<desc>Shelf 7</desc> ".toList = .ok root ∧ root.inner ≠ root.span ∧
      Node.parse "<desc> <desc>Shelf 7</desc> \n</desc>".toList = .ok root' ∧
      root'.children = Node.movedAll 7 root.children ∧
      ∀ ctx, render "<desc> <desc>Shelf 7</desc> \n</desc>".toList ctx =
        render "<desc>Shelf 7</desc> ".toList ctx := by
  constructor
  · obtain ⟨root, hparse, htext, hfault⟩ := Node.exists_parsed shelfLabel
      (fun root =>
        (tree (.ofList [("shelf.no".toList, .text "7".toList)]) root).toOption =
            some "Shelf 7. 1 <".toList ∧
          root.faults {} = [.unknownPath "shelf.no".toList]) (by decide +kernel)
    have hgaps : ∀ g ∈ lineBreaks, g.IsBlank := by
      unfold lineBreaks IsBlank
      decide
    obtain ⟨⟨root', hparse', hchildren, hrender⟩, -⟩ := render_wrap hparse hgaps
    refine ⟨root, root', hparse, hgaps, by decide, hparse', hchildren, ?_, ?_⟩
    · rw [hrender, render_eq hparse, eq_ok_of_toOption htext]
      rfl
    · rw [hrender, render_eq hparse, tree_eq hparse, hfault]
      rfl
  · obtain ⟨root, hparse, hroot⟩ := Node.exists_parsed "<desc>Shelf 7</desc> ".toList
      (fun root => root.inner ≠ root.span) (by decide +kernel)
    have hnone : ∀ g ∈ ([] : List Gap), g.IsBlank := by
      intro g hg
      cases hg
    have hg : IsBlank ⟨[' '], ['\n']⟩ := by
      unfold IsBlank
      decide
    obtain ⟨root', hparse', hchildren, hrender⟩ :=
      (render_wrap hparse hnone).2 hroot ⟨[' '], ['\n']⟩ hg
    exact ⟨root, root', hparse, hroot, hparse', hchildren, hrender⟩

end Render

end Scenery
