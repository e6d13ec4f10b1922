/-
  Scenery/Proofs/Markup/Branch.lean
  =================================
  **Templates as written trees.**  A branch is a part of a template together with the
  characters that write it, so unlike a node it knows nothing of places: a row of
  branches is laid out from any byte on (`Branch.nodes`).  Where a branch may stand is
  a matter of the elements around it (`Branch.Nested`).

  Parsing is the reverse of writing: `parse_sourceAll` reads a written tree back, and
  `exists_of_parse` finds the written tree behind every template that parses.  Whoever
  changes a template can therefore change its written tree instead.
-/
import Scenery.Markup.Tree
import Scenery.Proofs.Markup.Lexeme

namespace Scenery

/-- An element that stands open allows a tag below it, and an item has a list around
    it. -/
def Tag.FitsIn (tag : Tag) (around : List Tag) : Prop :=
  (∀ parent ∈ around, parent.forbids tag = false) ∧ (tag = .item → .list ∈ around)

/-- A part of a template as it is written: an element with both its tags, an element
    that closes itself, a variable, or a run of text. -/
inductive Branch where
  | block (source : Text) (attributes : List Attribute) (opened : Opened) (closing : Text)
      (content : List Branch)
  | single (source : Text) (attributes : List Attribute) (opened : Opened)
  | var (source : Text) (attributes : List Attribute) (selfClosing : Bool) (path : Text)
  | text (raw : Text)

namespace Branch

mutual
/-- The lexemes of a branch. -/
def lexemes : Branch → List Lexeme
  | .block s attributes o c content =>
    .tag s (.opening o.tag attributes false) ::
      (lexemesAll content ++ [.tag c (.closing o.tag)])
  | .single s attributes o => [.tag s (.opening o.tag attributes true)]
  | .var s attributes sc _ => [.tag s (.opening .var attributes sc)]
  | .text raw => [.text raw]

/-- The lexemes of branches in a row. -/
def lexemesAll : List Branch → List Lexeme
  | [] => []
  | b :: bs => lexemes b ++ lexemesAll bs
end

/-- The characters of a branch. -/
def source (b : Branch) : Text := Lexeme.sources b.lexemes

/-- The characters of branches in a row. -/
def sourceAll (bs : List Branch) : Text := Lexeme.sources (lexemesAll bs)

mutual
/-- The node of a branch that stands at a byte. -/
def node (offset : Nat) : Branch → Node
  | .block s _ o c content =>
    let start := offset + Text.bytes s
    let stop := start + Text.bytes (sourceAll content)
    .ofOpened o ⟨⟨offset, stop + Text.bytes c⟩, ⟨start, stop⟩⟩ (nodes start content)
  | .single s _ o =>
    .ofOpened o ⟨⟨offset, offset + Text.bytes s⟩, Span.emptyAt (offset + Text.bytes s)⟩ []
  | .var s _ _ path => .var path ⟨offset, offset + Text.bytes s⟩
  | .text raw => .text raw ⟨offset, offset + Text.bytes raw⟩

/-- The nodes of branches in a row, the first of which stands at a byte. -/
def nodes (offset : Nat) : List Branch → List Node
  | [] => []
  | b :: bs => node offset b :: nodes (offset + Text.bytes b.source) bs
end

/-- What an opening tag comes to, wherever it stands. -/
def Opens (tag : Tag) (attributes : List Attribute) (o : Opened) : Prop :=
  ∀ span, Builder.opening tag attributes span = .ok (.content o)

/-- The variable of a tag, wherever it stands. -/
def Reads (attributes : List Attribute) (path : Text) : Prop :=
  ∀ span, Builder.opening .var attributes span = .ok (.leaf (.var path span))

mutual
/-- A branch may stand inside elements, innermost first. -/
def Nested (around : List Tag) : Branch → Prop
  | .block _ attributes o _ content =>
    o.tag.FitsIn around ∧ Opens o.tag attributes o ∧ NestedAll (o.tag :: around) content
  | .single _ attributes o => o.tag.FitsIn around ∧ Opens o.tag attributes o
  | .var _ attributes _ path => Tag.var.FitsIn around ∧ Reads attributes path
  | .text _ => True

/-- Branches in a row may stand inside elements. -/
def NestedAll (around : List Tag) : List Branch → Prop
  | [] => True
  | b :: bs => Nested around b ∧ NestedAll around bs
end

/-- The branches are a template as it is written. -/
def Written (bs : List Branch) : Prop :=
  Lexeme.Spelled [] (lexemesAll bs) ∧ NestedAll [] bs

/-! ### Rows -/

@[simp] theorem lexemesAll_nil : lexemesAll [] = [] := by rw [lexemesAll]

@[simp] theorem lexemesAll_cons (b : Branch) (bs : List Branch) :
    lexemesAll (b :: bs) = lexemes b ++ lexemesAll bs := by rw [lexemesAll]

@[simp] theorem lexemesAll_append (xs ys : List Branch) :
    lexemesAll (xs ++ ys) = lexemesAll xs ++ lexemesAll ys := by
  induction xs with
  | nil => simp
  | cons x xs ih => simp [ih]

@[simp] theorem sourceAll_nil : sourceAll [] = [] := by simp [sourceAll]

@[simp] theorem sourceAll_cons (b : Branch) (bs : List Branch) :
    sourceAll (b :: bs) = b.source ++ sourceAll bs := by simp [sourceAll, source]

@[simp] theorem sourceAll_append (xs ys : List Branch) :
    sourceAll (xs ++ ys) = sourceAll xs ++ sourceAll ys := by simp [sourceAll]

@[simp] theorem source_block (s c : Text) (attributes : List Attribute) (o : Opened)
    (content : List Branch) :
    source (.block s attributes o c content) = s ++ sourceAll content ++ c := by
  simp [source, lexemes, sourceAll]

@[simp] theorem source_single (s : Text) (attributes : List Attribute) (o : Opened) :
    source (.single s attributes o) = s := by simp [source, lexemes]

@[simp] theorem source_text (raw : Text) : source (.text raw) = raw := by
  simp [source, lexemes]

@[simp] theorem nodes_nil (offset : Nat) : nodes offset [] = [] := by rw [nodes]

@[simp] theorem nodes_cons (offset : Nat) (b : Branch) (bs : List Branch) :
    nodes offset (b :: bs) = b.node offset :: nodes (offset + Text.bytes b.source) bs := by
  rw [nodes]

theorem nodes_append (offset : Nat) (xs ys : List Branch) :
    nodes offset (xs ++ ys) =
      nodes offset xs ++ nodes (offset + Text.bytes (sourceAll xs)) ys := by
  induction xs generalizing offset with
  | nil => simp
  | cons x xs ih => simp [ih, Nat.add_assoc]

/-- A node stands where its characters do. -/
theorem span_node (b : Branch) (offset : Nat) :
    (b.node offset).span = ⟨offset, offset + Text.bytes b.source⟩ := by
  cases b with
  | text raw =>
    rw [node, source_text]
    rfl
  | var s attributes sc path =>
    rw [node, source, lexemes]
    simp [Node.span]
  | single s attributes o =>
    rw [node, source_single]
    rcases o with (_ | _ | _ | _) | _ <;> rfl
  | block s attributes o c content =>
    have hstop : offset + Text.bytes s + Text.bytes (sourceAll content) + Text.bytes c =
        offset + Text.bytes (s ++ sourceAll content ++ c) := by
      simp [Nat.add_assoc]
    rw [node, source_block, ← hstop]
    rcases o with (_ | _ | _ | _) | _ <;> rfl

@[simp] theorem nestedAll_nil (around : List Tag) : NestedAll around [] := by
  rw [NestedAll]
  trivial

@[simp] theorem nestedAll_cons {around : List Tag} {b : Branch} {bs : List Branch} :
    NestedAll around (b :: bs) ↔ Nested around b ∧ NestedAll around bs := by rw [NestedAll]

@[simp] theorem nestedAll_append {around : List Tag} {xs ys : List Branch} :
    NestedAll around (xs ++ ys) ↔ NestedAll around xs ∧ NestedAll around ys := by
  induction xs with
  | nil => simp
  | cons x xs ih => simp [ih, and_assoc]

/-! ### Descriptions around everything

A description allows everything below it, and no element has to have one around it. -/

theorem fitsIn_append_desc {tag : Tag} {xs ys : List Tag} :
    tag.FitsIn (xs ++ .desc :: ys) ↔ tag.FitsIn (xs ++ ys) := by
  have hdesc : Tag.desc.forbids tag = false := rfl
  simp [Tag.FitsIn, or_imp, forall_and, hdesc]

mutual
theorem nested_append_desc {xs ys : List Tag} (b : Branch) :
    b.Nested (xs ++ .desc :: ys) ↔ b.Nested (xs ++ ys) := by
  cases b with
  | text raw => simp only [Nested]
  | var | single => simp only [Nested, fitsIn_append_desc]
  | block s attributes o c content =>
    have hcontent : NestedAll ((o.tag :: xs) ++ .desc :: ys) content ↔
        NestedAll ((o.tag :: xs) ++ ys) content := nestedAll_append_desc content
    rw [Nested, Nested, fitsIn_append_desc]
    rw [List.cons_append, List.cons_append] at hcontent
    rw [hcontent]

theorem nestedAll_append_desc {xs ys : List Tag} (bs : List Branch) :
    NestedAll (xs ++ .desc :: ys) bs ↔ NestedAll (xs ++ ys) bs := by
  cases bs with
  | nil => simp
  | cons b bs =>
    rw [nestedAll_cons, nestedAll_cons, nested_append_desc b, nestedAll_append_desc bs]
end

theorem nestedAll_desc {around : List Tag} {bs : List Branch} :
    NestedAll (.desc :: around) bs ↔ NestedAll around bs := by
  have h : NestedAll ([] ++ .desc :: around) bs ↔ NestedAll ([] ++ around) bs :=
    nestedAll_append_desc bs
  exact h

/-! ### Items hold text -/

theorem exists_text_of_nested_item {around : List Tag} {b : Branch}
    (h : b.Nested (.item :: around)) : ∃ raw, b = .text raw := by
  have hforbids (tag : Tag) : ¬tag.FitsIn (.item :: around) := by
    intro hfit
    exact absurd (hfit.1 .item List.mem_cons_self) (by simp [Tag.forbids])
  cases b with
  | text raw => exact ⟨raw, rfl⟩
  | var s attributes sc path =>
    rw [Nested] at h
    exact absurd h.1 (hforbids _)
  | single s attributes o =>
    rw [Nested] at h
    exact absurd h.1 (hforbids _)
  | block s attributes o c content =>
    rw [Nested] at h
    exact absurd h.1 (hforbids _)

/-- An entry takes the characters of its content for its text. -/
theorem flatMap_rawText {around : List Tag} {bs : List Branch}
    (h : NestedAll (.item :: around) bs) (offset : Nat) :
    (nodes offset bs).flatMap Node.rawText = sourceAll bs := by
  induction bs generalizing offset with
  | nil => simp
  | cons b bs ih =>
    obtain ⟨hb, hbs⟩ := nestedAll_cons.1 h
    obtain ⟨raw, rfl⟩ := exists_text_of_nested_item hb
    rw [nodes_cons, List.flatMap_cons, ih hbs, sourceAll_cons, node, source_text]
    rfl

/-! ### What opening tags come to -/

theorem misplacedIn?_eq_none_iff {b : Builder} {tag : Tag} :
    b.misplacedIn? tag = none ↔ tag.FitsIn b.openTags := by
  unfold Tag.FitsIn
  rcases hf : b.openTags.find? (·.forbids tag) with _ | parent
  · have hall : ∀ parent ∈ b.openTags, parent.forbids tag = false := by
      simpa using hf
    rw [Builder.misplacedIn?, hf]
    by_cases hi : tag = .item ∧ (!b.openTags.contains .list) = true
    · rw [if_pos hi]
      simp only [reduceCtorEq, false_iff, not_and]
      intro _ hlist
      exact absurd (hlist hi.1) (by simpa using hi.2)
    · rw [if_neg hi]
      refine ⟨fun _ => ⟨hall, fun htag => ?_⟩, fun _ => rfl⟩
      simpa [htag] using hi
  · have hp := List.find?_some hf
    rw [Builder.misplacedIn?, hf]
    refine ⟨fun h => absurd h (by simp), fun h => ?_⟩
    rw [h.1 parent (List.mem_of_find?_eq_some hf)] at hp
    cases hp

theorem conditionalElement_ok {attributes : List Attribute} {offset : Nat} {e : Element}
    (h : Builder.conditionalElement attributes offset = .ok e) (offset' : Nat) :
    (∃ c, e = .conditional c) ∧ Builder.conditionalElement attributes offset' = .ok e := by
  unfold Builder.conditionalElement at h ⊢
  rcases hf : Attribute.find? attributes [['c', 'o', 'n', 'd'], "condition".toList] with _ | expr
  · rw [hf] at h
    cases h
  · rw [hf] at h
    rcases hc : Condition.read expr with e' | c
    · simp [hc] at h
    · simp only [hc, Except.ok.injEq] at h ⊢
      exact ⟨⟨c, h.symm⟩, h⟩

theorem variableNode_ok {attributes : List Attribute} {span : Span} {n : Node}
    (h : Builder.variableNode attributes span = .ok n) :
    ∃ path, n = .var path span ∧
      ∀ span', Builder.variableNode attributes span' = .ok (.var path span') := by
  unfold Builder.variableNode at h ⊢
  rcases hf : Attribute.find? attributes [['v'], ['v', 'a', 'l', 'u', 'e']] with _ | value
  · simp [hf] at h
  · by_cases hp : Path.isPath (Text.trim value)
    · simp only [hf, hp, if_true, Except.ok.injEq] at h ⊢
      exact ⟨Text.trim value, h.symm, fun _ => rfl⟩
    · simp [hf, hp] at h

theorem opens_of_opening {tag : Tag} {attributes : List Attribute} {span : Span} {o : Opened}
    (h : Builder.opening tag attributes span = .ok (.content o)) :
    o.tag = tag ∧ Opens tag attributes o := by
  cases tag with
  | desc | sentence | list | item =>
    simp only [Builder.opening, Except.ok.injEq, Opening.content.injEq] at h
    subst h
    exact ⟨rfl, fun _ => rfl⟩
  | conditional =>
    rcases hc : Builder.conditionalElement attributes span.start with e | e
    · simp [Builder.opening, hc, Except.map] at h
    · simp only [Builder.opening, hc, Except.map, Except.ok.injEq, Opening.content.injEq] at h
      subst h
      obtain ⟨⟨c, rfl⟩, -⟩ := conditionalElement_ok hc 0
      refine ⟨rfl, ?_⟩
      intro span'
      simp [Builder.opening, (conditionalElement_ok hc span'.start).2, Except.map]
  | var =>
    rcases hv : Builder.variableNode attributes span with e | n
    · simp [Builder.opening, hv, Except.map] at h
    · simp [Builder.opening, hv, Except.map] at h

theorem reads_of_opening {tag : Tag} {attributes : List Attribute} {span : Span} {n : Node}
    (h : Builder.opening tag attributes span = .ok (.leaf n)) :
    tag = .var ∧ ∃ path, n = .var path span ∧ Reads attributes path := by
  cases tag with
  | desc | sentence | list | item => simp [Builder.opening] at h
  | conditional =>
    rcases hc : Builder.conditionalElement attributes span.start with e | e <;>
      simp [Builder.opening, hc, Except.map] at h
  | var =>
    rcases hv : Builder.variableNode attributes span with e | n'
    · simp [Builder.opening, hv, Except.map] at h
    · simp only [Builder.opening, hv, Except.map, Except.ok.injEq, Opening.leaf.injEq] at h
      subst h
      obtain ⟨path, rfl, hall⟩ := variableNode_ok hv
      refine ⟨rfl, path, rfl, ?_⟩
      intro span'
      simp [Builder.opening, hall span', Except.map]

/-! ### Building the tree of a written tree -/

theorem addAll_cons {b b' : Builder} {t : Token} {ts : List Token} (h : b.add t = .ok b') :
    b.addAll (t :: ts) = b'.addAll ts := by
  rw [Builder.addAll, h]

theorem open_content {b : Builder} {attributes : List Attribute} {o : Opened}
    (hfit : o.tag.FitsIn b.openTags) (ho : Opens o.tag attributes o) (sc : Bool) (span : Span) :
    b.open_ o.tag attributes sc span =
      if sc then .ok (b.push (.ofOpened o ⟨span, Span.emptyAt span.stop⟩ []))
      else .ok ⟨⟨o, span, b.nodes⟩ :: b.frames, []⟩ := by
  rw [Builder.open_, misplacedIn?_eq_none_iff.2 hfit, ho span]

theorem exists_of_open {b b' : Builder} {tag : Tag} {attributes : List Attribute} {sc : Bool}
    {span : Span} (h : b.open_ tag attributes sc span = .ok b') :
    (∃ path, tag = .var ∧ Tag.var.FitsIn b.openTags ∧ Reads attributes path ∧
      b' = b.push (.var path span)) ∨
    (∃ o, o.tag = tag ∧ o.tag.FitsIn b.openTags ∧ Opens o.tag attributes o ∧
      b' = if sc then b.push (.ofOpened o ⟨span, Span.emptyAt span.stop⟩ [])
        else ⟨⟨o, span, b.nodes⟩ :: b.frames, []⟩) := by
  rcases hm : b.misplacedIn? tag with _ | parent
  · have hfit := misplacedIn?_eq_none_iff.1 hm
    rcases ho : Builder.opening tag attributes span with e | (o | n)
    · simp [Builder.open_, hm, ho] at h
    · obtain ⟨rfl, hopens⟩ := opens_of_opening ho
      rw [open_content hfit hopens] at h
      refine .inr ⟨o, rfl, hfit, hopens, ?_⟩
      cases sc <;> cases h <;> rfl
    · obtain ⟨rfl, path, rfl, hreads⟩ := reads_of_opening ho
      simp only [Builder.open_, hm, ho, Except.ok.injEq] at h
      exact .inl ⟨path, rfl, hfit, hreads, h.symm⟩
  · simp [Builder.open_, hm] at h

theorem close_frame (frame : Frame) (outer : List Frame) (ns : List Node) (span : Span) :
    Builder.close ⟨frame :: outer, ns⟩ frame.opened.tag span =
      .ok ⟨outer, .ofOpened frame.opened
        ⟨⟨frame.span.start, span.stop⟩, ⟨frame.span.stop, span.start⟩⟩ ns.reverse ::
          frame.before⟩ := by
  simp [Builder.close]

theorem tag_eq_of_close {frame : Frame} {outer : List Frame} {ns : List Node} {tag : Tag}
    {span : Span} {b : Builder} (h : Builder.close ⟨frame :: outer, ns⟩ tag span = .ok b) :
    tag = frame.opened.tag := by
  by_cases htag : frame.opened.tag = tag
  · exact htag.symm
  · by_cases hvoid : tag.isVoid ∨ !(Builder.openTags ⟨frame :: outer, ns⟩).contains tag <;>
      simp only [Builder.close, htag, hvoid, if_true, if_false, reduceCtorEq] at h

mutual
theorem addAll_lexemes (br : Branch) (b : Builder) (offset : Nat) (rest : List Token)
    (h : br.Nested b.openTags) :
    b.addAll (Lexeme.tokens offset br.lexemes ++ rest) = (b.push (br.node offset)).addAll rest := by
  cases br with
  | text raw =>
    rw [lexemes, node]
    exact addAll_cons rfl
  | var s attributes sc path =>
    rw [Nested] at h
    rw [lexemes, node]
    apply addAll_cons
    show b.open_ .var attributes sc _ = _
    rw [Builder.open_, misplacedIn?_eq_none_iff.2 h.1, h.2]
  | single s attributes o =>
    rw [Nested] at h
    rw [lexemes, node]
    apply addAll_cons
    exact open_content h.1 h.2 true _
  | block s attributes o c content =>
    rw [Nested] at h
    obtain ⟨hfit, ho, hcontent⟩ := h
    rw [lexemes, node]
    simp only [Lexeme.tokens_cons, Lexeme.tokens_append, Lexeme.source_tag, Lexeme.tokens_nil,
      List.cons_append, List.append_assoc]
    have hopen : b.add ((Lexeme.tag s (.opening o.tag attributes false)).token offset) =
        .ok ⟨⟨o, ⟨offset, offset + Text.bytes s⟩, b.nodes⟩ :: b.frames, []⟩ :=
      open_content hfit ho false _
    rw [addAll_cons hopen, addAll_lexemesAll content
      ⟨⟨o, ⟨offset, offset + Text.bytes s⟩, b.nodes⟩ :: b.frames, []⟩ _ _ hcontent]
    apply addAll_cons
    refine (close_frame ⟨o, ⟨offset, offset + Text.bytes s⟩, b.nodes⟩ b.frames _ _).trans ?_
    simp [Builder.push, sourceAll]

theorem addAll_lexemesAll (bs : List Branch) (b : Builder) (offset : Nat) (rest : List Token)
    (h : NestedAll b.openTags bs) :
    b.addAll (Lexeme.tokens offset (lexemesAll bs) ++ rest) =
      Builder.addAll { b with nodes := (nodes offset bs).reverse ++ b.nodes } rest := by
  cases bs with
  | nil => simp
  | cons br bs =>
    obtain ⟨hbr, hbs⟩ := nestedAll_cons.1 h
    rw [lexemesAll_cons, Lexeme.tokens_append, List.append_assoc, addAll_lexemes br b _ _ hbr,
      addAll_lexemesAll bs (b.push _) _ _ hbs]
    simp [Builder.push, source]
end

theorem parse_sourceAll {bs : List Branch} (h : Written bs) :
    Node.parse (sourceAll bs) =
      .ok (Node.root (Text.bytes (sourceAll bs)) (nodes 0 bs)) := by
  have hscan : Token.scan (sourceAll bs) = .ok (Lexeme.tokens 0 (lexemesAll bs)) :=
    Lexeme.scanFrom_sources h.1 0
  have hadd := addAll_lexemesAll bs {} 0 [] h.2
  rw [List.append_nil] at hadd
  rw [Node.parse, hscan]
  simp only [Node.ofTokens, hadd, Builder.addAll]
  simp

/-! ### The written tree behind a template -/

/-- Tokens that a builder takes are branches up to the first closing tag of an element
    that was open before; else the builder has taken all or left an element open. -/
theorem exists_of_addAll (ls : List Lexeme) (b b' : Builder) (offset : Nat)
    (h : b.addAll (Lexeme.tokens offset ls) = .ok b') :
    ∃ bs rest, ls = lexemesAll bs ++ rest ∧ NestedAll b.openTags bs ∧
      ((rest = [] ∧ b'.frames = b.frames) ∨
        (∃ s tag ls', rest = .tag s (.closing tag) :: ls') ∨
        b.frames.length < b'.frames.length) := by
  match ls with
  | [] =>
    rw [Lexeme.tokens_nil, Builder.addAll, Except.ok.injEq] at h
    exact ⟨[], [], by simp, by simp, .inl ⟨rfl, by rw [h]⟩⟩
  | .text raw :: ls =>
    rw [Lexeme.tokens_cons, addAll_cons rfl] at h
    obtain ⟨bs, rest, hls, hbs, hend⟩ := exists_of_addAll ls _ b' _ h
    exact ⟨.text raw :: bs, rest, by simp [lexemes, hls], by simp [Nested]; exact hbs, hend⟩
  | .tag s (.closing tag) :: ls =>
    exact ⟨[], _, by simp, by simp, .inr (.inl ⟨s, tag, ls, rfl⟩)⟩
  | .tag s (.opening tag attributes sc) :: ls =>
    rw [Lexeme.tokens_cons, Builder.addAll] at h
    rcases hopen : b.add ((Lexeme.tag s (.opening tag attributes sc)).token offset) with e | b₁
    · simp [hopen] at h
    rw [hopen] at h
    rcases exists_of_open hopen with ⟨path, rfl, hfit, hreads, rfl⟩ | ⟨o, rfl, hfit, ho, hb₁⟩
    · obtain ⟨bs, rest, hls, hbs, hend⟩ := exists_of_addAll ls _ b' _ h
      exact ⟨.var s attributes sc path :: bs, rest, by simp [lexemes, hls],
        by simp only [nestedAll_cons, Nested]; exact ⟨⟨hfit, hreads⟩, hbs⟩, hend⟩
    cases sc with
    | true =>
      rw [if_pos rfl] at hb₁
      subst hb₁
      obtain ⟨bs, rest, hls, hbs, hend⟩ := exists_of_addAll ls _ b' _ h
      exact ⟨.single s attributes o :: bs, rest, by simp [lexemes, hls],
        by simp only [nestedAll_cons, Nested]; exact ⟨⟨hfit, ho⟩, hbs⟩, hend⟩
    | false =>
      rw [if_neg Bool.false_ne_true] at hb₁
      subst hb₁
      -- what follows is the content of the element, up to its closing tag if it has one
      obtain ⟨content, rest, hls, hcontent, hend⟩ := exists_of_addAll ls _ b' _ h
      rcases hend with ⟨-, hframes⟩ | ⟨c, tag', ls', rfl⟩ | hlt
      · exact ⟨[], .tag s (.opening o.tag attributes false) :: ls, by simp, by simp,
          .inr (.inr (by simp [hframes]))⟩
      · change Builder.addAll _ _ = _ at h
        rw [hls, Lexeme.tokens_append, addAll_lexemesAll content _ _ _ hcontent,
          Lexeme.tokens_cons, Builder.addAll] at h
        split at h
        · cases h
        · next b₂ hclose =>
          have htag := tag_eq_of_close hclose
          subst htag
          have hb₂ := (close_frame _ _ _ _).symm.trans hclose
          cases hb₂
          obtain ⟨bs, rest, hls', hbs, hend⟩ := exists_of_addAll ls' _ b' _ h
          refine ⟨.block s attributes o c content :: bs, rest, ?_, ?_, hend⟩
          · rw [hls, hls']
            simp [lexemes]
          · simp only [nestedAll_cons, Nested]
            exact ⟨⟨hfit, ho, hcontent⟩, hbs⟩
      · exact ⟨[], .tag s (.opening o.tag attributes false) :: ls, by simp, by simp,
          .inr (.inr (Nat.lt_of_succ_lt hlt))⟩
termination_by ls.length
decreasing_by
  all_goals simp_all
  all_goals omega

/-- A template that parses has a written tree, and its nodes are the nodes of that. -/
theorem exists_of_parse {t : Text} {root : Node} (h : Node.parse t = .ok root) :
    ∃ bs, Written bs ∧ sourceAll bs = t ∧ root = Node.root (Text.bytes t) (nodes 0 bs) := by
  rcases hscan : Token.scan t with e | ts
  · simp [Node.parse, hscan] at h
  obtain ⟨ls, hspelled, hsource, htokens⟩ := Lexeme.exists_of_scanFrom hscan
  rcases hadd : Builder.addAll {} ts with e | b
  · simp [Node.parse, hscan, Node.ofTokens, hadd] at h
  rcases hframes : b.frames with _ | ⟨frame, outer⟩
  · rw [← htokens] at hadd
    obtain ⟨bs, rest, hls, hbs, hend⟩ := exists_of_addAll ls {} b 0 hadd
    have hrest : rest = [] := by
      rcases hend with ⟨hrest, -⟩ | ⟨s, tag, ls', rfl⟩ | hlt
      · exact hrest
      · -- no element is open that the tag could close
        rw [hls, Lexeme.tokens_append, addAll_lexemesAll bs _ _ _ hbs] at hadd
        cases hadd
      · simp [hframes] at hlt
    rw [hrest, List.append_nil] at hls
    subst hls
    refine ⟨bs, ⟨hspelled, hbs⟩, hsource, ?_⟩
    have hparse := parse_sourceAll ⟨hspelled, hbs⟩
    rw [show sourceAll bs = t from hsource, h] at hparse
    exact Except.ok.inj hparse
  · simp [Node.parse, hscan, Node.ofTokens, hadd, hframes] at h

end Branch

theorem eq_ok_of_toOption {ε α : Type} {x : Except ε α} {a : α} (h : x.toOption = some a) :
    x = .ok a := by
  cases x with
  | error e => cases h
  | ok b =>
    cases h
    rfl

namespace Node

/-- The root of a tree is a wrapper, and holds what a wrapper of the whole template holds. -/
theorem exists_root (size : Nat) (ns : List Node) :
    ∃ place, root size ns = .element .wrapper place (unwrapped ns) := by
  unfold root unwrapped
  split
  · next place children h => exact ⟨place, rfl⟩
  · exact ⟨_, rfl⟩

theorem exists_of_parse_eq_ok {template : Text} {root : Node}
    (h : Node.parse template = .ok root) :
    ∃ place children, root = .element .wrapper place children := by
  obtain ⟨bs, -, -, rfl⟩ := Branch.exists_of_parse h
  obtain ⟨place, hroot⟩ := exists_root (Text.bytes template) (Branch.nodes 0 bs)
  exact ⟨place, _, hroot⟩

theorem mem_of_significant {ns : List Node} {n : Node} (h : significant ns = [n]) : n ∈ ns := by
  have hmem : n ∈ significant ns := by
    rw [h]
    exact List.mem_cons_self
  exact (List.mem_filter.1 hmem).1

theorem mem_descendants_self (n : Node) : n ∈ n.descendants := by
  cases n <;> exact List.mem_cons_self

theorem mem_descendantsOfAll_of_mem {ns : List Node} {n m : Node} (hn : n ∈ ns)
    (hm : m ∈ n.descendants) : m ∈ descendantsOfAll ns := by
  induction ns with
  | nil => cases hn
  | cons c cs ih =>
    rw [descendantsOfAll]
    rcases List.mem_cons.1 hn with rfl | hn
    · exact List.mem_append_left _ hm
    · exact List.mem_append_right _ (ih hn)

theorem mem_descendantsOfAll_self {ns : List Node} {n : Node} (hn : n ∈ ns) :
    n ∈ descendantsOfAll ns :=
  mem_descendantsOfAll_of_mem hn (mem_descendants_self n)

/-- What is below a wrapper with blanks around it is below its row. -/
theorem mem_descendantsOfAll_of_significant {ns children : List Node} {place : Place}
    (h : significant ns = [.element .wrapper place children]) {n : Node}
    (hn : n ∈ descendantsOfAll children) : n ∈ descendantsOfAll ns := by
  apply mem_descendantsOfAll_of_mem (mem_of_significant h)
  exact List.mem_cons_of_mem _ hn

/-- The tree of a concrete template can be computed. -/
theorem exists_parsed (template : Text) (P : Node → Prop) [DecidablePred P]
    (h : (Node.parse template).toOption.any (P ·)) :
    ∃ root, Node.parse template = .ok root ∧ P root := by
  obtain ⟨root, hroot, hP⟩ := (Option.any_eq_true _ _).1 h
  exact ⟨root, eq_ok_of_toOption hroot, of_decide_eq_true hP⟩

end Node

end Scenery
