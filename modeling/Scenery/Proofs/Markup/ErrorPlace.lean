/-
  Scenery/Proofs/Markup/ErrorPlace.lean
  =====================================
  **Errors point at the tag that is wrong.**  The offset of an error is the byte of a `<`,
  and the name of the tag that the error is about follows it, behind a `/` if that tag is
  a closing one (`MarkupError.PointsInto`).  So whoever looks up the place finds the tag.

  Scanning takes the offset from the `<` that it is behind.  Building the tree takes it
  from the token that it cannot take, with all the tokens before that one taken
  (`Token.Rejection`); only an element that is never closed is reported from afar, and
  that is the innermost one that is open at the end (`Token.LeftOpen`).
-/
import Scenery.Proofs.Markup.Grammar
import Scenery.Proofs.Markup.TagStart

namespace Scenery

namespace MarkupError

/-- Whether a `/` stands before the name of the tag that an error is about.  A tag that
    breaks off can be of either kind. -/
def closes? : MarkupError → Option Bool
  | .unterminatedTag _ _ => none
  | .malformedTag _ _ reason => some (reason == .closingWithAttributes)
  | .mismatchedClose _ _ _ | .unexpectedClose _ _ => some true
  | .missingAttribute _ _ _ | .unclosed _ _ | .misplaced _ _ _ | .condition _ _ => some false

/-- Some element is never closed. -/
def IsUnclosed (e : MarkupError) : Prop := ∃ tag offset, e = .unclosed tag offset

/-- The tag that an error is about starts where the error says. -/
structure PointsInto (e : MarkupError) (template : Text) : Prop where
  offset_lt : e.offset < Text.bytes template
  boundary : template.IsBoundary e.offset
  peek_eq : template.peek e.offset = some '<'
  named : ∃ closes name rest,
    template.LeftAt (e.offset + 1) (TagText.slash closes ++ name ++ rest) ∧
    Text.asciiLower name = e.tag.name ∧ TagText.endsName rest ∧
    ∀ known ∈ e.closes?, closes = known

end MarkupError

namespace Token

/-- The tag of a token and whether it is a closing one. -/
def tag? : Token → Option (Bool × Tag)
  | .opening tag _ _ _ => some (false, tag)
  | .closing tag _ => some (true, tag)
  | .text _ _ => none

/-- An error is about the tag of a token. -/
structure Blamed (e : MarkupError) (t : Token) : Prop where
  start_eq : t.span.start = e.offset
  tag_eq : ∃ closes, t.tag? = some (closes, e.tag) ∧ e.closes? = some closes

/-- An error is about a token between others: those before it can be taken, and it
    cannot be taken behind them. -/
structure Rejection (e : MarkupError) (before : List Token) (t : Token) (after : List Token) :
    Prop where
  start_eq : t.span.start = e.offset
  before_over : ∀ u ∈ before, u.span.stop ≤ e.offset
  after_behind : ∀ u ∈ after, t.span.stop ≤ u.span.start
  taken : ∃ b, Builder.addAll {} before = .ok b ∧ b.add t = .error e
  accepted : ∃ around, Steps [] before around ∧ ∀ behind, ¬Step around t behind

/-- All tokens can be taken, and an error is about the opening tag of the innermost
    element that is open behind them: all that is opened behind it is closed. -/
structure LeftOpen (e : MarkupError) (before : List Token) (t : Token) (content : List Token) :
    Prop where
  start_eq : t.span.start = e.offset
  opening : ∃ attributes, t = .opening e.tag attributes false t.span ∧ e.tag ≠ .var
  nested : WellNested content
  accepted : ∃ around, Steps [] (before ++ t :: content) (e.tag :: around)

end Token

/-! ### The name behind a `<` -/

namespace TagText

variable {t : Text} {fault : TagFault}

theorem ne_closing_of_readValue (h : readValue t = .error fault) :
    fault ≠ .malformed .closingWithAttributes := by
  rw [readValue] at h
  split at h
  · cases h
    rintro ⟨⟩
  · split at h
    · split at h
      · cases h
        rintro ⟨⟩
      · cases h
    · cases h
      rintro ⟨⟩

theorem ne_closing_of_readAttribute (h : readAttribute t = .error fault) :
    fault ≠ .malformed .closingWithAttributes := by
  simp only [readAttribute] at h
  split at h
  · cases h
    rintro ⟨⟩
  · split at h
    · cases h
      rintro ⟨⟩
    · split at h
      · split at h
        · cases h
        · next hvalue =>
          cases h
          exact ne_closing_of_readValue hvalue
      · cases h
        rintro ⟨⟩

/-- What is wrong with an opening tag is not what can be wrong with a closing one. -/
theorem ne_closing_of_readAttributes (h : readAttributes t = .error fault) :
    fault ≠ .malformed .closingWithAttributes := by
  fun_induction readAttributes t generalizing fault with
  | case1 | case3 | case5 =>
    cases h
    rintro ⟨⟩
  | case2 | case4 | case8 => cases h
  | case6 t fault' hattribute =>
    cases h
    exact ne_closing_of_readAttribute hattribute
  | case7 t a rest hattribute fault' hmore _ _ _ _ ih =>
    cases h
    exact ih hmore

theorem exists_of_readName? {closes : Bool} {tag : Tag} {rest : Text}
    (h : readName? t = some (closes, tag, rest)) :
    ∃ name, t = slash closes ++ name ++ rest ∧ Text.asciiLower name = tag.name ∧
      endsName rest := by
  simp only [readName?] at h
  split at h
  · cases h
  · next tag' hof =>
    split at h
    · next hends =>
      simp only [Option.some.injEq, Prod.mk.injEq] at h
      obtain ⟨rfl, rfl, rfl⟩ := h
      refine ⟨_, ?_, ofName?_eq_some_iff.1 hof, hends⟩
      rw [List.append_assoc, List.takeWhile_append_dropWhile, readSlash_append]
    · cases h

theorem eq_of_readClosingEnd (h : readClosingEnd t = .error fault) :
    fault = .unterminated ∨ fault = .malformed .closingWithAttributes := by
  rw [readClosingEnd] at h
  split at h
  · cases h
    exact .inl rfl
  · split at h
    · cases h
    · cases h
      exact .inr rfl

end TagText

/-- Behind a `<` that is wrong stands the name of the tag that the fault is about. -/
theorem exists_name_of_fault {t : Text} {tag : Tag} {fault : TagFault}
    (h : readTag t = some (tag, .error fault)) (offset : Nat) :
    ∃ closes rest, TagText.readName? t = some (closes, tag, rest) ∧
      ∀ known ∈ (fault.toError tag offset).closes?, closes = known := by
  rcases hname : TagText.readName? t with _ | ⟨closes, tag', rest⟩
  · simp [readTag, hname] at h
  cases closes with
  | true =>
    rcases hend : TagText.readClosingEnd rest with fault' | rest'
    · simp only [readTag, hname, hend, Option.some.injEq, Prod.mk.injEq, Except.error.injEq] at h
      obtain ⟨rfl, rfl⟩ := h
      refine ⟨true, rest, rfl, ?_⟩
      rcases TagText.eq_of_readClosingEnd hend with rfl | rfl
      · rintro known ⟨⟩
      · rintro known ⟨⟩
        rfl
    · simp [readTag, hname, hend] at h
  | false =>
    rcases hend : TagText.readAttributes rest with fault' | read
    · simp only [readTag, hname, hend, Option.some.injEq, Prod.mk.injEq, Except.error.injEq] at h
      obtain ⟨rfl, rfl⟩ := h
      refine ⟨false, rest, rfl, ?_⟩
      have hne := TagText.ne_closing_of_readAttributes hend
      cases fault' with
      | unterminated => rintro known ⟨⟩
      | malformed reason =>
        rintro known ⟨⟩
        rw [eq_comm, beq_eq_false_iff_ne]
        rintro rfl
        exact hne rfl
    · simp [readTag, hname, hend] at h

theorem exists_name_of_readTag {t rest : Text} {tag : Tag} {piece : TagText}
    (h : readTag t = some (tag, .ok (piece, rest))) (span : Span) :
    ∃ closes rest', TagText.readName? t = some (closes, tag, rest') ∧
      (Token.ofTag piece span).tag? = some (closes, tag) := by
  rcases hname : TagText.readName? t with _ | ⟨closes, tag', rest'⟩
  · simp [readTag, hname] at h
  cases closes with
  | true =>
    rcases hend : TagText.readClosingEnd rest' with fault' | behind
    · simp [readTag, hname, hend] at h
    · simp only [readTag, hname, hend, Option.some.injEq, Prod.mk.injEq, Except.ok.injEq] at h
      obtain ⟨rfl, rfl, rfl⟩ := h
      exact ⟨true, rest', rfl, rfl⟩
  | false =>
    rcases hend : TagText.readAttributes rest' with fault' | ⟨attributes, sc, behind⟩
    · simp [readTag, hname, hend] at h
    · simp only [readTag, hname, hend, Option.some.injEq, Prod.mk.injEq, Except.ok.injEq] at h
      obtain ⟨rfl, rfl, rfl⟩ := h
      exact ⟨false, rest', rfl, rfl⟩

namespace MarkupError

/-- An error with the offset of a `<` that its tag's name follows. -/
theorem pointsInto_of_name {e : MarkupError} {before after rest : Text} {closes : Bool}
    (hoffset : e.offset = Text.bytes before)
    (hname : TagText.readName? after = some (closes, e.tag, rest))
    (hcloses : ∀ known ∈ e.closes?, closes = known) : e.PointsInto (before ++ '<' :: after) := by
  have hleft : (before ++ '<' :: after).LeftAt e.offset ('<' :: after) :=
    ⟨before, rfl, hoffset.symm⟩
  refine ⟨?_, ?_, ?_, ?_⟩
  · have hsize := Char.utf8Size_pos '<'
    rw [hoffset, Text.bytes_append, Text.bytes_cons]
    omega
  · exact ⟨before, '<' :: after, rfl, hoffset.symm⟩
  · rw [hleft.peek_cons, Text.lead_of_lt (by decide)]
  · obtain ⟨name, rfl, hspelling, hends⟩ := TagText.exists_of_readName? hname
    have hlt : '<'.utf8Size = 1 := rfl
    exact ⟨closes, name, rest, hleft.one hlt, hspelling, hends, hcloses⟩

end MarkupError

namespace Token

/-- A template that cannot be scanned has an error that points at a tag of it. -/
theorem pointsInto_of_scan {template : Text} {e : MarkupError} (h : scan template = .error e) :
    e.PointsInto template := by
  obtain ⟨before, after, tag, fault, rfl, hread, rfl⟩ := exists_of_scanFrom_error h
  obtain ⟨closes, rest, hname, hcloses⟩ := exists_name_of_fault hread (0 + Text.bytes before)
  have hoffset : (fault.toError tag (0 + Text.bytes before)).offset = Text.bytes before := by
    rw [Nat.zero_add]
    cases fault <;> rfl
  have htag : (fault.toError tag (0 + Text.bytes before)).tag = tag := by
    cases fault <;> rfl
  rw [← htag] at hname
  exact MarkupError.pointsInto_of_name hoffset hname hcloses

theorem Tiles.before_over {start stop : Nat} {before after : List Token} {t : Token}
    (h : Tiles start stop (before ++ t :: after)) : ∀ u ∈ before, u.span.stop ≤ t.span.start := by
  induction before generalizing start with
  | nil => rintro u ⟨⟩
  | cons u before ih =>
    cases h with
    | cons hpos hrest =>
      intro v hv
      rcases List.mem_cons.1 hv with rfl | hv
      · exact hrest.le_start t (List.mem_append_right _ List.mem_cons_self)
      · exact ih hrest v hv

theorem Tiles.after_behind {start stop : Nat} {before after : List Token} {t : Token}
    (h : Tiles start stop (before ++ t :: after)) : ∀ u ∈ after, t.span.stop ≤ u.span.start := by
  induction before generalizing start with
  | nil =>
    cases h with
    | cons hpos hrest => exact hrest.le_start
  | cons u before ih =>
    cases h with
    | cons hpos hrest => exact ih hrest

/-- What is said of the tag of a token is said of the place in the template. -/
theorem Blamed.pointsInto {ls : List Lexeme} (hspelled : Lexeme.Spelled [] ls) {t : Token}
    (ht : t ∈ Lexeme.tokens 0 ls) {e : MarkupError} (h : Blamed e t) :
    e.PointsInto (Lexeme.sources ls) := by
  obtain ⟨closes, htag, hcloses⟩ := h.tag_eq
  obtain ⟨xs, l, ys, rfl, rfl⟩ := Lexeme.exists_of_mem_tokens ht
  have hl := Lexeme.spelled_of_append hspelled
  have hoffset := h.start_eq.symm
  rw [Lexeme.span_token, Nat.zero_add] at hoffset
  cases l with
  | text raw => cases htag
  | tag s piece =>
    obtain ⟨r, rfl, hread⟩ := Lexeme.readsAs_more hl.1 (Lexeme.sources ys)
    obtain ⟨closes', rest, hname, htag'⟩ := exists_name_of_readTag hread
      ⟨0 + Text.bytes (Lexeme.sources xs),
        0 + Text.bytes (Lexeme.sources xs) + Text.bytes ('<' :: r)⟩
    obtain ⟨rfl, hpiece⟩ := Prod.mk.inj (Option.some.inj (htag'.symm.trans htag))
    rw [hpiece] at hname
    have hsources : Lexeme.sources (xs ++ .tag ('<' :: r) piece :: ys) =
        Lexeme.sources xs ++ '<' :: (r ++ Lexeme.sources ys) := by
      rw [Lexeme.sources_append, Lexeme.sources_cons, Lexeme.source_tag, List.cons_append]
    rw [hsources]
    refine MarkupError.pointsInto_of_name hoffset hname ?_
    intro known hknown
    exact Option.some.inj (hcloses.symm.trans hknown)

end Token

/-! ### Where building stops -/

namespace Builder

open Token

variable {b b' : Builder} {t : Token} {ts xs ys : List Token} {e : MarkupError}
  {tag : Tag} {attributes : List Attribute} {sc : Bool} {span : Span}

theorem blamed_of_opening (h : opening tag attributes span = .error e) :
    Blamed e (.opening tag attributes sc span) ∧ ¬e.IsUnclosed := by
  cases tag with
  | desc | sentence | list | item => cases h
  | conditional =>
    rw [opening] at h
    rcases hcondition : conditionalElement attributes span.start with fault | element
    · rw [hcondition] at h
      cases h
      rw [conditionalElement] at hcondition
      split at hcondition
      · cases hcondition
        exact ⟨⟨rfl, false, rfl, rfl⟩, by rintro ⟨_, _, ⟨⟩⟩⟩
      · split at hcondition
        · cases hcondition
        · cases hcondition
          exact ⟨⟨rfl, false, rfl, rfl⟩, by rintro ⟨_, _, ⟨⟩⟩⟩
    · rw [hcondition] at h
      cases h
  | var =>
    rw [opening] at h
    rcases hvariable : variableNode attributes span with fault | node
    · rw [hvariable] at h
      cases h
      rw [variableNode] at hvariable
      split at hvariable
      · cases hvariable
        exact ⟨⟨rfl, false, rfl, rfl⟩, by rintro ⟨_, _, ⟨⟩⟩⟩
      · split at hvariable
        · cases hvariable
        · cases hvariable
          exact ⟨⟨rfl, false, rfl, rfl⟩, by rintro ⟨_, _, ⟨⟩⟩⟩
    · rw [hvariable] at h
      cases h

theorem blamed_of_close (h : b.close tag span = .error e) :
    Blamed e (.closing tag span) ∧ ¬e.IsUnclosed := by
  rw [close] at h
  split at h
  · cases h
    exact ⟨⟨rfl, true, rfl, rfl⟩, by rintro ⟨_, _, ⟨⟩⟩⟩
  · split at h
    · cases h
    · split at h
      · cases h
        exact ⟨⟨rfl, true, rfl, rfl⟩, by rintro ⟨_, _, ⟨⟩⟩⟩
      · cases h
        exact ⟨⟨rfl, true, rfl, rfl⟩, by rintro ⟨_, _, ⟨⟩⟩⟩

/-- **A token that is not taken is the one that the error is about.** -/
theorem blamed_of_add (h : b.add t = .error e) : Blamed e t ∧ ¬e.IsUnclosed := by
  cases t with
  | text raw span => cases h
  | closing tag span => exact blamed_of_close h
  | opening tag attributes sc span =>
    rw [add, open_] at h
    split at h
    · cases h
      exact ⟨⟨rfl, false, rfl, rfl⟩, by rintro ⟨_, _, ⟨⟩⟩⟩
    · split at h
      · next hopening =>
        cases h
        exact blamed_of_opening hopening
      · cases h
      · split at h
        · cases h
        · cases h

/-- Tokens are taken up to the first that is not. -/
theorem exists_of_addAll_error (h : b.addAll ts = .error e) :
    ∃ before t after b', ts = before ++ t :: after ∧ b.addAll before = .ok b' ∧
      b'.add t = .error e := by
  induction ts generalizing b with
  | nil => cases h
  | cons t ts ih =>
    rcases hadd : b.add t with fault | b₁
    · rw [addAll, hadd] at h
      cases h
      exact ⟨[], t, ts, b, rfl, rfl, hadd⟩
    · rw [Branch.addAll_cons hadd] at h
      obtain ⟨before, t', after, b', rfl, hbefore, ht'⟩ := ih h
      exact ⟨t :: before, t', after, b', rfl, (Branch.addAll_cons hadd).trans hbefore, ht'⟩

theorem exists_of_addAll_append (h : b.addAll (xs ++ ys) = .ok b') :
    ∃ b₁, b.addAll xs = .ok b₁ ∧ b₁.addAll ys = .ok b' := by
  induction xs generalizing b with
  | nil => exact ⟨b, rfl, h⟩
  | cons t ts ih =>
    rcases hadd : b.add t with fault | b₂
    · rw [List.cons_append, addAll, hadd] at h
      cases h
    · rw [List.cons_append, Branch.addAll_cons hadd] at h
      obtain ⟨b₁, hxs, hys⟩ := ih h
      exact ⟨b₁, (Branch.addAll_cons hadd).trans hxs, hys⟩

theorem exists_of_addAll_cons (h : b.addAll (t :: ts) = .ok b') :
    ∃ b₁, b.add t = .ok b₁ ∧ b₁.addAll ts = .ok b' := by
  rw [addAll] at h
  split at h
  · cases h
  · next b₁ hadd => exact ⟨b₁, hadd, h⟩

theorem frames_of_leaf (hleaf : sc = true ∨ tag = .var)
    (h : b.open_ tag attributes sc span = .ok b') : b'.frames = b.frames := by
  rcases Branch.exists_of_open h with ⟨path, -, -, -, rfl⟩ | ⟨o, rfl, -, -, rfl⟩
  · rfl
  · have hsc : sc = true := hleaf.resolve_right (Opened.tag_ne_var o)
    rw [hsc]
    rfl

/-- An opening tag leaves a frame with its place. -/
theorem exists_frame_of_open (htag : tag ≠ .var)
    (h : b.open_ tag attributes false span = .ok b') :
    ∃ o before, o.tag = tag ∧ b'.frames = ⟨o, span, before⟩ :: b.frames := by
  rcases Branch.exists_of_open h with ⟨path, rfl, -⟩ | ⟨o, rfl, -, -, rfl⟩
  · exact absurd rfl htag
  · exact ⟨o, b.nodes, rfl, rfl⟩

theorem frames_of_close {frame : Frame} {outer : List Frame} (hframes : b.frames = frame :: outer)
    (h : b.close tag span = .ok b') : b'.frames = outer := by
  obtain ⟨frames, nodes⟩ := b
  obtain rfl : frames = frame :: outer := hframes
  obtain rfl := Branch.tag_eq_of_close h
  rw [Branch.close_frame] at h
  cases h
  rfl

/-- **Well nested tokens leave the elements open that were open before them.** -/
theorem frames_of_wellNested (hnested : WellNested ts) (h : b.addAll ts = .ok b') :
    b'.frames = b.frames := by
  induction hnested generalizing b b' with
  | nil =>
    cases h
    rfl
  | text _ ih =>
    obtain ⟨b₁, hadd, hrest⟩ := exists_of_addAll_cons h
    cases hadd
    exact (ih hrest).trans rfl
  | leaf hleaf _ ih =>
    obtain ⟨b₁, hadd, hrest⟩ := exists_of_addAll_cons h
    exact (ih hrest).trans (frames_of_leaf hleaf hadd)
  | element htag _ _ ihcontent ihrest =>
    obtain ⟨b₁, hopen, hbehind⟩ := exists_of_addAll_cons h
    obtain ⟨b₂, hcontent, hbehind⟩ := exists_of_addAll_append hbehind
    obtain ⟨b₃, hclose, hrest⟩ := exists_of_addAll_cons hbehind
    obtain ⟨o, before, -, hframes⟩ := exists_frame_of_open htag hopen
    -- behind the content the frame of the opening tag is on top again
    exact (ihrest hrest).trans (frames_of_close ((ihcontent hcontent).trans hframes) hclose)

/-- The innermost open element was opened by the last opening tag behind which all is
    nested. -/
theorem exists_leftOpen {frame : Frame} {outer : List Frame} (h : addAll {} ts = .ok b)
    (hframes : b.frames = frame :: outer) :
    ∃ before t content, ts = before ++ t :: content ∧
      LeftOpen (.unclosed frame.opened.tag frame.span.start) before t content := by
  have htags : b.openTags = frame.opened.tag :: outer.map (·.opened.tag) := by
    rw [openTags, hframes]
    rfl
  have hsteps : Steps [] ts (frame.opened.tag :: outer.map (·.opened.tag)) :=
    (@steps_iff {} ts _).2 ⟨b, h, htags⟩
  have hpartly := hsteps.partlyNested (.nested .nil)
  rw [List.nil_append] at hpartly
  generalize htag : frame.opened.tag = tag at hpartly hsteps
  cases hpartly with
  | @opened _ before content _ attributes span hbefore hne hcontent =>
    obtain ⟨b₁, -, hbehind⟩ := exists_of_addAll_append h
    obtain ⟨b₂, hopen, hrest⟩ := exists_of_addAll_cons hbehind
    obtain ⟨o, nodes, -, hopened⟩ := exists_frame_of_open hne hopen
    -- the content leaves the frame of the opening tag on top, so that frame is this one
    have htop := (frames_of_wellNested hcontent hrest).trans hopened
    obtain ⟨rfl, -⟩ := List.cons.inj (hframes.symm.trans htop)
    exact ⟨before, _, content, rfl, rfl, ⟨attributes, rfl, hne⟩, hcontent, _, hsteps⟩

end Builder

namespace Token

/-- Where an error of the tree stands among the tokens: at the first that cannot be taken,
    or at the opening tag of the innermost element that is left open. -/
def Locates (e : MarkupError) (tokens : List Token) : Prop :=
  (¬e.IsUnclosed ∧ ∃ before t after, tokens = before ++ t :: after ∧ Rejection e before t after) ∨
    (e.IsUnclosed ∧ ∃ before t content, tokens = before ++ t :: content ∧
      LeftOpen e before t content)

/-- The token that is not taken stands between the tokens before it and those behind it. -/
theorem rejection_of_add {size : Nat} {before after : List Token} {t : Token} {b : Builder}
    {e : MarkupError} (htiles : Tiles 0 size (before ++ t :: after))
    (htaken : Builder.addAll {} before = .ok b) (hadd : b.add t = .error e) :
    Rejection e before t after := by
  obtain ⟨hblamed, -⟩ := Builder.blamed_of_add hadd
  refine ⟨hblamed.start_eq, ?_, htiles.after_behind, ⟨b, htaken, hadd⟩, b.openTags, ?_, ?_⟩
  · rw [← hblamed.start_eq]
    exact htiles.before_over
  · exact (@Builder.steps_iff {} before b.openTags).2 ⟨b, htaken, rfl⟩
  · intro behind hstep
    obtain ⟨b', hb', -⟩ := Builder.step_iff.1 hstep
    rw [hadd] at hb'
    cases hb'

end Token

/-- **Every error points at the tag that is wrong.**  Its offset is that of a `<` of the
    template, which the name of the tag follows; the tokens before it can be taken and its
    tag cannot, or its tag is that of the innermost element that is never closed. -/
theorem Node.error_pointsInto {template : Text} {e : MarkupError}
    (h : Node.parse template = .error e) :
    e.PointsInto template ∧
      ∀ tokens, Token.scan template = .ok tokens → Token.Locates e tokens := by
  rw [Node.parse] at h
  rcases hscan : Token.scan template with fault | tokens
  · rw [hscan] at h
    cases h
    exact ⟨Token.pointsInto_of_scan hscan, by rintro tokens ⟨⟩⟩
  rw [hscan] at h
  obtain ⟨ls, hspelled, rfl, rfl⟩ := Lexeme.exists_of_scanFrom hscan
  have htiles := (Lexeme.covers_tokens hspelled).tiles
  suffices hlocated : ∃ t ∈ Lexeme.tokens 0 ls, Token.Blamed e t ∧
      Token.Locates e (Lexeme.tokens 0 ls) by
    obtain ⟨t, ht, hblamed, hlocates⟩ := hlocated
    refine ⟨hblamed.pointsInto hspelled ht, ?_⟩
    rintro tokens ⟨⟩
    exact hlocates
  rcases hadd : Builder.addAll {} (Lexeme.tokens 0 ls) with fault | b
  · simp only [Node.ofTokens, hadd] at h
    cases h
    obtain ⟨before, t, after, b, hsplit, htaken, ht⟩ := Builder.exists_of_addAll_error hadd
    obtain ⟨hblamed, hclosed⟩ := Builder.blamed_of_add ht
    rw [hsplit] at htiles ⊢
    exact ⟨t, List.mem_append_right _ List.mem_cons_self, hblamed,
      .inl ⟨hclosed, before, t, after, rfl, Token.rejection_of_add htiles htaken ht⟩⟩
  · rcases hframes : b.frames with _ | ⟨frame, outer⟩
    · simp [Node.ofTokens, hadd, hframes] at h
    · simp only [Node.ofTokens, hadd, hframes] at h
      cases h
      obtain ⟨before, t, content, hsplit, hleft⟩ := Builder.exists_leftOpen hadd hframes
      rw [hsplit]
      obtain ⟨attributes, ht, -⟩ := hleft.opening
      refine ⟨t, List.mem_append_right _ List.mem_cons_self, ⟨hleft.start_eq, false, ?_, rfl⟩,
        .inr ⟨⟨_, _, rfl⟩, before, t, content, rfl, hleft⟩⟩
      rw [ht]
      rfl

theorem Node.parse_eq_error {template : Text} {e : MarkupError}
    (h : (match parse template with
      | .error e' => e' == e
      | .ok _ => false) = true) : parse template = .error e := by
  split at h
  · next e' he => rw [he, eq_of_beq h]
  · cases h

/-- A closing tag, in capitals, of an element that is open further out. -/
def crossed : Text := "é <s>tide <if cond='moon == true'>ü</S></if></s>".toList

/-- A list that is never closed, inside a sentence that is not closed either. -/
def adrift : Text := "é <s>in <IL ><item>a raft</item>".toList

/-- A tag without an end behind a character of two bytes. -/
def frayed : Text := "é</S rope>".toList

theorem Node.error_pointsInto_of_adrift :
    (parse crossed = .error (.mismatchedClose .conditional .sentence 37) ∧
      MarkupError.PointsInto (.mismatchedClose .conditional .sentence 37) crossed) ∧
    (parse adrift = .error (.unclosed .list 9) ∧
      MarkupError.PointsInto (.unclosed .list 9) adrift ∧
      ∃ tokens, Token.scan adrift = .ok tokens ∧ Token.Locates (.unclosed .list 9) tokens) ∧
    parse frayed = .error (.malformedTag .sentence 2 .closingWithAttributes) ∧
      MarkupError.PointsInto (.malformedTag .sentence 2 .closingWithAttributes) frayed := by
  have hcrossed : parse crossed = .error (.mismatchedClose .conditional .sentence 37) :=
    parse_eq_error (by decide +kernel)
  have hadrift : parse adrift = .error (.unclosed .list 9) := parse_eq_error (by decide +kernel)
  have hfrayed : parse frayed = .error (.malformedTag .sentence 2 .closingWithAttributes) :=
    parse_eq_error (by decide +kernel)
  obtain ⟨tokens, hscan, -⟩ := Token.exists_scanned adrift (fun tokens => tokens.length = 7)
    (by decide +kernel)
  obtain ⟨hpoints, hlocates⟩ := error_pointsInto hadrift
  exact ⟨⟨hcrossed, (error_pointsInto hcrossed).1⟩, ⟨hadrift, hpoints, tokens, hscan,
    hlocates tokens hscan⟩, hfrayed, (error_pointsInto hfrayed).1⟩

end Scenery
