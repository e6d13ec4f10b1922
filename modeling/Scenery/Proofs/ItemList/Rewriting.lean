/-
  Scenery/Proofs/ItemList/Rewriting.lean
  ======================================
  **Lists with new content.**  The edit that a change makes of a list replaces what is
  between its tags; a list that closes itself is given a closing tag (`withContent`).
  Either way it is one piece of the list's characters that is replaced
  (`exists_contentEdit`).
-/
import Scenery.Proofs.ItemList.Content
import Scenery.Proofs.Span

namespace Scenery

namespace Branch

/-- The opening tag of an element that closes itself, without the `/`. -/
def opensOnly (source : Text) : Text :=
  Text.trimRight (source.take (source.length - 2)) ++ ['>']

/-- A list with other content. -/
def withContent (b : Branch) (content : List Branch) : Branch :=
  match b with
  | .block s attributes o c _ => .block s attributes o c content
  | .single s attributes o => .block (opensOnly s) attributes o "</il>".toList content
  | b => b

theorem exists_of_isList {b : Branch} (h : b.IsList) :
    ∃ name, b.opened? = some (.element (.list name)) ∧ b.listName? = name := by
  obtain ⟨o, ho, hlist⟩ := h
  rcases o with (_ | _ | _ | name) | _
  · cases hlist
  · cases hlist
  · cases hlist
  · exact ⟨name, ho, by rw [listName?, ho]; rfl⟩
  · cases hlist

theorem opened?_withContent {b : Branch} (content : List Branch) :
    (b.withContent content).opened? = b.opened? := by
  cases b <;> rfl

theorem isList_withContent {b : Branch} (h : b.IsList) (content : List Branch) :
    (b.withContent content).IsList := by
  obtain ⟨o, ho, hlist⟩ := h
  exact ⟨o, by rw [opened?_withContent, ho], hlist⟩

theorem listName?_withContent (b : Branch) (content : List Branch) :
    (b.withContent content).listName? = b.listName? := by
  rw [listName?, listName?, opened?_withContent]

theorem content_withContent {b : Branch} (h : b.IsList) (content : List Branch) :
    (b.withContent content).content = content := by
  obtain ⟨o, ho, -⟩ := h
  cases b with
  | block | single => rfl
  | var | text => cases ho

/-! ### Tags that close themselves -/

/-- A tag that closes itself is one that does not, up to blanks before its end. -/
theorem exists_of_readsAs_single {s : Text} {tag : Tag} {attributes : List Attribute}
    (h : Lexeme.ReadsAs s (.opening tag attributes true)) :
    ∃ blanks, (∀ c ∈ blanks, Text.isBlank c) ∧
      s = Text.trimRight (s.take (s.length - 2)) ++ blanks ++ ['/', '>'] ∧
      Lexeme.ReadsAs (opensOnly s) (.opening tag attributes false) := by
  obtain ⟨r, rfl, hr⟩ := h
  obtain ⟨-, body, blanks, rfl, hb, hne, hend, hread⟩ := readTag_opening hr
  have hblank : ∀ c ∈ blanks, Text.isBlank c := fun c hc => Text.isBlank_of_isTagBlank (hb c hc)
  have hsource : '<' :: (body ++ blanks ++ TagText.ending true ++ []) =
      ('<' :: body ++ blanks) ++ ['/', '>'] := by simp
  have htake : (('<' :: body ++ blanks) ++ ['/', '>']).take
      ((('<' :: body ++ blanks) ++ ['/', '>']).length - 2) = '<' :: body ++ blanks :=
    List.take_left' (by simp only [List.length_append, List.length_cons, List.length_nil]; omega)
  have htrim : Text.trimRight ('<' :: body ++ blanks) = '<' :: body := by
    rw [Text.trimRight_append hblank]
    apply Text.trimRight_of_endsSolid
    rw [← List.singleton_append]
    exact (Text.endsSolid_append hne).2 hend
  rw [opensOnly, hsource, htake, htrim]
  refine ⟨blanks, hblank, rfl, body ++ ['>'], rfl, ?_⟩
  simpa using hread [] false [] (by simp [TagText.IsBlanks])

/-- A tag that closes itself ends like one, and the end of an element does not. -/
theorem isSuffixOf_single {around : List Tag} {s : Text} {attributes : List Attribute} {o : Opened}
    (h : (Branch.single s attributes o).Stands around) : ['/', '>'].isSuffixOf s = true := by
  have hspelled := h.spelled
  rw [lexemes] at hspelled
  obtain ⟨blanks, -, hs, -⟩ := exists_of_readsAs_single hspelled.1
  rw [List.isSuffixOf_iff_suffix, hs]
  exact List.suffix_append _ _

theorem not_isSuffixOf_closing {c : Text} {tag : Tag} (h : Lexeme.ReadsAs c (.closing tag))
    (t : Text) : ['/', '>'].isSuffixOf (t ++ c) = false := by
  obtain ⟨r, rfl, hr⟩ := h
  obtain ⟨-, body, rfl, hne, hslash, -⟩ := readTag_closing hr
  rw [← Bool.not_eq_true, List.isSuffixOf_iff_suffix]
  rintro ⟨u, hu⟩
  have hbody := List.dropLast_concat_getLast hne
  rw [← hbody] at hu
  have hu' : u ++ ['/', '>'] =
      (t ++ '<' :: '/' :: body.dropLast) ++ [body.getLast hne, '>'] := by simpa using hu
  obtain ⟨-, hlast⟩ := List.append_inj' hu' rfl
  obtain ⟨hlast, -⟩ := List.cons.inj hlast
  exact hslash (hlast ▸ List.getLast_mem hne)

/-! ### Replacing the content -/

theorem stands_withContent {around : List Tag} {b : Branch} (hb : b.IsList)
    (h : b.Stands around) {content : List Branch} (hn : NestedAll (.list :: around) content)
    (hs : Lexeme.Spelled ['<'] (lexemesAll content)) : (b.withContent content).Stands around := by
  obtain ⟨name, ho, -⟩ := exists_of_isList hb
  obtain ⟨hnested, hspelled⟩ := h
  cases b with
  | var | text => cases ho
  | single s attributes o =>
    obtain rfl : o = .element (.list name) := by simpa [opened?] using ho
    rw [Nested] at hnested
    rw [lexemes] at hspelled
    obtain ⟨-, -, -, hopen⟩ := exists_of_readsAs_single hspelled.1
    constructor
    · rw [withContent, Nested]
      exact ⟨hnested.1, hnested.2, hn⟩
    · rw [withContent, lexemes]
      exact ⟨hopen, Lexeme.spelled_append_tag.2 ⟨hs, readsAs_listEnd, trivial⟩⟩
  | block s attributes o c old =>
    obtain rfl : o = .element (.list name) := by simpa [opened?] using ho
    rw [Nested] at hnested
    rw [lexemes] at hspelled
    obtain ⟨hopen, hspelled⟩ := hspelled
    obtain ⟨-, hclose, -⟩ := Lexeme.spelled_append_tag.1 hspelled
    constructor
    · rw [withContent, Nested]
      exact ⟨hnested.1, hnested.2.1, hn⟩
    · rw [withContent, lexemes]
      exact ⟨hopen, Lexeme.spelled_append_tag.2 ⟨hs, hclose, trivial⟩⟩

/-- A list with new content has two tags around it. -/
theorem exists_source_withContent {around : List Tag} {b : Branch} (hb : b.IsList)
    (h : b.Stands around) :
    ∃ opening piece closing, Lexeme.ReadsAs opening piece ∧
      ∀ content, (b.withContent content).source = opening ++ (sourceAll content ++ closing) := by
  obtain ⟨name, ho, -⟩ := exists_of_isList hb
  have hspelled := h.spelled
  cases b with
  | var | text => cases ho
  | single s attributes o =>
    rw [lexemes] at hspelled
    obtain ⟨-, -, -, hopen⟩ := exists_of_readsAs_single hspelled.1
    refine ⟨_, _, "</il>".toList, hopen, ?_⟩
    intro content
    rw [withContent, source_block, List.append_assoc]
  | block s attributes o c old =>
    rw [lexemes] at hspelled
    refine ⟨s, _, c, hspelled.1, ?_⟩
    intro content
    rw [withContent, source_block, List.append_assoc]

end Branch

namespace Setting

variable (w : Setting)

theorem span_site (b : Branch) :
    (w.site b).place.span = Span.behind w.textBefore b.source := Branch.span_node b w.offset

theorem slice_site (b : Branch) :
    (w.site b).place.span.slice (Branch.sourceAll (w.fill b)) = b.source := by
  rw [w.span_site, w.sourceAll_fill]
  exact Span.slice_behind _ _ _

theorem inner_site (opening : Text) (attributes : List Attribute) (name : Option Text)
    (closing : Text) (bs : List Branch) :
    (w.site (.block opening attributes (.element (.list name)) closing bs)).place.inner =
      Span.behind (w.textBefore ++ opening) (Branch.sourceAll bs) := by
  simp [site, Branch.node, Node.ofOpened, Node.inner, Span.behind, offset]

end Setting

namespace ListSite

/-- The markup of a list is replaced by new content: what stands between its tags, or the
    whole of a list that closes itself, which then gets a closing tag. -/
inductive Refilled (s : ListSite) (template content : Text) : Piece → Prop where
  | between {old opening closing : Text} {attributes : List Attribute} :
    Lexeme.ReadsAs opening (.opening .list attributes false) →
    Lexeme.ReadsAs closing (.closing .list) →
    s.place.span.slice template = opening ++ (old ++ closing) →
    Refilled s template content ⟨s.place.inner, old, content⟩
  | opened {tag blanks : Text} {attributes : List Attribute} :
    (∀ c ∈ blanks, Text.isBlank c) →
    Lexeme.ReadsAs (tag ++ (blanks ++ ['/', '>'])) (.opening .list attributes true) →
    Lexeme.ReadsAs (tag ++ ['>']) (.opening .list attributes false) →
    Refilled s template content
      ⟨s.place.span, tag ++ (blanks ++ ['/', '>']),
        tag ++ (['>'] ++ (content ++ "</il>".toList))⟩

end ListSite

namespace ListChange

open Branch

/-- The edit of a list's content replaces one piece of its characters. -/
theorem exists_contentEdit {w : Setting} {b : Branch} (hb : b.IsList) {around : List Tag}
    (h : b.Stands around) (content : List Branch) :
    ∃ a x y c, b.source = a ++ (x ++ c) ∧ (b.withContent content).source = a ++ (y ++ c) ∧
      contentEdit (sourceAll (w.fill b)) (w.site b) (sourceAll content) =
        ⟨Span.behind (w.textBefore ++ a) x, y⟩ ∧
      (w.site b).Refilled (sourceAll (w.fill b)) (sourceAll content)
        ⟨Span.behind (w.textBefore ++ a) x, x, y⟩ := by
  obtain ⟨name, ho, -⟩ := exists_of_isList hb
  have hspelled := h.spelled
  cases b with
  | var | text => cases ho
  | single s attributes o =>
    obtain rfl : o = .element (.list name) := by simpa [opened?] using ho
    rw [lexemes] at hspelled
    obtain ⟨blanks, hblanks, hs, hopen⟩ := exists_of_readsAs_single hspelled.1
    have hwhole : (w.site (.single s attributes (.element (.list name)))).place.span =
        Span.behind w.textBefore s := by rw [w.span_site, source_single]
    have hempty : (w.site (.single s attributes (.element (.list name)))).place.inner.isEmpty := by
      simp [Setting.site, node, Node.ofOpened, Node.inner, Span.emptyAt, Span.isEmpty]
    refine ⟨[], s, opensOnly s ++ (sourceAll content ++ "</il>".toList), [], by simp,
      by simp [withContent], ?_, ?_⟩
    · rw [contentEdit, w.slice_site, source_single, if_pos ⟨hempty, isSuffixOf_single h⟩, hwhole,
        List.append_nil]
      simp [opensOnly]
    · have hrefilled : (w.site (.single s attributes (.element (.list name)))).Refilled
          (sourceAll (w.fill (.single s attributes (.element (.list name))))) (sourceAll content)
          ⟨_, Text.trimRight (s.take (s.length - 2)) ++ (blanks ++ ['/', '>']), _⟩ :=
        .opened hblanks (by rw [← List.append_assoc, ← hs]; exact hspelled.1) hopen
      rw [← List.append_assoc, ← hs, hwhole] at hrefilled
      rw [List.append_nil, opensOnly, List.append_assoc]
      exact hrefilled
  | block s attributes o c old =>
    obtain rfl : o = .element (.list name) := by simpa [opened?] using ho
    rw [lexemes] at hspelled
    obtain ⟨hopen, hspelled⟩ := hspelled
    obtain ⟨-, hclose, -⟩ := Lexeme.spelled_append_tag.1 hspelled
    have hslice : (w.site (.block s attributes (.element (.list name)) c old)).place.span.slice
        (sourceAll (w.fill (.block s attributes (.element (.list name)) c old))) =
          s ++ (sourceAll old ++ c) := by
      rw [w.slice_site, source_block, List.append_assoc]
    have hsuffix : ['/', '>'].isSuffixOf (s ++ (sourceAll old ++ c)) = false := by
      rw [← List.append_assoc]
      exact not_isSuffixOf_closing hclose _
    refine ⟨s, sourceAll old, sourceAll content, c, by simp, by simp [withContent], ?_, ?_⟩
    · rw [contentEdit, hslice, hsuffix, if_neg (by simp), w.inner_site]
    · rw [← w.inner_site]
      exact .between hopen hclose hslice

end ListChange

end Scenery
