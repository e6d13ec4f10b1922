/-
  Scenery/Proofs/ItemList/Copula.lean
  ===================================
  **The copula next to a list.**  It stands in the text before the list or in the text
  behind it, and it is there whatever the list holds (`copulaWord?`).  When it is
  changed along with the list, the rest of the template stays as it is, and the new
  form is what stands next to the list then (`reworded_found`).
-/
import Scenery.Proofs.ItemList.Rewriting
import Scenery.Proofs.Prose.Copula

namespace Scenery

namespace Branch

/-- The characters of a run of text. -/
def rawText? : Branch → Option Text
  | .text raw => some raw
  | _ => none

theorem neighbourText?_node (b : Branch) (offset : Nat) :
    ListChange.neighbourText? (some (b.node offset)) = b.rawText?.map (·, offset) := by
  cases b with
  | text raw =>
    rw [node]
    rfl
  | var s attributes sc path =>
    rw [node]
    rfl
  | single s attributes o =>
    rw [node]
    rcases o with (_ | _ | _ | _) | _ <;> rfl
  | block s attributes o c content =>
    rw [node]
    rcases o with (_ | _ | _ | _) | _ <;> rfl

theorem eq_text_of_rawText? {b : Branch} {raw : Text} (h : b.rawText? = some raw) :
    b = .text raw := by
  cases b with
  | text raw' =>
    rw [rawText?, Option.some.injEq] at h
    rw [h]
  | var | single | block => cases h

end Branch

/-- The place of a word. -/
def Prose.WordAt.span (c : Prose.WordAt) : Span := ⟨c.offset, c.offset + Text.bytes c.word⟩

namespace ListSite

/-- A copula is the last word of the text right before a list, with only blanks between it
    and the list. -/
def CopulaBefore (s : ListSite) (c : Prose.WordAt) : Prop :=
  ∃ u blanks span, s.previous = some (.text (u ++ (c.word ++ blanks)) span) ∧
    span.stop = s.place.span.start ∧ c.offset = span.start + Text.bytes u ∧
    blanks ≠ [] ∧ (∀ d ∈ blanks, Text.isBlank d) ∧ Text.endsApart u ∧ Prose.IsCopula c.word

/-- A copula is the first word of the text right behind a list, with only blanks between
    the list and it. -/
def CopulaBehind (s : ListSite) (c : Prose.WordAt) : Prop :=
  ∃ blanks u span, s.next = some (.text (blanks ++ (c.word ++ u)) span) ∧
    span.start = s.place.span.stop ∧ c.offset = span.start + Text.bytes blanks ∧
    blanks ≠ [] ∧ (∀ d ∈ blanks, Text.isBlank d) ∧ Text.startsApart u ∧ Prose.IsCopula c.word

end ListSite

namespace Setting

open Branch Layer

/-- Two settings have the same elements and the same lists around a place. -/
structure Alike (w w' : Setting) : Prop where
  tags : ∀ around, w'.tagsIn around = w.tagsIn around
  before : w'.namesBefore = w.namesBefore
  after : w'.namesAfter = w.namesAfter
  opens : w'.opens = w.opens

theorem Alike.refl (w : Setting) : Alike w w := ⟨fun _ => rfl, rfl, rfl, rfl⟩

/-- The copula at the end of the text before the element. -/
def copulaBefore? (w : Setting) : Option Prose.WordAt :=
  (w.left.getLast?.bind rawText?).bind Prose.copulaAtEnd?

/-- The copula at the start of the text behind the element. -/
def copulaAfter? (w : Setting) : Option Prose.WordAt :=
  (w.right.head?.bind rawText?).bind Prose.copulaAtStart?

/-- The copula next to the element. -/
def copulaWord? (w : Setting) : Option Text :=
  (w.copulaBefore?.or w.copulaAfter?).map (·.word)

/-- Where the text before the element starts. -/
def offsetBefore (w : Setting) : Nat :=
  w.innerOffset + Text.bytes (sourceAll w.left.dropLast)

theorem neighbourText?_previous (w : Setting) :
    ListChange.neighbourText? w.previous =
      (w.left.getLast?.bind rawText?).map (·, w.offsetBefore) := by
  rw [previous, offsetBefore]
  rcases List.eq_nil_or_concat w.left with h | ⟨left, b, h⟩
  · simp [h, ListChange.neighbourText?]
  · rw [h, List.concat_eq_append, nodes_append, nodes_cons, nodes_nil, List.getLast?_concat,
      neighbourText?_node]
    simp

theorem adjacentCopula?_site (w : Setting) (b : Branch) :
    ListChange.adjacentCopula? (w.site b) =
      (w.copulaBefore?.map fun c => ⟨w.offsetBefore + c.offset, c.word⟩).or
        (w.copulaAfter?.map fun c =>
          ⟨w.offset + Text.bytes b.source + c.offset, c.word⟩) := by
  have hnext : ListChange.neighbourText? (w.site b).next =
      (w.right.head?.bind rawText?).map (·, w.offset + Text.bytes b.source) := by
    show ListChange.neighbourText? (nodes _ w.right).head? = _
    cases w.right with
    | nil => rfl
    | cons x right =>
      rw [nodes_cons, List.head?_cons, neighbourText?_node]
      rfl
  have hprevious : ListChange.neighbourText? (w.site b).previous = _ := w.neighbourText?_previous
  simp only [ListChange.adjacentCopula?, hprevious, hnext, copulaBefore?, copulaAfter?]
  rcases w.left.getLast?.bind rawText? with _ | raw <;>
    rcases w.right.head?.bind rawText? with _ | raw'
  · rfl
  · rfl
  · simp only [Option.map_some, Option.bind_some, Option.map_none, Option.bind_none]
    rcases Prose.copulaAtEnd? raw with _ | c <;> rfl
  · simp only [Option.map_some, Option.bind_some]
    rcases Prose.copulaAtEnd? raw with _ | c <;> rfl

theorem word_adjacentCopula?_site (w : Setting) (b : Branch) :
    (ListChange.adjacentCopula? (w.site b)).map (·.word) = w.copulaWord? := by
  rw [adjacentCopula?_site, copulaWord?]
  rcases w.copulaBefore? with _ | c
  · rcases w.copulaAfter? with _ | c <;> rfl
  · rfl

/-! ### Changing the copula -/

/-- A text with another word in place of one of its own. -/
def putWord (c : Prose.WordAt) (word : Text) : Branch → Branch
  | .text raw => .text (c.span.replace word raw)
  | b => b

/-- The setting with another word in place of the copula next to the element. -/
def reworded (w : Setting) (word : Text) : Setting :=
  match w.copulaBefore?, w.copulaAfter? with
  | some c, _ =>
    { w with left := w.left.dropLast ++ (w.left.getLast?.map (putWord c word)).toList }
  | none, some c => { w with right := w.right.modifyHead (putWord c word) }
  | none, none => w

theorem putWord_text {c : Prose.WordAt} {before behind : Text}
    (hoffset : c.offset = Text.bytes before) (word : Text) :
    putWord c word (.text (before ++ (c.word ++ behind))) =
      .text (before ++ (word ++ behind)) := by
  rw [putWord, Prose.WordAt.span, hoffset]
  exact congrArg Branch.text (Span.replace_behind before c.word behind word)

variable {w : Setting} {around : List Tag} {after : Text} {plural : Bool} {word : Text}
  {c : Prose.WordAt}

/-- A copula before the element ends the text there. -/
theorem exists_of_copulaBefore? (h : w.copulaBefore? = some c) :
    ∃ left before blanks, w.left = left ++ [.text (before ++ (c.word ++ blanks))] ∧
      (∀ word, w.reworded word = { w with left := left ++ [.text (before ++ (word ++ blanks))] }) ∧
      c.offset = Text.bytes before ∧ blanks ≠ [] ∧ (∀ d ∈ blanks, Text.isBlank d) ∧
      Text.endsApart before ∧ Prose.IsCopula c.word ∧ c.word ≠ [] ∧ Text.EndsSolid c.word := by
  obtain ⟨raw, hraw, hc⟩ := Option.bind_eq_some_iff.1 h
  obtain ⟨b, hb, hb'⟩ := Option.bind_eq_some_iff.1 hraw
  obtain ⟨left, hleft⟩ := List.getLast?_eq_some_iff.1 hb
  rw [eq_text_of_rawText? hb'] at hleft
  obtain ⟨before, blanks, rfl, hoffset, hrest⟩ := Prose.exists_of_copulaAtEnd? hc
  refine ⟨left, before, blanks, hleft, ?_, hoffset, hrest⟩
  intro word
  rw [reworded, h]
  simp only [hleft, List.dropLast_concat, List.getLast?_concat, Option.map_some,
    Option.toList_some, putWord_text hoffset]

/-- A copula behind the element starts the text there. -/
theorem exists_of_copulaAfter? (hbefore : w.copulaBefore? = none)
    (h : w.copulaAfter? = some c) :
    ∃ right blanks rest, w.right = .text (blanks ++ (c.word ++ rest)) :: right ∧
      (∀ word, w.reworded word =
        { w with right := .text (blanks ++ (word ++ rest)) :: right }) ∧
      c.offset = Text.bytes blanks ∧ blanks ≠ [] ∧ (∀ d ∈ blanks, Text.isBlank d) ∧
      Text.startsApart rest ∧ Prose.IsCopula c.word := by
  obtain ⟨raw, hraw, hc⟩ := Option.bind_eq_some_iff.1 h
  obtain ⟨b, hb, hb'⟩ := Option.bind_eq_some_iff.1 hraw
  obtain ⟨right, hright⟩ := List.head?_eq_some_iff.1 hb
  rw [eq_text_of_rawText? hb'] at hright
  obtain ⟨blanks, rest, rfl, hoffset, hrest⟩ := Prose.exists_of_copulaAtStart? hc
  refine ⟨right, blanks, rest, hright, ?_, hoffset, hrest⟩
  intro word
  rw [reworded, hbefore, h]
  simp only [hright, List.modifyHead_cons, putWord_text hoffset]

theorem alike_left {left : List Branch} {raw raw' : Text} {w : Setting}
    (hleft : w.left = left ++ [.text raw]) (h : Text.isAllBlank raw = false)
    (h' : Text.isAllBlank raw' = false) : Alike w { w with left := left ++ [.text raw'] } where
  tags _ := rfl
  before := by simp [namesBefore, hleft]
  after := rfl
  opens := by simp [opens, hleft, Branch.isBlank, h, h']

theorem alike_right {right : List Branch} {raw raw' : Text} {w : Setting}
    (hright : w.right = .text raw :: right) : Alike w { w with right := .text raw' :: right } where
  tags _ := rfl
  before := rfl
  after := by simp [namesAfter, hright]
  opens := rfl

theorem isAllBlank_eq_false {before word behind : Text} (hne : word ≠ [])
    (h : Text.EndsSolid word) : Text.isAllBlank (before ++ (word ++ behind)) = false := by
  rw [← Bool.not_eq_true, Text.isAllBlank, List.all_eq_true]
  intro hall
  have hlast := h (word.getLast hne) (by rw [List.getLast?_eq_some_getLast hne]; rfl)
  rw [hall _ (by simp [List.getLast_mem hne])] at hlast
  cases hlast

/-- Only the copula changes. -/
theorem alike_reworded (w : Setting) (hword : word ∈ Prose.agreedForms plural) :
    Alike w (w.reworded word) := by
  obtain ⟨-, hne, halpha, -⟩ := Prose.of_mem_agreedForms hword
  rcases hbefore : w.copulaBefore? with _ | c
  · rcases hafter : w.copulaAfter? with _ | c
    · rw [reworded, hbefore, hafter]
      exact .refl w
    · obtain ⟨right, blanks, rest, hright, hreworded, -⟩ := exists_of_copulaAfter? hbefore hafter
      rw [hreworded]
      exact alike_right hright
  · obtain ⟨left, before, blanks, hleft, hreworded, -, -, -, -, -, hold, hsolid⟩ :=
      exists_of_copulaBefore? hbefore
    rw [hreworded]
    exact alike_left hleft (isAllBlank_eq_false hold hsolid)
      (isAllBlank_eq_false hne (Prose.endsSolid_of_isAlpha halpha))

/-- What stands around the element can still be read back. -/
theorem Sound.reworded (hs : w.Sound around after) (hword : word ∈ Prose.agreedForms plural) :
    (w.reworded word).Sound around after := by
  obtain ⟨-, hne, halpha, -⟩ := Prose.of_mem_agreedForms hword
  have hlt : '<' ∉ word := fun h => absurd (halpha _ h) (by decide)
  rcases hbefore : w.copulaBefore? with _ | c
  · rcases hafter : w.copulaAfter? with _ | c
    · rw [Setting.reworded, hbefore, hafter]
      exact hs
    · obtain ⟨right, blanks, rest, hright, hreworded, -, -, hblanks, -⟩ :=
        exists_of_copulaAfter? hbefore hafter
      have hltblanks : '<' ∉ blanks := fun h => absurd (hblanks _ h) (by decide)
      rw [hreworded]
      refine ⟨hs.before, ?_, hs.layers, hs.left, ?_⟩
      · have hbehind := hs.behind
        rw [lexemesAfter, hright] at hbehind
        simp only [lexemesAll_cons, lexemes, List.cons_append, Lexeme.spelled_text] at hbehind
        obtain ⟨-, hfirst, hplain, hrest⟩ := hbehind
        simp only [lexemesAfter, lexemesAll_cons, lexemes, List.cons_append, Lexeme.spelled_text]
        refine ⟨by simp [hne], hfirst, ?_, hrest⟩
        rw [plain_append, plain_append] at hplain ⊢
        exact ⟨plain_of_not_mem hltblanks _, plain_of_not_mem hlt _, hplain.2.2⟩
      · have hnested := hs.right
        rw [hright] at hnested
        exact nestedAll_cons.2 ⟨by rw [Nested]; trivial, (nestedAll_cons.1 hnested).2⟩
  · obtain ⟨left, before, blanks, hleft, hreworded, -, hb, hblanks, hapart, -⟩ :=
      exists_of_copulaBefore? hbefore
    have hltblanks : '<' ∉ blanks := fun h => absurd (hblanks _ h) (by decide)
    rw [hreworded]
    refine ⟨?_, hs.behind, hs.layers, ?_, hs.right⟩
    · have hspelled := hs.before
      rw [lexemesBefore, hleft] at hspelled
      simp only [lexemesAll_append, lexemesAll_cons, lexemesAll_nil, lexemes, List.append_nil,
        ← List.append_assoc] at hspelled
      simp only [lexemesBefore, lexemesAll_append, lexemesAll_cons, lexemesAll_nil, lexemes,
        List.append_nil, ← List.append_assoc]
      have hplain := Lexeme.plain_of_spelled_concat hspelled
      refine Lexeme.spelled_concat_text hspelled (by simp [hne]) ?_
      rw [List.append_assoc, plain_append] at hplain ⊢
      rw [List.append_assoc]
      refine ⟨Prose.plain_replace hword hb hblanks hapart hplain.1, ?_⟩
      exact plain_of_not_mem (by simp [hlt, hltblanks]) _
    · have hnested := hs.left
      rw [hleft] at hnested
      exact nestedAll_append.2 ⟨(nestedAll_append.1 hnested).1, by simp [Nested]⟩

/-- The new word is found where the old one was, so putting the old one back restores
    the setting. -/
theorem reworded_found (hword : word ∈ Prose.agreedForms plural) {old : Text}
    (hold : w.copulaWord? = some old) :
    (w.reworded word).copulaWord? = some word ∧ (w.reworded word).reworded old = w := by
  rcases hbefore : w.copulaBefore? with _ | c
  · obtain ⟨c, hafter, rfl⟩ : ∃ c, w.copulaAfter? = some c ∧ c.word = old := by
      simpa [copulaWord?, hbefore] using hold
    obtain ⟨right, blanks, rest, hright, hreworded, -, hb, hblanks, hapart, -⟩ :=
      exists_of_copulaAfter? hbefore hafter
    have hbefore' : (w.reworded word).copulaBefore? = none := by
      rw [hreworded]
      exact hbefore
    have hafter' : (w.reworded word).copulaAfter? = some ⟨Text.bytes blanks, word⟩ := by
      rw [hreworded, copulaAfter?]
      exact Prose.copulaAtStart?_agreed hword hb hblanks hapart
    constructor
    · rw [copulaWord?, hbefore', hafter']
      rfl
    · rw [Setting.reworded, hbefore', hafter', hreworded]
      simp only [List.modifyHead_cons]
      rw [putWord_text (c := ⟨Text.bytes blanks, word⟩) rfl, ← hright]
  · obtain rfl : c.word = old := by simpa [copulaWord?, hbefore] using hold
    obtain ⟨left, before, blanks, hleft, hreworded, -, hb, hblanks, hapart, -⟩ :=
      exists_of_copulaBefore? hbefore
    have hbefore' : (w.reworded word).copulaBefore? = some ⟨Text.bytes before, word⟩ := by
      rw [hreworded, copulaBefore?]
      simp [rawText?, Prose.copulaAtEnd?_agreed hword hb hblanks hapart]
    constructor
    · rw [copulaWord?, hbefore']
      rfl
    · rw [Setting.reworded, hbefore', hreworded]
      simp only [List.dropLast_concat, List.getLast?_concat, Option.map_some, Option.toList_some]
      rw [putWord_text (c := ⟨Text.bytes before, word⟩) rfl, ← hleft]

/-! ### The edit of the copula -/

theorem copulaBefore_site {b : Branch} (h : w.copulaBefore? = some c) :
    (w.site b).CopulaBefore ⟨w.offsetBefore + c.offset, c.word⟩ := by
  obtain ⟨left, before, blanks, hleft, -, hoffset, hb, hblanks, hapart, hform, -⟩ :=
    exists_of_copulaBefore? h
  refine ⟨before, blanks, ⟨w.offsetBefore, w.offset⟩, ?_, ?_, ?_, hb, hblanks, hapart, hform⟩
  · show w.previous = _
    rw [previous, hleft, nodes_append, nodes_cons, nodes_nil, List.getLast?_concat, node]
    simp [offsetBefore, innerOffset, offset, textBefore, lexemesBefore, hleft, lexemes, sourceAll,
      Nat.add_assoc]
  · exact (congrArg Span.start (span_node b w.offset)).symm
  · rw [hoffset]

theorem copulaBehind_site {b : Branch} (hbefore : w.copulaBefore? = none)
    (h : w.copulaAfter? = some c) :
    (w.site b).CopulaBehind ⟨w.offset + Text.bytes b.source + c.offset, c.word⟩ := by
  obtain ⟨right, blanks, rest, hright, -, hoffset, hb, hblanks, hapart, hform⟩ :=
    exists_of_copulaAfter? hbefore h
  refine ⟨blanks, rest, ⟨w.offset + Text.bytes b.source,
    w.offset + Text.bytes b.source + Text.bytes (blanks ++ (c.word ++ rest))⟩, ?_, ?_, ?_, hb,
    hblanks, hapart, hform⟩
  · show (nodes (w.offset + Text.bytes b.source) w.right).head? = _
    rw [hright, nodes_cons, List.head?_cons, node]
  · exact (congrArg Span.stop (span_node b w.offset)).symm
  · rw [hoffset]

/-- The characters around a copula before the element. -/
theorem exists_textBefore (h : w.copulaBefore? = some c) :
    ∃ p blanks, w.textBefore = p ++ (c.word ++ blanks) ∧ w.offsetBefore + c.offset = Text.bytes p ∧
      blanks ≠ [] ∧
      ∀ word, (w.reworded word).textBefore = p ++ (word ++ blanks) ∧
        (w.reworded word).textAfter = w.textAfter := by
  obtain ⟨left, before, blanks, hleft, hreworded, hoffset, hb, -⟩ := exists_of_copulaBefore? h
  refine ⟨Lexeme.sources (Layer.lexemesBefore w.layers) ++ (sourceAll left ++ before), blanks,
    ?_, ?_, hb, ?_⟩
  · simp [textBefore, lexemesBefore, hleft, lexemes, sourceAll]
  · simp [offsetBefore, innerOffset, hleft, hoffset, Nat.add_assoc]
  · intro word
    rw [hreworded]
    refine ⟨?_, rfl⟩
    simp [textBefore, lexemesBefore, lexemes, sourceAll]

/-- The characters around a copula behind the element. -/
theorem exists_textAfter (hbefore : w.copulaBefore? = none) (h : w.copulaAfter? = some c) :
    ∃ blanks q, w.textAfter = blanks ++ (c.word ++ q) ∧ c.offset = Text.bytes blanks ∧
      blanks ≠ [] ∧
      ∀ word, (w.reworded word).textBefore = w.textBefore ∧
        (w.reworded word).textAfter = blanks ++ (word ++ q) := by
  obtain ⟨right, blanks, rest, hright, hreworded, hoffset, hb, -⟩ :=
    exists_of_copulaAfter? hbefore h
  refine ⟨blanks, rest ++ Lexeme.sources (lexemesAll right ++ Layer.lexemesAfter w.layers), ?_,
    hoffset, hb, ?_⟩
  · simp [textAfter, lexemesAfter, hright, lexemes]
  · intro word
    rw [hreworded]
    refine ⟨rfl, ?_⟩
    simp [textAfter, lexemesAfter, lexemes]

/-- **The copula next to a list is changed along with it.**  Of the template two pieces
    change, one inside of the list and the copula, which stands next to it. -/
theorem exists_pieces {b : Branch} (hc : ListChange.adjacentCopula? (w.site b) = some c)
    {a x d : Text} (hsource : b.source = a ++ (x ++ d)) (word : Text) {b' : Branch} {y : Text}
    (hsource' : b'.source = a ++ (y ++ d)) :
    Edit.applyAll [⟨Span.behind (w.textBefore ++ a) x, y⟩, ⟨c.span, word⟩]
        (sourceAll (w.fill b)) = sourceAll ((w.reworded word).fill b') ∧
    ((w.site b).CopulaBefore c ∧
        SameBut 0 [⟨c.span, c.word, word⟩, ⟨Span.behind (w.textBefore ++ a) x, x, y⟩]
          (sourceAll (w.fill b)) (sourceAll ((w.reworded word).fill b')) ∨
      (w.site b).CopulaBehind c ∧
        SameBut 0 [⟨Span.behind (w.textBefore ++ a) x, x, y⟩, ⟨c.span, c.word, word⟩]
          (sourceAll (w.fill b)) (sourceAll ((w.reworded word).fill b'))) := by
  rw [adjacentCopula?_site] at hc
  rw [sourceAll_fill, sourceAll_fill, hsource, hsource']
  rcases hbefore : w.copulaBefore? with _ | c'
  · rw [hbefore, Option.map_none, Option.none_or] at hc
    obtain ⟨c', hafter, rfl⟩ := Option.map_eq_some_iff.1 hc
    obtain ⟨blanks, q, htext, hoffset, hb, hreworded⟩ := exists_textAfter hbefore hafter
    obtain ⟨htextBefore, htextAfter⟩ := hreworded word
    have hspan : Prose.WordAt.span ⟨w.offset + Text.bytes b.source + c'.offset, c'.word⟩ =
        Span.behind (w.textBefore ++ a ++ (x ++ (d ++ blanks))) c'.word := by
      simp [Prose.WordAt.span, Span.behind, hsource, hoffset, offset, Nat.add_assoc]
    have hedits := Edit.applyAll_two (w.textBefore ++ a) x (d ++ blanks) c'.word q y word
      (by simp [hb]) (.refl _)
    have hsame := SameBut.two (w.textBefore ++ a) x (d ++ blanks) c'.word q y word
    rw [hspan, htextBefore, htextAfter, htext]
    constructor
    · simpa using hedits
    · right
      constructor
      · exact copulaBehind_site hbefore hafter
      · simpa using hsame
  · rw [hbefore, Option.map_some, Option.some_or, Option.some.injEq] at hc
    subst hc
    obtain ⟨p, blanks, htext, hoffset, hb, hreworded⟩ := exists_textBefore hbefore
    obtain ⟨htextBefore, htextAfter⟩ := hreworded word
    have hspan : Prose.WordAt.span ⟨w.offsetBefore + c'.offset, c'.word⟩ =
        Span.behind p c'.word := by
      rw [Prose.WordAt.span, hoffset, Span.behind]
    have hedits := Edit.applyAll_two p c'.word (blanks ++ a) x (d ++ w.textAfter) word y
      (by simp [hb]) (.swap _ _ _)
    have hsame := SameBut.two p c'.word (blanks ++ a) x (d ++ w.textAfter) word y
    rw [hspan, htextBefore, htextAfter, htext]
    constructor
    · simpa using hedits
    · left
      constructor
      · exact copulaBefore_site hbefore
      · simpa using hsame

end Setting

end Scenery
