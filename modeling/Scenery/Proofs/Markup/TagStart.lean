/-
  Scenery/Proofs/Markup/TagStart.lean
  ===================================
  **Where tags start.**  A `<` starts a tag if the name of a tag follows it, directly or
  behind a `/`, and then a blank, `>`, `/>` or the end of the template (`Token.TagStart`).
  Any other `<` should be text.

  One character behind the name is enough for the scanner, so it also takes up what has a
  lone `/` there (`Token.SlashStart`) and then finds it malformed.  Apart from that the
  tags of a template that can be scanned stand where tags start and nowhere else, and the
  error of one that cannot be scanned is about a tag (`Token.scan_starts`).
-/
import Scenery.Proofs.Markup.Cover

namespace Scenery

namespace TagText

/-! ### Names and what follows them -/

/-- The letters that come first, all of them and perhaps behind a `/`, are the name of a tag
    in any case, and then comes the rest. -/
def Named (t rest : Text) : Prop :=
  ∃ closes name tag, t = slash closes ++ name ++ rest ∧ (∀ c ∈ name, c.isAlpha) ∧
    Text.NotStarting Char.isAlpha rest ∧ Text.asciiLower name = Tag.name tag

/-- The name of a tag can end before this. -/
inductive NameEnds : Text → Prop
  | atEnd : NameEnds []
  | blank {c : Char} (rest : Text) : Text.isTagBlank c → NameEnds (c :: rest)
  | gt (rest : Text) : NameEnds ('>' :: rest)
  | slashGt (rest : Text) : NameEnds ('/' :: '>' :: rest)

/-- A `/` comes first and no `>` follows it. -/
inductive LoneSlash : Text → Prop
  | atEnd : LoneSlash ['/']
  | cons {c : Char} (rest : Text) : c ≠ '>' → LoneSlash ('/' :: c :: rest)

theorem named_iff {t rest : Text} :
    Named t rest ↔
      (∃ tag, Tag.ofName? ((readSlash t).2.takeWhile Char.isAlpha) = some tag) ∧
        nameRest t = rest := by
  constructor
  · rintro ⟨closes, name, tag, rfl, halpha, hrest, hname⟩
    have hof := ofName?_eq_some_iff.2 hname
    have hread := readSlash_slash closes (notStarting_slash hof rest)
    rw [← List.append_assoc] at hread
    rw [nameRest, hread]
    exact ⟨⟨tag, by rw [Text.takeWhile_run halpha hrest, hof]⟩, Text.dropWhile_run halpha hrest⟩
  · rintro ⟨⟨tag, hof⟩, rfl⟩
    refine ⟨(readSlash t).1, _, tag, ?_, (of_ofName? hof).2, Text.notStarting_dropWhile _ _,
      ofName?_eq_some_iff.1 hof⟩
    rw [nameRest, List.append_assoc, List.takeWhile_append_dropWhile, readSlash_append]

theorem Named.unique {t rest rest' : Text} (h : Named t rest) (h' : Named t rest') :
    rest = rest' := (named_iff.1 h).2.symm.trans (named_iff.1 h').2

theorem endsName_iff {t : Text} : endsName t ↔ NameEnds t ∨ LoneSlash t := by
  constructor
  · intro h
    rcases t with _ | ⟨c, t⟩
    · exact .inl .atEnd
    simp only [endsName, Bool.or_eq_true, beq_iff_eq] at h
    rcases h with (hblank | rfl) | rfl
    · exact .inl (.blank t hblank)
    · exact .inl (.gt t)
    · rcases t with _ | ⟨c, t⟩
      · exact .inr .atEnd
      · by_cases hc : c = '>'
        · subst hc
          exact .inl (.slashGt t)
        · exact .inr (.cons t hc)
  · rintro (h | h)
    · cases h with
      | atEnd => rfl
      | blank rest hblank => simp [endsName, hblank]
      | gt => rfl
      | slashGt => rfl
    · cases h <;> rfl

theorem not_loneSlash {t : Text} (h : NameEnds t) : ¬LoneSlash t := by
  intro hslash
  cases hslash with
  | atEnd =>
    cases h with
    | blank _ hblank => exact absurd hblank (by decide)
  | cons rest hc =>
    cases h with
    | blank _ hblank => exact absurd hblank (by decide)
    | slashGt => exact hc rfl

theorem named_of_readName? {t rest : Text} {closes : Bool} {tag : Tag}
    (h : readName? t = some (closes, tag, rest)) : Named t rest ∧ endsName rest := by
  rcases hof : Tag.ofName? ((readSlash t).2.takeWhile Char.isAlpha) with _ | tag'
  · simp [readName?, hof] at h
  by_cases hends : endsName (nameRest t)
  · simp only [nameRest] at hends
    simp only [readName?, hof, hends, if_true, Option.some.injEq, Prod.mk.injEq] at h
    obtain ⟨-, -, rfl⟩ := h
    exact ⟨named_iff.2 ⟨⟨tag', hof⟩, rfl⟩, hends⟩
  · simp only [nameRest] at hends
    simp [readName?, hof, hends] at h

theorem Named.readName? {t rest : Text} (h : Named t rest) (hends : endsName rest) :
    ∃ closes tag, readName? t = some (closes, tag, rest) := by
  obtain ⟨closes, name, tag, rfl, -, -, hname⟩ := h
  exact ⟨closes, tag, readName?_name (ofName?_eq_some_iff.2 hname) closes hends⟩

end TagText

/-! ### What is read behind a `<` -/

/-- A `<` that something is read behind has the name of a tag there. -/
theorem exists_named_of_readTag {t : Text} {read : Tag × Except TagFault (TagText × Text)}
    (h : readTag t = some read) :
    ∃ rest, TagText.Named t rest ∧ (TagText.NameEnds rest ∨ TagText.LoneSlash rest) := by
  rcases hname : TagText.readName? t with _ | ⟨closes, tag, rest⟩
  · rw [readTag_eq_none_iff.2 hname] at h
    cases h
  · obtain ⟨hnamed, hends⟩ := TagText.named_of_readName? hname
    exact ⟨rest, hnamed, TagText.endsName_iff.1 hends⟩

theorem TagText.Named.readTag_ne_none {t rest : Text} (h : TagText.Named t rest)
    (hends : TagText.NameEnds rest) : readTag t ≠ none := by
  obtain ⟨closes, tag, hname⟩ := h.readName? (TagText.endsName_iff.2 (.inl hends))
  intro hnone
  rw [readTag_eq_none_iff.1 hnone] at hname
  cases hname

/-- A name before a lone `/` is no tag that can be read, but no text either. -/
theorem TagText.Named.readTag_loneSlash {t rest : Text} (h : TagText.Named t rest)
    (hslash : TagText.LoneSlash rest) : ∃ tag fault, readTag t = some (tag, .error fault) := by
  obtain ⟨closes, tag, hname⟩ := h.readName? (TagText.endsName_iff.2 (.inr hslash))
  cases closes with
  | true =>
    have hend : TagText.readClosingEnd rest = .error (.malformed .closingWithAttributes) := by
      cases hslash <;> rfl
    exact ⟨tag, .malformed .closingWithAttributes, by simp only [readTag, hname, hend]⟩
  | false =>
    have hattributes : ∃ fault, TagText.readAttributes rest = .error fault := by
      cases hslash with
      | atEnd => exact ⟨_, TagText.readAttributes_slash rfl⟩
      | cons more hc => exact ⟨_, (TagText.readAttributes_slash_cons rfl).trans (if_neg hc)⟩
    obtain ⟨fault, hfault⟩ := hattributes
    exact ⟨tag, fault, by simp only [readTag, hname, hfault]⟩

theorem exists_nameEnds_of_readTag {t : Text} {tag : Tag} {piece : TagText × Text}
    (h : readTag t = some (tag, .ok piece)) :
    ∃ rest, TagText.Named t rest ∧ TagText.NameEnds rest := by
  obtain ⟨rest, hnamed, hends | hslash⟩ := exists_named_of_readTag h
  · exact ⟨rest, hnamed, hends⟩
  · obtain ⟨tag', fault, hfault⟩ := hnamed.readTag_loneSlash hslash
    rw [h] at hfault
    cases hfault

/-! ### Places in a template -/

namespace Token

/-- A byte of a template holds a `<` that the name of a tag follows, with what `P` says
    behind it. -/
def NameAt (P : Text → Prop) (template : Text) (n : Nat) : Prop :=
  ∃ before t rest, template = before ++ '<' :: t ∧ Text.bytes before = n ∧
    TagText.Named t rest ∧ P rest

/-- A tag starts here. -/
def TagStart : Text → Nat → Prop := NameAt TagText.NameEnds

/-- A tag would start here if a `>` followed the `/` behind its name. -/
def SlashStart : Text → Nat → Prop := NameAt TagText.LoneSlash

theorem TagStart.not_slashStart {template : Text} {n : Nat} (h : TagStart template n) :
    ¬SlashStart template n := by
  rintro ⟨before', t', rest', ht', hbytes', hnamed', hslash⟩
  obtain ⟨before, t, rest, ht, hbytes, hnamed, hends⟩ := h
  obtain ⟨-, htail⟩ := Text.eq_of_bytes_eq (ht.symm.trans ht') (hbytes.trans hbytes'.symm)
  obtain ⟨-, rfl⟩ := List.cons.inj htail
  rw [hnamed.unique hnamed'] at hends
  exact TagText.not_loneSlash hends hslash

theorem Tiles.le_start {start stop : Nat} {ts : List Token} (h : Tiles start stop ts) :
    ∀ t ∈ ts, start ≤ t.span.start := by
  induction h with
  | nil => nofun
  | cons hpos _ ih =>
    intro t ht
    rcases List.mem_cons.1 ht with rfl | ht
    · exact Nat.le_refl _
    · have := ih t ht
      omega

/-- A token is over where another starts that is further on. -/
theorem Tiles.stop_le_start {start stop : Nat} {ts : List Token} (h : Tiles start stop ts) :
    ∀ t ∈ ts, ∀ u ∈ ts, t.span.start < u.span.start → t.span.stop ≤ u.span.start := by
  induction h with
  | nil => nofun
  | cons hpos hrest ih =>
    intro t ht u hu hlt
    rcases List.mem_cons.1 ht with rfl | ht'
    · rcases List.mem_cons.1 hu with rfl | hu'
      · omega
      · exact hrest.le_start u hu'
    · rcases List.mem_cons.1 hu with rfl | hu'
      · have := hrest.le_start t ht'
        omega
      · exact ih t ht' u hu' hlt

end Token

namespace Lexeme

/-- A character of a row of lexemes is one of a lexeme. -/
theorem exists_of_sources_eq {ls : List Lexeme} {before after : Text} {c : Char}
    (h : sources ls = before ++ c :: after) :
    ∃ xs l ys u v, ls = xs ++ l :: ys ∧ before = sources xs ++ u ∧ l.source = u ++ c :: v ∧
      after = v ++ sources ys := by
  induction ls generalizing before with
  | nil => simp at h
  | cons l ls ih =>
    rw [sources_cons] at h
    rcases List.append_eq_append_iff.1 h with ⟨u, hbefore, hrest⟩ | ⟨u, hl, hrest⟩
    · obtain ⟨xs, l', ys, u', v, rfl, rfl, hl', rfl⟩ := ih hrest
      refine ⟨l :: xs, l', ys, u', v, rfl, ?_, hl', rfl⟩
      rw [hbefore, sources_cons, List.append_assoc]
    · -- where the cut is between two lexemes, the character is the first of the later one
      cases u with
      | nil =>
        have hls : sources ls = [] ++ c :: after := hrest.symm
        obtain ⟨xs, l', ys, u', v, rfl, hnil, hl', rfl⟩ := ih hls
        refine ⟨l :: xs, l', ys, u', v, rfl, ?_, hl', rfl⟩
        rw [sources_cons, List.append_assoc, ← hnil, List.append_nil, hl, List.append_nil]
      | cons d u =>
        obtain ⟨rfl, rfl⟩ := List.cons.inj hrest
        exact ⟨[], l, ls, before, u, rfl, rfl, hl, rfl⟩

/-- Where a `<` of a template that can be scanned is: at the start of a tag, further
    inside of one, or in a text, if nothing is read behind it. -/
theorem exists_at_lt {ls : List Lexeme} (hspelled : Spelled [] ls) {before after : Text}
    (h : sources ls = before ++ '<' :: after) :
    ∃ t ∈ tokens 0 ls, t.span.start ≤ Text.bytes before ∧ Text.bytes before < t.span.stop ∧
      ((t.isText = false ∧ t.span.start = Text.bytes before ∧
          ∃ tag piece, readTag after = some (tag, .ok piece)) ∨
        (t.isText = false ∧ t.span.start < Text.bytes before) ∨
        (t.isText = true ∧ readTag after = none)) := by
  obtain ⟨xs, l, ys, u, v, rfl, rfl, hsource, rfl⟩ := exists_of_sources_eq h
  have hl := spelled_of_append hspelled
  have hspan := span_token l (Text.bytes (sources xs))
  have hmem : l.token (Text.bytes (sources xs)) ∈ tokens 0 (xs ++ l :: ys) := by
    rw [tokens_append, Nat.zero_add]
    exact List.mem_append_right _ List.mem_cons_self
  have hbytes := congrArg Text.bytes hsource
  rw [Text.bytes_append, Text.bytes_cons] at hbytes
  have hsize := Char.utf8Size_pos '<'
  refine ⟨_, hmem, ?_⟩
  rw [hspan, isText_token, Text.bytes_append]
  refine ⟨Nat.le_add_right _ _, by simp only; omega, ?_⟩
  cases l with
  | tag s piece =>
    cases u with
    | nil =>
      obtain ⟨r, hs, hread⟩ := readsAs_more hl.1 (sources ys)
      rw [← source_tag s piece, hsource] at hs
      obtain ⟨-, rfl⟩ := List.cons.inj hs
      exact .inl ⟨rfl, rfl, _, _, hread⟩
    | cons c u =>
      have := Char.utf8Size_pos c
      refine .inr (.inl ⟨rfl, ?_⟩)
      rw [Text.bytes_cons]
      simp only
      omega
  | text raw =>
    have hplain := hl.2.2.1 u v hsource
    rw [List.append_nil] at hplain
    exact .inr (.inr ⟨rfl, hplain⟩)

end Lexeme

namespace Token

/-- Tags are where they start: no other `<` is taken for one, and none that starts a tag
    is left in a text. -/
structure TagsAtStarts (template : Text) (tokens : List Token) : Prop where
  start_iff : ∀ n, (∃ t ∈ tokens, t.isText = false ∧ t.span.start = n) ↔
    TagStart template n ∧ ∀ t ∈ tokens, t.isText = false → t.span.start < n → t.span.stop ≤ n
  in_text : ∀ before after, template = before ++ '<' :: after →
    (∀ t ∈ tokens, t.isText = false → t.span.start ≤ Text.bytes before →
      t.span.stop ≤ Text.bytes before) →
    ∃ t ∈ tokens, t.isText = true ∧ t.span.start ≤ Text.bytes before ∧
      Text.bytes before < t.span.stop
  slash_inside : ∀ n, SlashStart template n →
    ∃ t ∈ tokens, t.isText = false ∧ t.span.start < n ∧ n < t.span.stop

/-- What is wrong with a template is wrong with what follows one `<` of it. -/
theorem exists_of_scanFrom_error {offset : Nat} {t : Text} {e : MarkupError}
    (h : scanFrom offset t = .error e) :
    ∃ before after tag fault, t = before ++ '<' :: after ∧
      readTag after = some (tag, .error fault) ∧
      e = fault.toError tag (offset + Text.bytes before) := by
  fun_induction scanFrom offset t with
  | case1 => cases h
  | case2 offset t hr e' he ih =>
    cases h
    obtain ⟨before, after, tag, fault, rfl, hread, rfl⟩ := ih he
    exact ⟨'<' :: before, after, tag, fault, rfl, hread, by rw [Text.bytes_cons, Nat.add_assoc]⟩
  | case3 => cases h
  | case4 offset t tag fault hr =>
    cases h
    exact ⟨[], t, tag, fault, rfl, hr, rfl⟩
  | case5 offset t tag piece rest hr e' stop he =>
    rename_i ih
    cases h
    obtain ⟨before, after, tag', fault, rfl, hread, rfl⟩ := ih he
    obtain ⟨r, rfl, -⟩ := Lexeme.exists_of_readTag hr
    refine ⟨'<' :: (r ++ before), after, tag', fault, by simp, hread, ?_⟩
    congr 1
    simp only [stop, Text.bytes_cons, Text.bytes_append]
    omega
  | case6 => cases h
  | case7 offset c t hc e' he ih =>
    cases h
    obtain ⟨before, after, tag, fault, rfl, hread, rfl⟩ := ih he
    exact ⟨c :: before, after, tag, fault, rfl, hread, by rw [Text.bytes_cons, Nat.add_assoc]⟩
  | case8 => cases h

/-- The tags of lexemes that can be read back are where tags start. -/
theorem tagsAtStarts_of_spelled {ls : List Lexeme} (h : Lexeme.Spelled [] ls) :
    TagsAtStarts (Lexeme.sources ls) (Lexeme.tokens 0 ls) where
  start_iff := by
    intro n
    constructor
    · rintro ⟨t, ht, htag, rfl⟩
      have htiles := (Lexeme.covers_tokens h).tiles
      refine ⟨?_, fun u hu _ hlt => htiles.stop_le_start u hu t ht hlt⟩
      obtain ⟨xs, l, ys, rfl, rfl⟩ := Lexeme.exists_of_mem_tokens ht
      have hl := Lexeme.spelled_of_append h
      rw [Lexeme.isText_token] at htag
      rw [Lexeme.span_token, Nat.zero_add]
      cases l with
      | tag s piece =>
        obtain ⟨r, rfl, hread⟩ := Lexeme.readsAs_more hl.1 (Lexeme.sources ys)
        obtain ⟨rest, hnamed, hends⟩ := exists_nameEnds_of_readTag hread
        exact ⟨Lexeme.sources xs, r ++ Lexeme.sources ys, rest, by simp, rfl, hnamed, hends⟩
      | text raw => cases htag
    · rintro ⟨⟨before, after, rest, hsplit, rfl, hnamed, hends⟩, houtside⟩
      obtain ⟨t, ht, -, hstop, ⟨htag, hstart, -⟩ | ⟨htag, hstart⟩ | ⟨-, hnone⟩⟩ :=
        Lexeme.exists_at_lt h hsplit
      · exact ⟨t, ht, htag, hstart⟩
      · have := houtside t ht htag hstart
        omega
      · exact absurd hnone (hnamed.readTag_ne_none hends)
  in_text := by
    intro before after hsplit houtside
    obtain ⟨t, ht, hstart, hstop, hcase⟩ := Lexeme.exists_at_lt h hsplit
    cases htext : t.isText with
    | true => exact ⟨t, ht, htext, hstart, hstop⟩
    | false =>
      have := houtside t ht htext hstart
      omega
  slash_inside := by
    rintro n ⟨before, after, rest, hsplit, rfl, hnamed, hslash⟩
    obtain ⟨tag, fault, hfault⟩ := hnamed.readTag_loneSlash hslash
    obtain ⟨t, ht, -, hstop, ⟨-, -, tag', piece, hread⟩ | ⟨htag, hstart⟩ | ⟨-, hnone⟩⟩ :=
      Lexeme.exists_at_lt h hsplit
    · rw [hread] at hfault
      cases hfault
    · exact ⟨t, ht, htag, hstart, hstop⟩
    · rw [hnone] at hfault
      cases hfault

/-- **Tags are found where they start**, and in a template that cannot be scanned it is a tag
    that is wrong, unless a lone `/` follows its name. -/
theorem scan_starts (template : Text) :
    (∀ tokens, scan template = .ok tokens → TagsAtStarts template tokens) ∧
      ∀ e, scan template = .error e →
        (TagStart template e.offset ↔ ¬SlashStart template e.offset) := by
  constructor
  · intro tokens hscan
    obtain ⟨ls, hspelled, rfl, rfl⟩ := Lexeme.exists_of_scanFrom hscan
    exact tagsAtStarts_of_spelled hspelled
  · intro e hscan
    obtain ⟨before, after, tag, fault, rfl, hread, rfl⟩ := exists_of_scanFrom_error hscan
    have hoffset : (fault.toError tag (0 + Text.bytes before)).offset = Text.bytes before := by
      rw [Nat.zero_add]
      cases fault <;> rfl
    rw [hoffset]
    refine ⟨TagStart.not_slashStart, fun hno => ?_⟩
    obtain ⟨rest, hnamed, hends | hslash⟩ := exists_named_of_readTag hread
    · exact ⟨before, after, rest, rfl, rfl, hnamed, hends⟩
    · exact absurd ⟨before, after, rest, rfl, rfl, hnamed, hslash⟩ hno

theorem scan_eq_error {template : Text} {e : MarkupError}
    (h : (match scan template with
      | .error e' => e' == e
      | .ok _ => false) = true) : scan template = .error e := by
  split at h
  · next e' he => rw [he, eq_of_beq h]
  · cases h

/-- Values with tags in them, one before a lone `/`. -/
def ledger : Text := "a <b> <S id='</il> <s/ '>2 < 3</s >".toList

/-- A tag without an end, and no `/`. -/
def torn : Text := "<b> <s cond></s>".toList

theorem scan_starts_of_ledger :
    (∃ tokens, scan ledger = .ok tokens ∧ tokens.map (·.span.start) = [0, 6, 25, 30] ∧
      TagsAtStarts ledger tokens) ∧
    scan torn = .error (.malformedTag .sentence 4 .noAttributeValue) ∧
      (TagStart torn 4 ↔ ¬SlashStart torn 4) := by
  obtain ⟨tokens, hscan, hstarts⟩ := exists_scanned ledger
    (fun tokens => tokens.map (·.span.start) = [0, 6, 25, 30]) (by decide +kernel)
  have htorn : scan torn = .error (.malformedTag .sentence 4 .noAttributeValue) :=
    scan_eq_error (by decide +kernel)
  exact ⟨⟨tokens, hscan, hstarts, (scan_starts ledger).1 tokens hscan⟩, htorn,
    (scan_starts torn).2 _ htorn⟩

/-- Words with a `/` between them, the first of which is the name of a tag. -/
def pronouns : Text := "<s/he> took the map.".toList

/-- No tag starts in this text, but it cannot be scanned. -/
theorem not_tagStart_of_pronouns :
    scan pronouns = .error (.malformedTag .sentence 0 .slashWithoutEnd) ∧
      ¬TagStart pronouns 0 := by
  constructor
  · exact scan_eq_error (by decide +kernel)
  · intro hstart
    apply hstart.not_slashStart
    refine ⟨[], "s/he> took the map.".toList, "/he> took the map.".toList, rfl, rfl, ?_,
      .cons _ (by decide)⟩
    exact ⟨false, ['s'], .sentence, rfl, List.all_eq_true.1 rfl, by simp, rfl⟩

end Token

end Scenery
