/-
  Scenery/Proofs/Markup/TagText.lean
  ==================================
  **The characters of a tag.**  A tag that can be read is written by the characters
  up to its end and by nothing behind them: each reader takes a piece off the front
  of the text, and takes the same piece whatever follows it (`readTag_used`).  So a
  tag can be lifted out of one text and put into another.

  For opening tags more is shown: the blanks before the end can be taken away, and
  the end can be `>` instead of `/>` (`readAttributes_used`).
-/
import Scenery.Markup.Token
import Scenery.Proofs.Text.Runs

namespace Scenery

/-- The tag of a tag as it is written. -/
def TagText.tag : TagText → Tag
  | .opening tag _ _ => tag
  | .closing tag => tag

@[simp] theorem TagText.tag_opening (tag : Tag) (attributes : List Attribute) (sc : Bool) :
    (TagText.opening tag attributes sc).tag = tag := rfl

@[simp] theorem TagText.tag_closing (tag : Tag) : (TagText.closing tag).tag = tag := rfl

namespace TagText

/-- Blanks between the parts of a tag. -/
def IsBlanks (t : Text) : Prop := ∀ c ∈ t, Text.isTagBlank c

instance (t : Text) : Decidable (IsBlanks t) :=
  decidable_of_iff (t.all Text.isTagBlank) List.all_eq_true

/-- How an opening tag ends. -/
def ending (selfClosing : Bool) : Text := if selfClosing then ['/', '>'] else ['>']

@[simp] theorem ending_true : ending true = ['/', '>'] := rfl

@[simp] theorem ending_false : ending false = ['>'] := rfl

/-! ### Blanks -/

theorem skipBlanks_append {blanks rest : Text} (hb : IsBlanks blanks)
    (hr : Text.NotStarting Text.isTagBlank rest) : skipBlanks (blanks ++ rest) = rest :=
  Text.dropWhile_run hb hr

theorem notStarting_skipBlanks (t : Text) : Text.NotStarting Text.isTagBlank (skipBlanks t) :=
  Text.notStarting_dropWhile _ t

theorem exists_blanks (t : Text) : ∃ blanks, IsBlanks blanks ∧ t = blanks ++ skipBlanks t :=
  Text.exists_run Text.isTagBlank t

theorem exists_of_skipBlanks {t rest : Text} {c : Char} (h : skipBlanks t = c :: rest) :
    ∃ blanks, IsBlanks blanks ∧ t = blanks ++ c :: rest ∧ Text.isTagBlank c = false := by
  obtain ⟨blanks, hb, ht⟩ := exists_blanks t
  rw [h] at ht
  refine ⟨blanks, hb, ht, ?_⟩
  have hns := notStarting_skipBlanks t
  rw [h] at hns
  exact Text.notStarting_cons.1 hns

theorem skipBlanks_cons {blanks : Text} {c : Char} (hb : IsBlanks blanks)
    (hc : Text.isTagBlank c = false) (rest : Text) : skipBlanks (blanks ++ c :: rest) = c :: rest :=
  skipBlanks_append hb (Text.notStarting_cons.2 hc)

/-! ### Attributes -/

/-- A value is read from between its quotes. -/
theorem readValue_quoted {blanks value : Text} {q : Char} (hb : IsBlanks blanks)
    (hquote : q = '"' ∨ q = '\'') (hvalue : q ∉ value) (more : Text) :
    readValue (blanks ++ q :: (value ++ q :: more)) = .ok (value, more) := by
  have hq : Text.isTagBlank q = false := by rcases hquote with rfl | rfl <;> decide
  simp only [readValue, skipBlanks_cons hb hq, hquote, if_true, Text.dropWhile_until hvalue,
    Text.takeWhile_until hvalue]

theorem readValue_used {t value rest : Text} (h : readValue t = .ok (value, rest)) :
    ∃ used, t = used ++ rest ∧ used ≠ [] ∧ Text.EndsSolid used ∧
      ∀ more, readValue (used ++ more) = .ok (value, more) := by
  rcases hs : skipBlanks t with _ | ⟨q, body⟩
  · simp [readValue, hs] at h
  obtain ⟨blanks, hb, ht, -⟩ := exists_of_skipBlanks hs
  by_cases hquote : q = '"' ∨ q = '\''
  · rcases hd : body.dropWhile (· != q) with _ | ⟨q', rest'⟩
    · simp [readValue, hs, hquote, hd] at h
    simp only [readValue, hs, hquote, hd, if_true, Except.ok.injEq, Prod.mk.injEq] at h
    obtain ⟨hvalue, rfl⟩ := h
    have hq' : q' = q := by
      have hns := Text.notStarting_dropWhile (· != q) body
      rw [hd] at hns
      simpa using Text.notStarting_cons.1 hns
    have hbody : body = value ++ q :: rest' := by
      subst hq'
      rw [← hvalue, ← hd, List.takeWhile_append_dropWhile]
    have hnot : q ∉ value := by
      rw [← hvalue]
      intro hmem
      simpa using Text.all_of_mem_takeWhile q hmem
    refine ⟨blanks ++ q :: value ++ [q], by simp [ht, hbody], by simp, ?_, ?_⟩
    · intro c hc
      simp only [List.getLast?_append, List.getLast?_singleton, Option.some_or,
        Option.mem_def, Option.some.injEq] at hc
      subst hc
      rcases hquote with rfl | rfl <;> decide
    · intro more
      simpa using readValue_quoted hb hquote hnot more
  · simp [readValue, hs, hquote] at h

theorem isKeyChar_eq_false_of_isTagBlank {c : Char} (h : Text.isTagBlank c) :
    isKeyChar c = false := by
  simp only [Text.isTagBlank, Bool.or_eq_true, beq_iff_eq] at h
  rcases h with (((rfl | rfl) | rfl) | rfl) | rfl <;> decide

/-- An attribute is read from its key on, if a value can be read behind the `=`. -/
theorem readAttribute_key {key blanks rest value more : Text} (hkey : ∀ c ∈ key, isKeyChar c)
    (hne : key ≠ []) (hb : IsBlanks blanks) (hv : readValue rest = .ok (value, more)) :
    readAttribute (key ++ (blanks ++ '=' :: rest)) = .ok (⟨Text.asciiLower key, value⟩, more) := by
  have hns : Text.NotStarting isKeyChar (blanks ++ '=' :: rest) := by
    cases blanks with
    | nil => simp [isKeyChar]
    | cons b bs => simpa using isKeyChar_eq_false_of_isTagBlank (hb b (by simp))
  have hskip : skipBlanks (blanks ++ '=' :: rest) = '=' :: rest := skipBlanks_cons hb (by decide) _
  simp only [readAttribute, Text.takeWhile_run hkey hns, Text.dropWhile_run hkey hns, hne, if_false,
    hskip, if_true, hv]

theorem readAttribute_used {t rest : Text} {a : Attribute}
    (h : readAttribute t = .ok (a, rest)) :
    ∃ used, t = used ++ rest ∧ used ≠ [] ∧ Text.EndsSolid used ∧
      ∀ more, readAttribute (used ++ more) = .ok (a, more) := by
  obtain ⟨key, hkey, ht⟩ := Text.exists_run isKeyChar t
  have htake : t.takeWhile isKeyChar = key := by
    rw [ht]
    exact Text.takeWhile_run hkey (Text.notStarting_dropWhile _ _)
  by_cases hne : key = []
  · simp [readAttribute, htake, hne] at h
  rcases hs : skipBlanks (t.dropWhile isKeyChar) with _ | ⟨c, body⟩
  · simp [readAttribute, htake, hne, hs] at h
  by_cases hc : c = '='
  · subst hc
    rcases hv : readValue body with fault | ⟨value, rest'⟩
    · simp [readAttribute, htake, hne, hs, hv] at h
    simp only [readAttribute, htake, hne, hs, hv, if_true, if_false, Except.ok.injEq,
      Prod.mk.injEq] at h
    obtain ⟨rfl, rfl⟩ := h
    obtain ⟨used, hused, hused_ne, hsolid, hread⟩ := readValue_used hv
    obtain ⟨blanks, hb, hblanks, -⟩ := exists_of_skipBlanks hs
    refine ⟨key ++ (blanks ++ '=' :: used), ?_, by simp, ?_, ?_⟩
    · rw [ht, hblanks, hused]
      simp
    · rw [Text.endsSolid_append (by simp), Text.endsSolid_append (by simp),
        ← List.singleton_append, Text.endsSolid_append hused_ne]
      exact hsolid
    · intro more
      simpa using readAttribute_key hkey hne hb (hread more)
  · simp [readAttribute, htake, hne, hs, hc] at h

theorem exists_of_readAttribute {t rest : Text} {a : Attribute}
    (h : readAttribute t = .ok (a, rest)) : ∃ c u, t = c :: u ∧ isKeyChar c := by
  cases t with
  | nil => simp [readAttribute] at h
  | cons c u =>
    by_cases hc : isKeyChar c
    · exact ⟨c, u, rfl, hc⟩
    · simp [readAttribute, hc] at h

theorem readAttributes_nil {t : Text} (hs : skipBlanks t = []) :
    readAttributes t = .error .unterminated := by
  rw [readAttributes, hs]

theorem readAttributes_gt {t rest : Text} (hs : skipBlanks t = '>' :: rest) :
    readAttributes t = .ok ([], false, rest) := by
  rw [readAttributes, hs]
  rfl

theorem readAttributes_slash {t : Text} (hs : skipBlanks t = ['/']) :
    readAttributes t = .error .unterminated := by
  rw [readAttributes, hs]
  rfl

theorem readAttributes_slash_cons {t rest : Text} {c : Char}
    (hs : skipBlanks t = '/' :: c :: rest) :
    readAttributes t =
      if c = '>' then .ok ([], true, rest) else .error (.malformed .slashWithoutEnd) := by
  rw [readAttributes, hs]
  rfl

theorem readAttributes_end {blanks : Text} (hb : IsBlanks blanks) (sc : Bool) (more : Text) :
    readAttributes (blanks ++ ending sc ++ more) = .ok ([], sc, more) := by
  cases sc with
  | false =>
    have hs : skipBlanks (blanks ++ ['>'] ++ more) = '>' :: more := by
      simpa using skipBlanks_cons hb (c := '>') (by decide) more
    exact readAttributes_gt hs
  | true =>
    have hs : skipBlanks (blanks ++ ['/', '>'] ++ more) = '/' :: '>' :: more := by
      simpa using skipBlanks_cons hb (c := '/') (by decide) ('>' :: more)
    exact readAttributes_slash_cons hs

/-- Where the tag does not end, an attribute is read first. -/
theorem readAttributes_of_ne {t u : Text} {c : Char} (hs : skipBlanks t = c :: u) (hend : c ≠ '>')
    (hslash : c ≠ '/') :
    readAttributes t =
      match readAttribute (skipBlanks t) with
      | .error fault => .error fault
      | .ok (a, rest) =>
        match readAttributes rest with
        | .error fault => .error fault
        | .ok (more, selfClosing, rest) => .ok (a :: more, selfClosing, rest) := by
  rw [readAttributes]
  split
  · next h => simp [h] at hs
  · next h =>
    rw [h] at hs
    cases hs
    exact absurd rfl hend
  · next h =>
    rw [h] at hs
    cases hs
    exact absurd rfl hslash
  · next h =>
    rw [h] at hs
    cases hs
    exact absurd rfl hslash
  · split
    · next h => rw [h]
    · next rest h =>
      rcases hrest : readAttributes rest with fault | ⟨more, selfClosing, behind⟩
      · simp only [h, hrest]
      · simp only [h, hrest]

/-- Where a name of an attribute starts, that attribute is read first. -/
theorem readAttributes_eq {t u : Text} {c : Char} (hs : skipBlanks t = c :: u)
    (hc : isKeyChar c) :
    readAttributes t =
      match readAttribute (skipBlanks t) with
      | .error fault => .error fault
      | .ok (a, rest) =>
        match readAttributes rest with
        | .error fault => .error fault
        | .ok (more, selfClosing, rest) => .ok (a :: more, selfClosing, rest) := by
  apply readAttributes_of_ne hs
  · rintro rfl
    exact absurd hc (by decide)
  · rintro rfl
    exact absurd hc (by decide)

theorem readAttributes_cons {t rest more : Text} {a : Attribute} {attributes : List Attribute}
    {sc : Bool} (ha : readAttribute (skipBlanks t) = .ok (a, rest))
    (hm : readAttributes rest = .ok (attributes, sc, more)) :
    readAttributes t = .ok (a :: attributes, sc, more) := by
  obtain ⟨c, u, hs, hc⟩ := exists_of_readAttribute ha
  rw [readAttributes_eq hs hc, ha]
  simp only [hm]

/-- The attributes of a tag are read from the same characters whatever blanks and
    whatever end follow. -/
theorem readAttributes_used {t rest : Text} {attributes : List Attribute} {sc : Bool}
    (h : readAttributes t = .ok (attributes, sc, rest)) :
    ∃ body blanks, t = body ++ blanks ++ ending sc ++ rest ∧ IsBlanks blanks ∧
      Text.EndsSolid body ∧
      ∀ blanks' sc' more, IsBlanks blanks' →
        readAttributes (body ++ blanks' ++ ending sc' ++ more) = .ok (attributes, sc', more) := by
  fun_induction readAttributes t generalizing attributes sc rest with
  | case1 => cases h
  | case2 t r hr =>
    cases h
    obtain ⟨blanks, hb, ht, -⟩ := exists_of_skipBlanks hr
    refine ⟨[], blanks, by simp [ht], hb, by simp [Text.EndsSolid], ?_⟩
    intro blanks' sc' more hb'
    exact readAttributes_end hb' sc' more
  | case3 => cases h
  | case4 t r hr =>
    cases h
    obtain ⟨blanks, hb, ht, -⟩ := exists_of_skipBlanks hr
    refine ⟨[], blanks, by simp [ht], hb, by simp [Text.EndsSolid], ?_⟩
    intro blanks' sc' more hb'
    exact readAttributes_end hb' sc' more
  | case5 => cases h
  | case6 => cases h
  | case7 => cases h
  | case8 t a behind ha more sc' r' hm _ _ _ _ ih =>
    cases h
    obtain ⟨body, blanks, hbehind, hb, hsolid, hread⟩ := ih hm
    obtain ⟨used, hused, hne, husolid, hreada⟩ := readAttribute_used ha
    obtain ⟨before, hbefore, ht⟩ := exists_blanks t
    refine ⟨before ++ used ++ body, blanks, ?_, hb, ?_, ?_⟩
    · rw [ht, hused, hbehind]
      simp
    · cases body with
      | nil =>
        rw [List.append_nil, Text.endsSolid_append hne]
        exact husolid
      | cons c u => exact (Text.endsSolid_append (by simp)).2 hsolid
    · intro blanks' sc' more hb'
      have hskip : skipBlanks (before ++ used ++ body ++ blanks' ++ ending sc' ++ more) =
          used ++ (body ++ blanks' ++ ending sc' ++ more) := by
        have hstart :
            Text.NotStarting Text.isTagBlank (used ++ (body ++ blanks' ++ ending sc' ++ more)) := by
          have hs := notStarting_skipBlanks t
          rw [hused] at hs
          cases used with
          | nil => exact absurd rfl hne
          | cons c u => simpa using hs
        simpa using skipBlanks_append hbefore hstart
      refine readAttributes_cons ?_ (hread blanks' sc' more hb')
      rw [hskip]
      exact hreada _

theorem readClosingEnd_used {t rest : Text} (h : readClosingEnd t = .ok rest) :
    ∃ blanks, t = blanks ++ '>' :: rest ∧ IsBlanks blanks := by
  rcases hs : skipBlanks t with _ | ⟨c, r⟩
  · simp [readClosingEnd, hs] at h
  by_cases hc : c = '>'
  · subst hc
    simp only [readClosingEnd, hs, if_true, Except.ok.injEq] at h
    subst h
    obtain ⟨blanks, hb, ht, -⟩ := exists_of_skipBlanks hs
    exact ⟨blanks, ht, hb⟩
  · simp [readClosingEnd, hs, hc] at h

theorem readClosingEnd_blanks {blanks : Text} (hb : IsBlanks blanks) (more : Text) :
    readClosingEnd (blanks ++ '>' :: more) = .ok more := by
  have hs : skipBlanks (blanks ++ '>' :: more) = '>' :: more := skipBlanks_cons hb (by decide) _
  simp [readClosingEnd, hs]

/-! ### Names -/

/-- The characters by which a tag is a closing one. -/
def slash (closes : Bool) : Text := if closes then ['/'] else []

theorem toNat_of_isAlpha {c : Char} (h : c.isAlpha) :
    (65 ≤ c.toNat ∧ c.toNat ≤ 90) ∨ (97 ≤ c.toNat ∧ c.toNat ≤ 122) := by
  have h' : (decide (65 ≤ c.val ∧ c.val ≤ 90) ||
      (decide (97 ≤ c.val) && decide (c.val ≤ 122))) = true := h
  simpa [UInt32.le_iff_toNat_le] using h'

theorem isBlank_eq_false_of_isAlpha {c : Char} (h : c.isAlpha) : Text.isBlank c = false := by
  have hn := toNat_of_isAlpha h
  simp [Text.isBlank]
  omega

theorem notStarting_isAlpha_of_endsName {t : Text} (h : endsName t) :
    Text.NotStarting Char.isAlpha t := by
  cases t with
  | nil => simp
  | cons c t =>
    simp only [endsName, Text.isTagBlank, Bool.or_eq_true, beq_iff_eq] at h
    rw [Text.notStarting_cons]
    rcases h with ((((((rfl | rfl) | rfl) | rfl) | rfl) | rfl) | rfl) <;> decide

theorem readSlash_append (t : Text) : slash (readSlash t).1 ++ (readSlash t).2 = t := by
  unfold readSlash
  split <;> rfl

theorem readSlash_slash {t : Text} (closes : Bool) (h : Text.NotStarting (· == '/') t) :
    readSlash (slash closes ++ t) = (closes, t) := by
  cases closes with
  | true => rfl
  | false =>
    show readSlash t = (false, t)
    unfold readSlash
    split
    · simp at h
    · rfl

theorem toLower_eq_self {c : Char} (h : c.isUpper = false) : c.toLower = c :=
  dif_neg fun hrange => Bool.eq_false_iff.1 h (decide_eq_true hrange)

theorem isAlpha_of_mem_asciiLower {t : Text} (h : ∀ c ∈ Text.asciiLower t, c.isAlpha) :
    ∀ c ∈ t, c.isAlpha := by
  intro c hc
  have hlower : c.toLower.isAlpha := h c.toLower (List.mem_map_of_mem hc)
  by_cases hupper : c.isUpper
  · change (c.isUpper || c.isLower) = true
    rw [hupper, Bool.true_or]
  · rwa [toLower_eq_self (Bool.eq_false_iff.2 hupper)] at hlower

/-- A tag is known by its name in any case. -/
theorem ofName?_eq_some_iff {name : Text} {tag : Tag} :
    Tag.ofName? name = some tag ↔ Text.asciiLower name = tag.name := by
  constructor
  · intro h
    have hname : tag.name = Text.asciiLower name := by
      simpa using (List.find?_eq_some_iff_append.1 h).1
    exact hname.symm
  · intro h
    rw [Tag.ofName?, h]
    cases tag <;> rfl

theorem of_ofName? {name : Text} {tag : Tag} (h : Tag.ofName? name = some tag) :
    name ≠ [] ∧ ∀ c ∈ name, c.isAlpha := by
  have hnames (tag : Tag) : tag.name ≠ [] ∧ ∀ c ∈ tag.name, c.isAlpha := by
    rw [← List.all_eq_true]
    cases tag <;> decide
  obtain ⟨hne, halpha⟩ := hnames tag
  rw [← ofName?_eq_some_iff.1 h] at hne halpha
  refine ⟨?_, isAlpha_of_mem_asciiLower halpha⟩
  rintro rfl
  exact hne rfl

theorem notStarting_slash {name : Text} {tag : Tag} (h : Tag.ofName? name = some tag)
    (more : Text) : Text.NotStarting (· == '/') (name ++ more) := by
  obtain ⟨hne, halpha⟩ := of_ofName? h
  obtain ⟨c, w, rfl⟩ := List.exists_cons_of_ne_nil hne
  have hc : c.isAlpha := halpha c List.mem_cons_self
  rw [List.cons_append, Text.notStarting_cons, beq_eq_false_iff_ne]
  rintro rfl
  exact absurd hc (by decide)

/-- The name of a tag is read, as long as what follows ends it. -/
theorem readName?_name {name : Text} {tag : Tag} (h : Tag.ofName? name = some tag)
    (closes : Bool) {more : Text} (hmore : endsName more) :
    readName? (slash closes ++ name ++ more) = some (closes, tag, more) := by
  obtain ⟨-, halpha⟩ := of_ofName? h
  have hns := notStarting_isAlpha_of_endsName hmore
  rw [List.append_assoc, readName?, readSlash_slash _ (notStarting_slash h more)]
  simp only [Text.takeWhile_run halpha hns, Text.dropWhile_run halpha hns, h, hmore, if_true]

/-- A name of a tag is read from the same characters whatever follows, as long as
    that ends the name. -/
theorem readName?_used {t rest : Text} {closes : Bool} {tag : Tag}
    (h : readName? t = some (closes, tag, rest)) :
    ∃ name, t = slash closes ++ name ++ rest ∧ name ≠ [] ∧ (∀ c ∈ name, c.isAlpha) ∧
      endsName rest ∧
      ∀ more, endsName more →
        readName? (slash closes ++ name ++ more) = some (closes, tag, more) := by
  rcases hn : Tag.ofName? ((readSlash t).2.takeWhile Char.isAlpha) with _ | tag'
  · simp [readName?, hn] at h
  by_cases he : endsName ((readSlash t).2.dropWhile Char.isAlpha)
  · simp only [readName?, hn, he, if_true, Option.some.injEq, Prod.mk.injEq] at h
    obtain ⟨rfl, rfl, rfl⟩ := h
    obtain ⟨hne, halpha⟩ := of_ofName? hn
    refine ⟨_, ?_, hne, halpha, he, fun more hmore => readName?_name hn _ hmore⟩
    rw [List.append_assoc, List.takeWhile_append_dropWhile, readSlash_append]
  · simp [readName?, hn, he] at h

theorem endsName_blanks {blanks : Text} (hb : IsBlanks blanks) (sc : Bool) (more : Text) :
    endsName (blanks ++ ending sc ++ more) := by
  cases blanks with
  | nil => cases sc <;> simp [endsName]
  | cons b bs => simp [endsName, hb b (by simp)]

end TagText

/-! ### Whole tags -/

/-- An opening tag is read from the same characters whatever blanks and whatever end
    follow. -/
theorem readTag_opening {t rest : Text} {tag tag' : Tag} {attributes : List Attribute} {sc : Bool}
    (h : readTag t = some (tag', .ok (.opening tag attributes sc, rest))) :
    tag' = tag ∧
    ∃ body blanks, t = body ++ blanks ++ TagText.ending sc ++ rest ∧ TagText.IsBlanks blanks ∧
      body ≠ [] ∧ Text.EndsSolid body ∧
      ∀ blanks' sc' more, TagText.IsBlanks blanks' →
        readTag (body ++ blanks' ++ TagText.ending sc' ++ more) =
          some (tag, .ok (.opening tag attributes sc', more)) := by
  rcases hn : TagText.readName? t with _ | ⟨closes, tag'', behind⟩
  · simp [readTag, hn] at h
  cases closes with
  | true =>
    rcases he : TagText.readClosingEnd behind with fault | r <;> simp [readTag, hn, he] at h
  | false =>
    rcases ha : TagText.readAttributes behind with fault | ⟨attributes', sc', r⟩
    · simp [readTag, hn, ha] at h
    simp only [readTag, hn, ha, Option.some.injEq, Prod.mk.injEq, Except.ok.injEq,
      TagText.opening.injEq] at h
    obtain ⟨rfl, ⟨rfl, rfl, rfl⟩, rfl⟩ := h
    refine ⟨rfl, ?_⟩
    obtain ⟨name, ht, hne, halpha, hends, hname⟩ := TagText.readName?_used hn
    obtain ⟨body, blanks, hbehind, hb, hsolid, hread⟩ := TagText.readAttributes_used ha
    have hnamesolid : Text.EndsSolid name := fun c hc =>
      TagText.isBlank_eq_false_of_isAlpha (halpha c (List.mem_of_getLast? hc))
    refine ⟨name ++ body, blanks, by simp [ht, hbehind, TagText.slash], hb, by simp [hne], ?_,
      fun blanks' sc'' more hb' => ?_⟩
    · cases body with
      | nil => simpa using hnamesolid
      | cons c u => exact (Text.endsSolid_append (by simp)).2 hsolid
    · have hends' : TagText.endsName (body ++ blanks' ++ TagText.ending sc'' ++ more) := by
        cases body with
        | nil => simpa using TagText.endsName_blanks hb' sc'' more
        | cons c u =>
          rw [hbehind] at hends
          simpa [TagText.endsName] using hends
      have hname' := hname _ hends'
      have happ : name ++ body ++ blanks' ++ TagText.ending sc'' ++ more =
          TagText.slash false ++ name ++ (body ++ blanks' ++ TagText.ending sc'' ++ more) := by
        simp [TagText.slash]
      rw [happ]
      simp only [readTag, hname', hread blanks' sc'' more hb']

/-- A closing tag is read from the same characters whatever follows; it has no `/`
    before its end. -/
theorem readTag_closing {t rest : Text} {tag tag' : Tag}
    (h : readTag t = some (tag', .ok (.closing tag, rest))) :
    tag' = tag ∧
    ∃ body, t = '/' :: body ++ '>' :: rest ∧ body ≠ [] ∧ '/' ∉ body ∧
      ∀ more, readTag ('/' :: body ++ '>' :: more) = some (tag, .ok (.closing tag, more)) := by
  rcases hn : TagText.readName? t with _ | ⟨closes, tag'', behind⟩
  · simp [readTag, hn] at h
  cases closes with
  | false =>
    rcases ha : TagText.readAttributes behind with fault | r <;> simp [readTag, hn, ha] at h
  | true =>
    rcases he : TagText.readClosingEnd behind with fault | r
    · simp [readTag, hn, he] at h
    simp only [readTag, hn, he, Option.some.injEq, Prod.mk.injEq, Except.ok.injEq,
      TagText.closing.injEq] at h
    obtain ⟨rfl, rfl, rfl⟩ := h
    refine ⟨rfl, ?_⟩
    obtain ⟨name, ht, hne, halpha, -, hname⟩ := TagText.readName?_used hn
    obtain ⟨blanks, hbehind, hb⟩ := TagText.readClosingEnd_used he
    refine ⟨name ++ blanks, by simp [ht, hbehind, TagText.slash], by simp [hne], ?_,
      fun more => ?_⟩
    · intro hmem
      rcases List.mem_append.1 hmem with hm | hm
      · exact absurd (halpha _ hm) (by decide)
      · exact absurd (hb _ hm) (by decide)
    · have hends : TagText.endsName (blanks ++ '>' :: more) := by
        simpa using TagText.endsName_blanks hb false more
      have happ : '/' :: (name ++ blanks) ++ '>' :: more =
          TagText.slash true ++ name ++ (blanks ++ '>' :: more) := by
        simp [TagText.slash]
      rw [happ]
      simp only [readTag, hname _ hends, TagText.readClosingEnd_blanks hb]

/-- A tag is read from the same characters whatever follows. -/
theorem readTag_used {t rest : Text} {tag : Tag} {piece : TagText}
    (h : readTag t = some (tag, .ok (piece, rest))) :
    tag = piece.tag ∧
    ∃ used, t = used ++ rest ∧
      ∀ more, readTag (used ++ more) = some (piece.tag, .ok (piece, more)) := by
  cases piece with
  | opening tag' attributes sc =>
    obtain ⟨htag, body, blanks, ht, hb, -, -, hread⟩ := readTag_opening h
    exact ⟨htag, body ++ blanks ++ TagText.ending sc, by rw [ht],
      fun more => hread blanks sc more hb⟩
  | closing tag' =>
    obtain ⟨htag, body, ht, -, -, hread⟩ := readTag_closing h
    refine ⟨htag, '/' :: body ++ ['>'], by simp [ht], ?_⟩
    intro more
    simpa using hread more

/-! ### Tags that cannot be read -/

/-- A word behind the name of a tag is no attribute unless a `=` follows, and a closing
    tag has no attributes. -/
theorem readTag_and {name : Text} {tag : Tag} (h : Tag.ofName? name = some tag) (closes : Bool)
    {y : Text} (hy : (TagText.skipBlanks y).head? ≠ some '=') :
    ∃ fault, readTag (TagText.slash closes ++ name ++ (" and ".toList ++ y)) =
      some (tag, .error fault) := by
  have hname : TagText.readName? (TagText.slash closes ++ name ++ (" and ".toList ++ y)) =
      some (closes, tag, " and ".toList ++ y) := TagText.readName?_name h closes rfl
  rw [readTag, hname]
  cases closes with
  | true => exact ⟨.malformed .closingWithAttributes, rfl⟩
  | false =>
    have hskip : TagText.skipBlanks (" and ".toList ++ y) = "and ".toList ++ y := rfl
    have hattribute : ∃ fault, TagText.readAttribute ("and ".toList ++ y) = .error fault := by
      have hkey : ("and ".toList ++ y).takeWhile TagText.isKeyChar = ['a', 'n', 'd'] := rfl
      have hrest : TagText.skipBlanks (("and ".toList ++ y).dropWhile TagText.isKeyChar) =
          TagText.skipBlanks y := rfl
      rw [TagText.readAttribute, hkey, hrest]
      rcases hs : TagText.skipBlanks y with _ | ⟨c, rest⟩
      · exact ⟨.unterminated, rfl⟩
      · have hc : c ≠ '=' := by
          rintro rfl
          exact hy (by rw [hs]; rfl)
        exact ⟨.malformed .noAttributeValue, by simp [hc]⟩
    obtain ⟨fault, hfault⟩ := hattribute
    have hattributes : TagText.readAttributes (" and ".toList ++ y) = .error fault := by
      rw [TagText.readAttributes_eq hskip (by decide), hskip, hfault]
    exact ⟨fault, by simp only [hattributes]⟩

/-! ### A `<` that starts no tag -/

theorem readTag_eq_none_iff {t : Text} : readTag t = none ↔ TagText.readName? t = none := by
  rcases hn : TagText.readName? t with _ | ⟨closes, tag, rest⟩
  · simp [readTag, hn]
  · cases closes <;> simp [readTag, hn]

/-- What a name would consist of behind a `<`: letters, perhaps after a `/`. -/
def TagText.nameRest (t : Text) : Text := (TagText.readSlash t).2.dropWhile Char.isAlpha

theorem TagText.readSlash_append_right {v : Text} (h : v ≠ []) (x : Text) :
    TagText.readSlash (v ++ x) =
      ((TagText.readSlash v).1, (TagText.readSlash v).2 ++ x) := by
  cases v with
  | nil => exact absurd rfl h
  | cons c v =>
    by_cases hc : c = '/'
    · subst hc
      rfl
    · have h1 : TagText.readSlash (c :: v) = (false, c :: v) :=
        TagText.readSlash_slash false (by simpa using hc)
      have h2 : TagText.readSlash (c :: (v ++ x)) = (false, c :: (v ++ x)) :=
        TagText.readSlash_slash false (by simpa using hc)
      rw [List.cons_append, h1, h2, List.cons_append]

/-- Where a name stops inside a text, what follows the text has no say. -/
theorem readTag_append_eq_none_iff {v : Text} (h : TagText.nameRest v ≠ []) (x : Text) :
    readTag (v ++ x) = none ↔ readTag v = none := by
  have hv : v ≠ [] := by
    rintro rfl
    exact h rfl
  obtain ⟨letters, hl, hsplit⟩ := Text.exists_run Char.isAlpha (TagText.readSlash v).2
  rcases hr : (TagText.readSlash v).2.dropWhile Char.isAlpha with _ | ⟨c, r⟩
  · exact absurd hr h
  have hc : c.isAlpha = false := by
    have := Text.notStarting_dropWhile Char.isAlpha (TagText.readSlash v).2
    rw [hr] at this
    exact Text.notStarting_cons.1 this
  rw [hr] at hsplit
  rw [readTag_eq_none_iff, readTag_eq_none_iff]
  have hns : ∀ y, Text.NotStarting Char.isAlpha (c :: y) := fun y => Text.notStarting_cons.2 hc
  simp only [TagText.readName?, TagText.readSlash_append_right hv, hsplit, List.append_assoc,
    List.cons_append, Text.takeWhile_run hl (hns _), Text.dropWhile_run hl (hns _),
    TagText.endsName]
  rcases Tag.ofName? letters with _ | tag
  · simp
  · by_cases he : Text.isTagBlank c || c == '>' || c == '/' <;> simp [he]

/-- What is read of a name that ends here, unless it goes on. -/
theorem TagText.readName?_append_cons {v : Text} (h : TagText.nameRest v = []) {c : Char}
    (hslash : c ≠ '/') (halpha : c.isAlpha = false) (x : Text) :
    TagText.readName? (v ++ c :: x) =
      match Tag.ofName? (TagText.readSlash v).2 with
      | none => none
      | some tag =>
        if TagText.endsName [c] then some ((TagText.readSlash v).1, tag, c :: x) else none := by
  have hl : ∀ c ∈ (TagText.readSlash v).2, c.isAlpha := Text.all_of_dropWhile_eq_nil h
  have hns : Text.NotStarting Char.isAlpha (c :: x) := Text.notStarting_cons.2 halpha
  have hread : TagText.readSlash (v ++ c :: x) =
      ((TagText.readSlash v).1, (TagText.readSlash v).2 ++ c :: x) := by
    cases v with
    | nil =>
      exact TagText.readSlash_slash false (Text.notStarting_cons.2 (beq_eq_false_iff_ne.2 hslash))
    | cons d v => exact TagText.readSlash_append_right (by simp) _
  simp only [TagText.readName?, hread, Text.takeWhile_run hl hns, Text.dropWhile_run hl hns]
  rfl

/-- A character that neither goes on with a name nor ends it. -/
def TagText.BreaksName (c : Char) : Prop := c.isAlpha = false ∧ TagText.endsName [c] = false

instance (c : Char) : Decidable (TagText.BreaksName c) :=
  inferInstanceAs (Decidable (_ ∧ _))

/-- What starts no tag before some text starts none before a character that breaks
    names. -/
theorem readTag_breaksName {v x : Text} (h : readTag (v ++ x) = none) {c : Char}
    (hc : TagText.BreaksName c) (y : Text) : readTag (v ++ c :: y) = none := by
  by_cases hrest : TagText.nameRest v = []
  · have hslash : c ≠ '/' := by
      rintro rfl
      exact absurd hc (by decide)
    rw [readTag_eq_none_iff, TagText.readName?_append_cons hrest hslash hc.1, hc.2]
    cases Tag.ofName? (TagText.readSlash v).2 <;> rfl
  · rw [readTag_append_eq_none_iff hrest] at h ⊢
    exact h

/-- Before a blank it also matters that no name of a tag stands there. -/
theorem readTag_blank {v x : Text} (h : readTag (v ++ x) = none) {c : Char}
    (hc : Text.isTagBlank c)
    (hname : ∀ closes name, v = TagText.slash closes ++ name → Tag.ofName? name = none)
    (y : Text) : readTag (v ++ c :: y) = none := by
  by_cases hrest : TagText.nameRest v = []
  · have hends : TagText.endsName (c :: y) := by simp [TagText.endsName, hc]
    have hslash : c ≠ '/' := by
      rintro rfl
      exact absurd hc (by decide)
    have halpha : c.isAlpha = false :=
      Text.notStarting_cons.1 (TagText.notStarting_isAlpha_of_endsName hends)
    rw [readTag_eq_none_iff, TagText.readName?_append_cons hrest hslash halpha,
      hname _ _ (TagText.readSlash_append v).symm]
  · rw [readTag_append_eq_none_iff hrest] at h ⊢
    exact h

/-- No `<` of a text starts a tag if a given text follows. -/
def Plain (raw rest : Text) : Prop := ∀ u v, raw = u ++ '<' :: v → readTag (v ++ rest) = none

theorem plain_nil (rest : Text) : Plain [] rest := by
  intro u v h
  simp at h

theorem plain_of_not_mem {raw : Text} (h : '<' ∉ raw) (rest : Text) : Plain raw rest := by
  rintro u v rfl
  simp at h

theorem plain_append {a b rest : Text} :
    Plain (a ++ b) rest ↔ Plain a (b ++ rest) ∧ Plain b rest := by
  constructor
  · intro h
    constructor
    · intro u v huv
      rw [← List.append_assoc]
      exact h u (v ++ b) (by simp [huv])
    · intro u v huv
      exact h (a ++ u) v (by simp [huv])
  · rintro ⟨ha, hb⟩ u v huv
    rcases List.append_eq_append_iff.1 huv with ⟨m, hu, hm⟩ | ⟨m, hu, hm⟩
    · exact hb m v hm
    · cases m with
      | nil => exact hb [] v (by simpa using hm.symm)
      | cons c m =>
        rw [List.cons_append] at hm
        obtain ⟨rfl, rfl⟩ := List.cons.inj hm
        rw [List.append_assoc]
        exact ha u m hu

theorem plain_cons {c : Char} {raw rest : Text} :
    Plain (c :: raw) rest ↔ (c = '<' → readTag (raw ++ rest) = none) ∧ Plain raw rest := by
  have h : Plain ([c] ++ raw) rest ↔ _ := plain_append
  rw [List.singleton_append] at h
  rw [h]
  refine and_congr_left fun _ => ⟨fun ha hc => ?_, fun ha u v huv => ?_⟩
  · exact ha [] [] (by simp [hc])
  · cases u with
    | nil =>
      obtain ⟨hc, rfl⟩ := List.cons.inj huv
      exact ha hc
    | cons _ u => simp at huv

theorem Plain.breaksName {raw x : Text} (h : Plain raw x) {c : Char} (hc : TagText.BreaksName c)
    (y : Text) : Plain raw (c :: y) := by
  intro u v huv
  exact readTag_breaksName (h u v huv) hc y

/-- Before a tag it does not matter which tag that is. -/
theorem plain_lt_iff {raw : Text} (x : Text) : Plain raw ('<' :: x) ↔ Plain raw ['<'] :=
  ⟨fun h => h.breaksName (by decide) [], fun h => h.breaksName (by decide) x⟩

/-- What stands in a text starts no tag either, if a character that breaks names
    follows. -/
theorem Plain.of_isInfix {p raw x : Text} (h : Plain raw x) (hp : p <:+: raw) {c : Char}
    (hc : TagText.BreaksName c) (y : Text) : Plain p (c :: y) := by
  obtain ⟨a, b, rfl⟩ := hp
  rw [List.append_assoc, plain_append, plain_append] at h
  exact h.2.1.breaksName hc y

/-- A text that ends in the name of a tag: `<`, perhaps a `/`, and the name. -/
def EndsInTagName (t : Text) : Prop :=
  ∃ u closes name tag, t = u ++ '<' :: (TagText.slash closes ++ name) ∧
    Tag.ofName? name = some tag

theorem Plain.blank {raw x : Text} (h : Plain raw x) (hname : ¬EndsInTagName raw) {c : Char}
    (hc : Text.isTagBlank c) (y : Text) : Plain raw (c :: y) := by
  rintro u v rfl
  refine readTag_blank (h u v rfl) hc ?_ y
  rintro closes name rfl
  rcases htag : Tag.ofName? name with _ | tag
  · rfl
  · exact absurd ⟨u, closes, name, tag, rfl, htag⟩ hname

end Scenery
