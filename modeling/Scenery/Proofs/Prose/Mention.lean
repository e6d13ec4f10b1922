/-
  Scenery/Proofs/Prose/Mention.lean
  =================================
  **Mentions and numbers.**  What mentions a thing is one of its words, and no word
  starts with a blank or, here, with a digit; so the number in front of the words has no
  part in it (`mentionsItem_digits`).

  An entry that is written for more than one is some blanks, the number, and a rest that
  does not depend on the number (`exists_numbered`).  Writing such an entry for another
  number changes the number alone (`requantify_numbered`), so of several numbers the last
  one stays.
-/
import Scenery.Proofs.Prose.Copula
import Scenery.Proofs.Prose.Quantity

namespace Scenery

/-- An item without the number of it. -/
structure Thing where
  name : Text
  singular : Text
  plural : Option Text := none
  deriving DecidableEq, Repr

/-- So many of a thing. -/
def Thing.times (x : Thing) (count : Nat) : Item := ⟨x.name, .count count, x.singular, x.plural⟩

/-- A thing has a name, and neither that nor what several of it are called starts with a
    digit or has a `<` in it. -/
structure Thing.Named (x : Thing) : Prop where
  solid : Text.trim x.name ≠ []
  name : '<' ∉ x.name
  plural : ∀ p ∈ x.plural, '<' ∉ p
  nameStart : Text.NotStarting Char.isDigit (Text.trim x.name)
  pluralStart : ∀ p ∈ x.plural, Text.NotStarting Char.isDigit (Text.trim p)

instance (p : Char → Bool) (t : Text) : Decidable (Text.NotStarting p t) :=
  Option.decidableForallMem t.head?

instance (x : Thing) : Decidable x.Named :=
  decidable_of_iff (Text.trim x.name ≠ [] ∧ '<' ∉ x.name ∧ (∀ p ∈ x.plural, '<' ∉ p) ∧
      Text.NotStarting Char.isDigit (Text.trim x.name) ∧
      ∀ p ∈ x.plural, Text.NotStarting Char.isDigit (Text.trim p))
    ⟨fun ⟨hsolid, hname, hplural, hnameStart, hpluralStart⟩ =>
        ⟨hsolid, hname, hplural, hnameStart, hpluralStart⟩,
      fun h => ⟨h.solid, h.name, h.plural, h.nameStart, h.pluralStart⟩⟩

namespace Text

theorem inRanges_of_has {ranges : CodeRanges} {n : Nat} (h : ranges.has n) : InRanges ranges n := by
  induction ranges with
  | nil => cases h
  | cons r ranges ih =>
    obtain ⟨first, last⟩ := r
    rw [CodeRanges.has] at h
    by_cases hfirst : n < first
    · rw [if_pos hfirst] at h
      cases h
    · rw [if_neg hfirst] at h
      by_cases hlast : n ≤ last
      · exact ⟨(first, last), List.mem_cons_self, Nat.le_of_not_lt hfirst, hlast⟩
      · rw [if_neg hlast] at h
        obtain ⟨r, hr, hin⟩ := ih h
        exact ⟨r, List.mem_cons_of_mem _ hr, hin⟩

theorem not_isWordChar_of_isBlank {c : Char} (h : isBlank c) : isWordChar c = false := by
  have hmarks : ∀ r ∈ markRanges, avoids wordRanges r.1 r.2 = true := by decide +kernel
  obtain ⟨r, hr, hlo, hhi⟩ := inRanges_of_isMark (c := c) (by simp [isMark, h])
  rw [← Bool.not_eq_true]
  intro hword
  exact not_inRanges_of_avoids (hmarks r hr) hlo hhi (inRanges_of_has hword)

theorem startsApart_of_blank {t : Text} (h : ∀ c ∈ t.head?, isBlank c) : startsApart t = true := by
  cases t with
  | nil => rfl
  | cons c t => rw [startsApart, not_isWordChar_of_isBlank (h c rfl), Bool.not_false]

theorem afterFolded?_self (word : Text) : afterFolded? word word = some [] := by
  induction word with
  | nil => rfl
  | cons c word ih => rw [afterFolded?, sameLetter, beq_self_eq_true, if_pos rfl, ih]

end Text

namespace Prose

/-! ### Where a word occurs -/

/-- A word that can be looked for: it starts neither with a blank nor with a digit. -/
structure Solid (word : Text) : Prop where
  ne_nil : word ≠ []
  blank : Text.NotStarting Text.isBlank word
  digit : Text.NotStarting Char.isDigit word

variable {word t lead digits tail : Text} {apart : Bool} {c : Char}

theorem Solid.occursHere_eq_false (h : Solid word) (hc : Text.isBlank c ∨ c.isDigit) (t : Text) :
    occursHere word (c :: t) = false := by
  obtain ⟨a, w, rfl⟩ := List.exists_cons_of_ne_nil h.ne_nil
  have hletter : Text.sameLetter a c = false := by
    rw [← Bool.not_eq_true]
    intro hsame
    rcases hc with hc | hc
    · have hmark : Text.isMark c := by simp [Text.isMark, hc]
      have hblank := h.blank
      rw [Text.eq_of_sameLetter hsame hmark, Text.notStarting_cons, hc] at hblank
      cases hblank
    · have hdigit := h.digit
      rw [Text.eq_of_sameLetter_digit hsame hc, Text.notStarting_cons, hc] at hdigit
      cases hdigit
  rw [occursHere, Text.afterFolded?, hletter]
  rfl

theorem Solid.occursHere_nil (h : Solid word) : occursHere word [] = false := by
  obtain ⟨a, w, rfl⟩ := List.exists_cons_of_ne_nil h.ne_nil
  rfl

/-- Behind blanks and digits with a blank at their end a word occurs as it does in the
    text itself. -/
theorem Solid.occursIn_append (h : Solid word) (hlead : ∀ d ∈ lead, Text.isBlank d ∨ d.isDigit)
    (hc : Text.isBlank c) (t : Text) (apart : Bool) :
    occursIn word apart (lead ++ c :: t) = occursIn word true t := by
  induction lead generalizing apart with
  | nil =>
    rw [List.nil_append, occursIn, h.occursHere_eq_false (.inl hc), Bool.and_false, Bool.false_or,
      Text.not_isWordChar_of_isBlank hc, Bool.not_false]
  | cons d lead ih =>
    rw [List.cons_append, occursIn, h.occursHere_eq_false (hlead d List.mem_cons_self),
      Bool.and_false, Bool.false_or]
    exact ih (fun d' hd' => hlead d' (List.mem_cons_of_mem _ hd')) _

theorem Solid.occursIn_eq_false (h : Solid word)
    (hlead : ∀ d ∈ lead, Text.isBlank d ∨ d.isDigit) (apart : Bool) :
    occursIn word apart lead = false := by
  induction lead generalizing apart with
  | nil => rw [occursIn, h.occursHere_nil, Bool.and_false]
  | cons d lead ih =>
    rw [occursIn, h.occursHere_eq_false (hlead d List.mem_cons_self), Bool.and_false, Bool.false_or]
    exact ih (fun d' hd' => hlead d' (List.mem_cons_of_mem _ hd')) _

/-- A word occurs between blanks. -/
theorem occursIn_between (hlead : ∀ d ∈ lead, Text.isBlank d) (hne : word ≠ [])
    (htail : ∀ d ∈ tail.head?, Text.isBlank d) : occursIn word true (lead ++ (word ++ tail)) := by
  induction lead with
  | nil =>
    have hhere : occursHere word (word ++ tail) = true := by
      rw [occursHere, Text.afterFolded?_append (Text.afterFolded?_self word)]
      exact Text.startsApart_of_blank htail
    obtain ⟨a, w, rfl⟩ := List.exists_cons_of_ne_nil hne
    rw [List.cons_append] at hhere
    rw [List.nil_append, List.cons_append, occursIn, hhere]
    rfl
  | cons d lead ih =>
    rw [List.cons_append, occursIn,
      Text.not_isWordChar_of_isBlank (hlead d List.mem_cons_self), Bool.not_false,
      ih fun d' hd' => hlead d' (List.mem_cons_of_mem _ hd'), Bool.or_true]

/-! ### The words of a thing -/

variable {x : Thing} {count : Nat}

theorem solid_of_mem_mentions (hx : x.Named) (h : word ∈ (x.times count).mentions) :
    Solid word := by
  obtain ⟨name, hname, hword⟩ := List.mem_filterMap.1 h
  obtain ⟨rfl, hne⟩ := Text.trimmed?_eq_some.1 hword
  refine ⟨hne, Text.notStarting_trim name, ?_⟩
  rw [List.mem_filterMap] at hname
  obtain ⟨name', hname', rfl⟩ := hname
  rcases List.mem_cons.1 hname' with hname' | hname'
  · cases hname'
    exact hx.nameStart
  · exact hx.pluralStart name (List.mem_singleton.1 hname').symm

theorem trim_mem_mentions {item : Item} (h : some t ∈ [some item.name, item.plural])
    (hne : Text.trim t ≠ []) : Text.trim t ∈ item.mentions := by
  apply List.mem_filterMap.2
  refine ⟨t, ?_, Text.trimmed?_eq_some.2 ⟨rfl, hne⟩⟩
  exact List.mem_filterMap.2 ⟨some t, h, rfl⟩

/-- What stands behind the number is one of the words of the thing. -/
theorem trim_pluralOrName_mem (hx : x.Named) (count : Nat) :
    Text.trim (x.times count).pluralOrName ∈ (x.times count).mentions := by
  have hname : Text.trim (x.times count).name ∈ (x.times count).mentions :=
    trim_mem_mentions List.mem_cons_self hx.solid
  rw [Item.pluralOrName]
  split
  · next p hp =>
    split
    · exact hname
    · next hblank =>
      apply trim_mem_mentions
      · rw [hp]
        exact List.mem_cons_of_mem _ List.mem_cons_self
      · intro hnil
        exact hblank (Text.trim_eq_nil_iff.1 hnil)
  · exact hname

theorem mentionsItem_pluralOrName (hx : x.Named) (count : Nat) {blanks : Text}
    (hblanks : ∀ c ∈ blanks, Text.isBlank c) :
    mentionsItem (x.times count) ((x.times count).pluralOrName ++ blanks) = true := by
  have hmem := trim_pluralOrName_mem hx count
  have hne := (solid_of_mem_mentions hx hmem).ne_nil
  rw [mentionsItem, List.any_eq_true]
  refine ⟨_, hmem, ?_⟩
  generalize (x.times count).pluralOrName = t at hne
  have hsplit : t ++ blanks =
      Text.leadingBlanks t ++ (Text.trim t ++ (Text.trailingBlanks t ++ blanks)) := by
    have hparts := congrArg (· ++ blanks) (Text.eq_append_trim hne)
    simpa using hparts
  rw [hsplit]
  apply occursIn_between Text.blank_of_mem_leadingBlanks hne
  intro c hc
  rcases List.mem_append.1 (List.mem_of_mem_head? hc) with hc | hc
  · exact Text.blank_of_mem_trailingBlanks c hc
  · exact hblanks c hc

/-! ### Entries with a number in front -/

/-- What can stand behind a number: nothing, or a blank and something. -/
def IsTail (tail : Text) : Prop := ∀ c ∈ tail.head?, Text.isBlank c

theorem isTail_cons (hc : Text.isBlank c) (t : Text) : IsTail (c :: t) := by
  intro d hd
  obtain rfl : c = d := by simpa using hd
  exact hc

/-- The words of an entry that starts with a number. -/
def numbered (lead : Text) (count : Nat) (tail : Text) : Text := lead ++ (numeral count ++ tail)

theorem isDigit_of_mem_numeral (count : Nat) : ∀ c ∈ numeral count, c.isDigit := fun _ hc =>
  Nat.isDigit_of_mem_toDigits (by decide) (Nat.le_refl 10) hc

theorem numeral_ne_nil (count : Nat) : numeral count ≠ [] := Nat.toDigits_ne_nil

theorem isNumeral_numeral (count : Nat) : isNumeral (numeral count) = true := by
  rw [isNumeral, Bool.and_eq_true, Bool.not_eq_true', List.isEmpty_eq_false_iff, List.all_eq_true]
  exact ⟨numeral_ne_nil count, isDigit_of_mem_numeral count⟩

theorem not_blank_of_mem_numeral (count : Nat) : ∀ c ∈ numeral count, Text.isBlank c = false :=
  fun c hc => (upper_of_isDigit (isDigit_of_mem_numeral count c hc)).2

/-- **The number has no part in a mention.**  Whatever digits stand there, the thing is
    mentioned behind them or not at all. -/
theorem mentionsItem_digits (hx : x.Named) (count : Nat) (hlead : ∀ c ∈ lead, Text.isBlank c)
    (hdigits : ∀ c ∈ digits, c.isDigit) (htail : IsTail tail) :
    mentionsItem (x.times count) (lead ++ (digits ++ tail)) =
      match tail with
      | [] => false
      | _ :: rest => mentionsItem (x.times count) rest := by
  have hfront : ∀ c ∈ lead ++ digits, Text.isBlank c ∨ c.isDigit := by
    intro c hc
    exact (List.mem_append.1 hc).imp (hlead c) (hdigits c)
  rw [← List.append_assoc]
  cases tail with
  | nil =>
    rw [List.append_nil, mentionsItem, List.any_eq_false]
    intro word hword
    rw [(solid_of_mem_mentions hx hword).occursIn_eq_false hfront]
    exact Bool.false_ne_true
  | cons c rest =>
    show mentionsItem (x.times count) _ = mentionsItem (x.times count) rest
    rw [Bool.eq_iff_iff]
    simp only [mentionsItem, List.any_eq_true]
    have hword (word : Text) (h : word ∈ (x.times count).mentions) :=
      (solid_of_mem_mentions hx h).occursIn_append hfront (htail c rfl) rest true
    constructor
    · rintro ⟨word, h, hoccurs⟩
      exact ⟨word, h, by rw [← hword word h, hoccurs]⟩
    · rintro ⟨word, h, hoccurs⟩
      exact ⟨word, h, by rw [hword word h, hoccurs]⟩

/-! ### One number for another -/

theorem notStarting_numeral (count : Nat) (t : Text) :
    Text.NotStarting Text.isBlank (numeral count ++ t) := by
  rw [Text.notStarting_append (numeral_ne_nil count)]
  intro c hc
  exact not_blank_of_mem_numeral count c (List.mem_of_mem_head? hc)

theorem firstWord_numeral (count : Nat) (htail : IsTail tail) :
    Text.firstWord (numeral count ++ tail) = numeral count ∧
      Text.afterFirstWord (numeral count ++ tail) = tail := by
  have hword : ∀ c ∈ numeral count, (!Text.isBlank c) = true := by
    intro c hc
    rw [not_blank_of_mem_numeral count c hc, Bool.not_false]
  have hrest : Text.NotStarting (!Text.isBlank ·) tail := by
    intro c hc
    show (!Text.isBlank c) = false
    rw [htail c hc, Bool.not_true]
  rw [Text.firstWord, Text.afterFirstWord, Text.trimLeft_of_notStarting (notStarting_numeral _ _),
    Text.takeWhile_run hword hrest, Text.dropWhile_run hword hrest]
  exact ⟨rfl, rfl⟩

theorem capitalize_numeral (count : Nat) (t : Text) :
    capitalize (numeral count ++ t) = numeral count ++ t := by
  have hstart := notStarting_numeral count t
  obtain ⟨c, u, hu⟩ := List.exists_cons_of_ne_nil (numeral_ne_nil count)
  have hupper := (upper_of_isDigit (isDigit_of_mem_numeral count c (by simp [hu]))).1
  rw [hu, List.cons_append] at hstart ⊢
  rw [capitalize, Text.trimLeft_of_notStarting hstart, Text.leadingBlanks,
    Text.takeWhile_eq_nil_of_notStarting hstart]
  show [] ++ Text.upper c ++ (u ++ t) = _
  rw [hupper]
  rfl

/-- The tail of an entry without the blanks at its end is one too. -/
theorem isTail_trimRight (h : IsTail tail) : IsTail (Text.trimRight tail) := by
  have hsplit := Text.trimRight_append_trailingBlanks tail
  rcases hkept : Text.trimRight tail with _ | ⟨c, kept⟩
  · intro c hc
    cases hc
  · rw [hkept] at hsplit
    intro d hd
    apply h d
    rw [← hsplit]
    exact hd

theorem endsSolid_numeral_append (count : Nat) {t : Text} (h : Text.EndsSolid t) :
    Text.EndsSolid (numeral count ++ t) := by
  by_cases hnil : t = []
  · rw [hnil, List.append_nil]
    intro c hc
    exact not_blank_of_mem_numeral count c (List.mem_of_getLast? hc)
  · exact (Text.endsSolid_append hnil).2 h

/-- **Writing an entry with a number for another number changes that number alone.** -/
theorem requantify_numbered (hlead : ∀ c ∈ lead, Text.isBlank c) (htail : IsTail tail)
    (item : Item) (n : Nat) {m : Nat} (hm : 1 < m) :
    requantify (numbered lead n tail) item m = numbered lead m tail := by
  have hsplit := Text.trimRight_append_trailingBlanks tail
  have hend := endsSolid_numeral_append n (Text.endsSolid_trimRight tail)
  obtain ⟨hfirst, hafter⟩ := firstWord_numeral n (isTail_trimRight htail)
  have hentry : numbered lead n tail =
      lead ++ ((numeral n ++ Text.trimRight tail) ++ Text.trailingBlanks tail) := by
    rw [List.append_assoc, hsplit, numbered]
  have hbody : Text.trim (numbered lead n tail) = numeral n ++ Text.trimRight tail := by
    rw [hentry]
    exact Text.trim_eq_of_between hlead Text.blank_of_mem_trailingBlanks
      (notStarting_numeral _ _) hend
  have hleading : Text.leadingBlanks (numbered lead n tail) = lead :=
    Text.leadingBlanks_append (notStarting_numeral n tail) hlead
  have htrailing : Text.trailingBlanks (numbered lead n tail) = Text.trailingBlanks tail := by
    rw [hentry, ← List.append_assoc]
    apply Text.trailingBlanks_append _ Text.blank_of_mem_trailingBlanks
    exact (Text.endsSolid_append (by simp [numeral_ne_nil])).2 hend
  have htitle := isTitleWord_eq_false_of_isNumeral (isNumeral_numeral n)
  simp only [requantify, hbody, hleading, htrailing, hfirst, hafter, htitle, isNumeral_numeral,
    hm, and_self, if_true, Bool.false_eq_true, if_false]
  rw [numbered, List.append_assoc, List.append_assoc, hsplit]

/-! ### Entries that are given a number -/

theorem isTail_afterFirstWord (t : Text) {blanks : Text} (h : ∀ c ∈ blanks, Text.isBlank c) :
    IsTail (Text.afterFirstWord t ++ blanks) := by
  have hstart := Text.notStarting_dropWhile (!Text.isBlank ·) (Text.trimLeft t)
  intro c hc
  rw [Text.afterFirstWord] at hc
  rcases hrest : (Text.trimLeft t).dropWhile (!Text.isBlank ·) with _ | ⟨d, rest⟩
  · rw [hrest] at hc
    exact h c (List.mem_of_mem_head? hc)
  · rw [hrest] at hc hstart
    obtain rfl : d = c := by simpa using hc
    simpa using hstart

/-- The number and what several of the thing are called mention the thing. -/
theorem mentionsItem_fresh (hx : x.Named) (hlead : ∀ c ∈ lead, Text.isBlank c) {blanks : Text}
    (hblanks : ∀ c ∈ blanks, Text.isBlank c) (k n : Nat) :
    mentionsItem (x.times k)
      (numbered lead n (' ' :: ((x.times k).pluralOrName ++ blanks))) = true := by
  rw [numbered, mentionsItem_digits hx k hlead (isDigit_of_mem_numeral n)
    (isTail_cons (by decide) _)]
  exact mentionsItem_pluralOrName hx k hblanks

/-- **An entry that is given a number above one starts with it**, and what follows is the
    same for every number.  If it mentioned the thing, it still does. -/
theorem exists_numbered (hx : x.Named) (entry : Text) :
    ∃ lead tail, (∀ c ∈ lead, Text.isBlank c) ∧ IsTail tail ∧
      (∀ k n, 1 < n → requantify entry (x.times k) n = numbered lead n tail) ∧
      ∀ k n, mentionsItem (x.times k) entry = true →
        mentionsItem (x.times k) (numbered lead n tail) = true := by
  by_cases hnumeral : isNumeral (Text.firstWord (Text.trim entry))
  · have htail := isTail_afterFirstWord (Text.trim entry)
      (Text.blank_of_mem_trailingBlanks (t := entry))
    have hdigits : ∀ c ∈ Text.firstWord (Text.trim entry), c.isDigit := by
      rw [isNumeral, Bool.and_eq_true, List.all_eq_true] at hnumeral
      exact hnumeral.2
    refine ⟨Text.leadingBlanks entry, _, Text.blank_of_mem_leadingBlanks, htail, ?_, ?_⟩
    · intro k n hn
      have htitle := isTitleWord_eq_false_of_isNumeral hnumeral
      simp only [requantify, hnumeral, htitle, hn, and_self, if_true, Bool.false_eq_true, if_false]
      rw [numbered, List.append_assoc, List.append_assoc]
    · intro k n hmentions
      rw [Text.eq_append_trim (trim_ne_nil_of_isNumeral hnumeral), trim_eq_firstWord_append,
        List.append_assoc, mentionsItem_digits hx k Text.blank_of_mem_leadingBlanks hdigits htail]
        at hmentions
      rw [numbered, mentionsItem_digits hx k Text.blank_of_mem_leadingBlanks
        (isDigit_of_mem_numeral n) htail]
      exact hmentions
  · refine ⟨Text.leadingBlanks entry,
      ' ' :: ((x.times 0).pluralOrName ++ Text.trailingBlanks entry),
      Text.blank_of_mem_leadingBlanks, isTail_cons (by decide) _, ?_, ?_⟩
    · intro k n hn
      have hone : n ≠ 1 := by omega
      simp only [requantify, hnumeral, and_false, Bool.false_eq_true, if_false, quantityPhrase,
        hone, capitalize_numeral, ite_self]
      rw [numbered, List.append_assoc, List.append_assoc]
      rfl
    · intro k n _
      exact mentionsItem_fresh hx Text.blank_of_mem_leadingBlanks
        Text.blank_of_mem_trailingBlanks k n

/-- The phrase for more than one is such an entry. -/
theorem quantityPhrase_eq_numbered (item : Item) {n : Nat} (hn : 1 < n) :
    quantityPhrase item n = numbered [] n (' ' :: item.pluralOrName) := by
  rw [quantityPhrase, if_neg (by omega)]
  rfl

theorem lt_not_mem_phrase (hx : x.Named) (k : Nat) {n : Nat} (hn : 1 < n) :
    '<' ∉ quantityPhrase (x.times k) n := by
  rw [quantityPhrase_eq_numbered _ hn, numbered, List.nil_append]
  intro hlt
  rcases List.mem_append.1 hlt with hlt | hlt
  · exact lt_not_mem_numeral n hlt
  · rcases List.mem_cons.1 hlt with hlt | hlt
    · cases hlt
    · exact lt_not_mem_pluralOrName hx.name hx.plural hlt

end Prose

end Scenery
