/-
  Scenery/Proofs/Prose/Quantity.lean
  ==================================
  **The words of an entry and the number in them.**  An entry mentions an item only if
  it is more than blanks (`trim_ne_nil_of_mentionsItem`).  Writing it for another number
  keeps the blanks around its words, and all of the words but the number if they start
  with one (`requantified_requantify`).

  An entry that is written for another number can start with a small letter only if
  that number is one (`startsSmall_requantify`).
-/
import Scenery.Proofs.Prose.Capital
import Scenery.Prose.Mention

namespace Scenery

/-- No `<` stands in the words of an item. -/
structure Item.Plain (item : Item) : Prop where
  name : '<' ∉ item.name
  singular : '<' ∉ item.singular
  plural : ∀ p ∈ item.plural, '<' ∉ p

namespace Prose

/-! ### Numbers -/

theorem upper_of_isDigit {c : Char} (h : c.isDigit) :
    Text.upper c = [c] ∧ Text.isBlank c = false := by
  have hn : 48 ≤ c.toNat ∧ c.toNat ≤ 57 := by
    simpa [Char.isDigit, UInt32.le_iff_toNat_le] using h
  have hdigits : ∀ n < 58, 48 ≤ n →
      Text.upper (Char.ofNat n) = [Char.ofNat n] ∧ Text.isBlank (Char.ofNat n) = false := by
    decide +kernel
  have hc := hdigits c.toNat (by omega) hn.1
  rwa [Char.ofNat_toNat] at hc

theorem startsSmall_numeral_append (n : Nat) (t : Text) : startsSmall (numeral n ++ t) = false := by
  obtain ⟨c, u, hu⟩ := List.exists_cons_of_ne_nil (Nat.toDigits_ne_nil (n := n) (b := 10))
  have hc : c.isDigit :=
    Nat.isDigit_of_mem_toDigits (n := n) (by decide) (Nat.le_refl 10) (by simp [hu])
  obtain ⟨hupper, hblank⟩ := upper_of_isDigit hc
  rw [numeral, hu, List.cons_append, startsSmall_cons hblank, isSmall_eq_false hupper]

/-- **An entry that is written for another number starts with a small letter** exactly if
    that number is one, the entry did not start with a word such as `A`, and the
    singular phrase starts with a small letter. -/
theorem startsSmall_requantify (entry : Text) (item : Item) {count : Nat} (hcount : 1 ≤ count) :
    startsSmall (requantify entry item count) = true ↔
      count = 1 ∧ isTitleWord (Text.firstWord (Text.trim entry)) = false ∧
        startsSmall item.singular = true := by
  rw [requantify]
  simp only [List.append_assoc]
  rw [startsSmall_append_left Text.blank_of_mem_leadingBlanks,
    startsSmall_append_right Text.blank_of_mem_trailingBlanks]
  rcases htitle : isTitleWord (Text.firstWord (Text.trim entry)) with _ | _
  · simp only [Bool.false_eq_true, if_false, true_and]
    by_cases hone : count = 1
    · subst hone
      simp [quantityPhrase]
    · have hnumber : startsSmall (if 1 < count ∧ isNumeral (Text.firstWord (Text.trim entry)) then
          numeral count ++ Text.afterFirstWord (Text.trim entry)
          else quantityPhrase item count) = false := by
        split
        · exact startsSmall_numeral_append _ _
        · rw [quantityPhrase, if_neg hone]
          exact startsSmall_numeral_append _ _
      rw [hnumber]
      simp [hone]
  · simp [startsSmall_capitalize]

theorem lt_not_mem_numeral (n : Nat) : '<' ∉ numeral n := by
  intro h
  have hdigit : '<'.isDigit := Nat.isDigit_of_mem_toDigits (by decide) (Nat.le_refl 10) h
  exact absurd hdigit (by decide)

theorem lt_not_mem_pluralOrName {item : Item} (hname : '<' ∉ item.name)
    (hplural : ∀ p ∈ item.plural, '<' ∉ p) : '<' ∉ item.pluralOrName := by
  rw [Item.pluralOrName]
  split
  · next p hp =>
    split
    · exact hname
    · exact hplural p hp
  · exact hname

theorem lt_not_mem_quantityPhrase {item : Item} (h : item.Plain) (count : Nat) :
    '<' ∉ quantityPhrase item count := by
  rw [quantityPhrase]
  split
  · exact h.singular
  · intro hlt
    rcases List.mem_append.1 hlt with hlt | hlt
    · exact lt_not_mem_numeral count hlt
    · rcases List.mem_cons.1 hlt with hlt | hlt
      · cases hlt
      · exact lt_not_mem_pluralOrName h.name h.plural hlt

theorem trim_ne_nil_of_isNumeral {t : Text} (h : isNumeral (Text.firstWord (Text.trim t))) :
    Text.trim t ≠ [] := by
  intro hnil
  rw [hnil] at h
  exact absurd h (by decide)

theorem trim_eq_firstWord_append (t : Text) :
    Text.trim t = Text.firstWord (Text.trim t) ++ Text.afterFirstWord (Text.trim t) := by
  rw [Text.firstWord_append_afterFirstWord,
    Text.trimLeft_of_notStarting (Text.notStarting_trim t)]

/-- Writing an entry for another number makes no tag in it. -/
theorem plain_requantify {entry rest : Text} {item : Item} {count : Nat}
    (hentry : Plain entry rest) (hphrase : '<' ∉ quantityPhrase item count) :
    Plain (requantify entry item count) rest := by
  have hltlead : '<' ∉ Text.leadingBlanks entry := fun h =>
    absurd (Text.blank_of_mem_leadingBlanks _ h) (by decide)
  have hlttrail : '<' ∉ Text.trailingBlanks entry := fun h =>
    absurd (Text.blank_of_mem_trailingBlanks _ h) (by decide)
  have hcapital {phrase after : Text} {b : Bool} (h : Plain phrase after) :
      Plain (if b then capitalize phrase else phrase) after := by
    cases b with
    | false => exact h
    | true => exact (recased_capitalize phrase).plain h
  rw [requantify, List.append_assoc]
  refine plain_append.2 ⟨plain_of_not_mem hltlead _, plain_append.2 ⟨hcapital ?_,
    plain_of_not_mem hlttrail _⟩⟩
  split
  · next hnumeral =>
    -- what follows the number is as it was
    rw [Text.eq_append_trim (trim_ne_nil_of_isNumeral hnumeral.2), trim_eq_firstWord_append,
      plain_append, plain_append, plain_append] at hentry
    exact plain_append.2 ⟨plain_of_not_mem (lt_not_mem_numeral count) _, hentry.2.1.2⟩
  · exact plain_of_not_mem hphrase _

/-! ### What stays of an entry -/

/-- The words of an entry have changed, but not the blanks around them.  If the first word
    is a number and the new number is above one, that word alone has changed. -/
def Requantified (entry entry' : Text) (count : Nat) : Prop :=
  ∃ words words',
    entry = Text.leadingBlanks entry ++ (words ++ Text.trailingBlanks entry) ∧
    entry' = Text.leadingBlanks entry ++ (words' ++ Text.trailingBlanks entry) ∧
    (1 < count → isNumeral (Text.firstWord entry) = true →
      ∃ rest, words = Text.firstWord entry ++ rest ∧ words' = numeral count ++ rest)

theorem isTitleWord_eq_false_of_isNumeral {word : Text} (h : isNumeral word) :
    isTitleWord word = false := by
  cases word with
  | nil => rfl
  | cons c word =>
    have hc : c.isDigit := by
      simp only [isNumeral, List.all_cons, Bool.and_eq_true] at h
      exact h.2.1
    have hn : 48 ≤ c.toNat ∧ c.toNat ≤ 57 := by
      simpa [Char.isDigit, UInt32.le_iff_toNat_le] using hc
    have hdigits : ∀ n < 58, 48 ≤ n → Text.capitalRuns.has n = false := by decide +kernel
    have hcapital : Text.isCapital c = false := hdigits c.toNat (by omega) hn.1
    rw [isTitleWord, hcapital, Bool.false_and]

theorem requantified_requantify {entry : Text} (hentry : Text.trim entry ≠ []) (item : Item)
    (count : Nat) : Requantified entry (requantify entry item count) count := by
  refine ⟨Text.trim entry, _, Text.eq_append_trim hentry, List.append_assoc _ _ _, ?_⟩
  intro hcount hnumeral
  rw [← Text.firstWord_trim] at hnumeral ⊢
  refine ⟨Text.afterFirstWord (Text.trim entry), trim_eq_firstWord_append entry, ?_⟩
  have htitle := isTitleWord_eq_false_of_isNumeral hnumeral
  simp only [htitle, hcount, hnumeral, and_self, if_true, Bool.false_eq_true, if_false]

/-! ### Mentions -/

/-- A word that occurs in a text takes its first letter from it. -/
theorem exists_of_occursIn {word t : Text} {apart : Bool} (h : occursIn word apart t) :
    ∃ v, v <:+ t ∧ occursHere word v := by
  induction t generalizing apart with
  | nil =>
    rw [occursIn, Bool.and_eq_true] at h
    exact ⟨[], List.suffix_rfl, h.2⟩
  | cons c t ih =>
    rw [occursIn, Bool.or_eq_true, Bool.and_eq_true] at h
    rcases h with h | h
    · exact ⟨c :: t, List.suffix_rfl, h.2⟩
    · obtain ⟨v, hv, hword⟩ := ih h
      exact ⟨v, hv.trans (List.suffix_cons c t), hword⟩

theorem trim_ne_nil_of_mentionsItem {item : Item} {t : Text} (h : mentionsItem item t) :
    Text.trim t ≠ [] := by
  rw [mentionsItem, List.any_eq_true] at h
  obtain ⟨word, hword, hoccurs⟩ := h
  obtain ⟨name, -, hname⟩ := List.mem_filterMap.1 hword
  obtain ⟨rfl, hne⟩ := Text.trimmed?_eq_some.1 hname
  obtain ⟨v, hv, hhere⟩ := exists_of_occursIn hoccurs
  -- the first letter of the word is no blank, and neither is the one in the text
  have hsolid := Text.notStarting_trim name
  obtain ⟨c, w, hcw⟩ := List.exists_cons_of_ne_nil hne
  rw [hcw] at hhere hsolid
  cases v with
  | nil => cases hhere
  | cons d v =>
    have hletter : Text.sameLetter c d := by
      rw [← Bool.not_eq_false]
      intro hletter
      rw [occursHere, Text.afterFolded?, hletter] at hhere
      cases hhere
    apply Text.trim_ne_nil_of_mem (hv.subset List.mem_cons_self)
    rw [← Bool.not_eq_true]
    intro hd
    have hmark : Text.isMark d := by simp [Text.isMark, hd]
    rw [Text.eq_of_sameLetter hletter hmark, Text.notStarting_cons, hd] at hsolid
    cases hsolid

end Prose

end Scenery
