/-
  Scenery/Proofs/Prose/Capital.lean
  =================================
  **Capitals at the start of a text.**  Giving a text a capital, or taking it away,
  changes one character, and what comes in its place ends no word, no phrase and no
  tag (`Recased`).  So a phrase with a capital is a phrase (`isPhrase_capitalize`).

  A text that has been given a capital starts with no small letter
  (`startsSmall_capitalize`).
-/
import Scenery.Proofs.Markup.TagText
import Scenery.Proofs.Prose.Phrase
import Scenery.Proofs.Text.Case
import Scenery.Prose.Quantity

namespace Scenery.Prose

/-- A text with its first character that is not blank in another case, or as it was. -/
def Recased (t t' : Text) : Prop :=
  t' = t ∨ ∃ blanks c shifted rest, t = blanks ++ c :: rest ∧ t' = blanks ++ (shifted ++ rest) ∧
    (∀ b ∈ blanks, Text.isBlank b) ∧ Text.isBlank c = false ∧ shifted ≠ [] ∧
    ∀ x ∈ shifted, Text.isMark x = false

theorem isBlank_eq_false_of_isMark {c : Char} (h : Text.isMark c = false) :
    Text.isBlank c = false := by
  simp only [Text.isMark, Bool.or_eq_false_iff] at h
  exact h.1.1

/-- A text is blank, or its first character that is not blank can be named. -/
theorem trimLeft_cases (t : Text) :
    Text.trimLeft t = [] ∨ ∃ c rest, Text.trimLeft t = c :: rest ∧ Text.isBlank c = false ∧
      t = Text.leadingBlanks t ++ c :: rest := by
  rcases h : Text.trimLeft t with _ | ⟨c, rest⟩
  · exact .inl rfl
  · have hstart : Text.NotStarting Text.isBlank (Text.trimLeft t) := Text.notStarting_dropWhile _ t
    rw [h] at hstart
    refine .inr ⟨c, rest, rfl, Text.notStarting_cons.1 hstart, ?_⟩
    rw [← h, Text.leadingBlanks_append_trimLeft]

theorem recased_capitalize (t : Text) : Recased t (capitalize t) := by
  rcases trimLeft_cases t with h | ⟨c, rest, h, hc, ht⟩
  · rw [capitalize, h]
    exact .inl rfl
  · rw [capitalize, h]
    rcases Text.upper_eq_or c with hc' | hmark
    · left
      simp only [hc', List.append_assoc, List.singleton_append, ← ht]
    · right
      refine ⟨Text.leadingBlanks t, c, Text.upper c, rest, ht, by simp,
        Text.blank_of_mem_leadingBlanks, hc, Text.upper_ne_nil c, fun x hx => (hmark x hx).1⟩

theorem recased_decapitalize (t : Text) : Recased t (decapitalize t) := by
  by_cases hfirst : Text.firstWord t = ['I'] ∨ !isTitleWord (Text.firstWord t)
  · rw [decapitalize, if_pos hfirst]
    exact .inl rfl
  · rw [decapitalize, if_neg hfirst]
    rcases trimLeft_cases t with h | ⟨c, rest, h, hc, ht⟩
    · rw [h]
      exact .inl rfl
    · rw [h]
      rcases Text.lower_eq_or c with hc' | hmark
      · left
        simp only [hc', List.append_assoc, List.singleton_append, ← ht]
      · right
        exact ⟨Text.leadingBlanks t, c, Text.lower c, rest, ht, by simp,
          Text.blank_of_mem_leadingBlanks, hc, Text.lower_ne_nil c, hmark⟩

namespace Recased

variable {t t' : Text}

theorem not_mem (h : Recased t t') {x : Char} (hx : Text.isMark x) (hmem : x ∉ t) : x ∉ t' := by
  rcases h with rfl | ⟨blanks, c, shifted, rest, rfl, rfl, -, -, -, hmark⟩
  · exact hmem
  · simp only [List.mem_append, List.mem_cons, not_or] at hmem ⊢
    refine ⟨hmem.1, ?_, hmem.2.2⟩
    intro hshifted
    rw [hmark x hshifted] at hx
    cases hx

theorem plain (h : Recased t t') {rest : Text} (ht : Plain t rest) : Plain t' rest := by
  rcases h with rfl | ⟨blanks, c, shifted, behind, rfl, rfl, hblanks, -, -, hmark⟩
  · exact ht
  · have hblanks' : '<' ∉ blanks := fun hmem => absurd (hblanks _ hmem) (by decide)
    have hshifted : '<' ∉ shifted := fun hmem => absurd (hmark _ hmem) (by decide)
    have hbehind : Plain behind rest := (plain_cons.1 (plain_append.1 ht).2).2
    exact plain_append.2 ⟨plain_of_not_mem hblanks' _,
      plain_append.2 ⟨plain_of_not_mem hshifted _, hbehind⟩⟩

theorem ne_nil (h : Recased t t') (ht : t ≠ []) : t' ≠ [] := by
  rcases h with rfl | ⟨blanks, c, shifted, rest, rfl, rfl, -, -, hne, -⟩
  · exact ht
  · simp [hne]

theorem notStarting (h : Recased t t') (ht : Text.NotStarting Text.isBlank t) :
    Text.NotStarting Text.isBlank t' := by
  rcases h with rfl | ⟨blanks, c, shifted, rest, rfl, rfl, -, -, hne, hmark⟩
  · exact ht
  · cases blanks with
    | nil =>
      rw [List.nil_append, Text.notStarting_append hne]
      intro x hx
      exact isBlank_eq_false_of_isMark (hmark x (List.mem_of_mem_head? hx))
    | cons b blanks => simpa using ht

theorem endsSolid (h : Recased t t') (ht : Text.EndsSolid t) : Text.EndsSolid t' := by
  rcases h with rfl | ⟨blanks, c, shifted, rest, rfl, rfl, -, -, hne, hmark⟩
  · exact ht
  · by_cases hrest : rest = []
    · rw [hrest, List.append_nil, Text.endsSolid_append hne]
      intro x hx
      exact isBlank_eq_false_of_isMark (hmark x (List.mem_of_getLast? hx))
    · rw [← List.append_assoc, Text.endsSolid_append hrest]
      rw [List.append_cons, Text.endsSolid_append hrest] at ht
      exact ht

end Recased

/-! ### Phrases -/

theorem splitInner_solid_append {s t : Text} (hs : ∀ x ∈ s, Text.isBlank x = false)
    (ht : splitInner t = [t]) : splitInner (s ++ t) = [s ++ t] := by
  induction s with
  | nil => exact ht
  | cons x s ih =>
    have hx := hs x List.mem_cons_self
    rw [List.cons_append, splitInner_char fun h => absurd h (by simp [hx]),
      ih fun y hy => hs y (List.mem_cons_of_mem _ hy)]
    rfl

/-- A capital makes no connecting word. -/
theorem isPhrase_capitalize {p : Text} (h : IsPhrase p) : IsPhrase (capitalize p) := by
  have hrecased := recased_capitalize p
  obtain ⟨hne, hcomma, hstart, hend, hand, hinner⟩ := isPhrase_iff.1 h
  refine isPhrase_iff.2 ⟨hrecased.ne_nil hne, hrecased.not_mem (by decide) hcomma,
    hrecased.notStarting hstart, hrecased.endsSolid hend, ?_⟩
  cases p with
  | nil => exact absurd rfl hne
  | cons c t =>
    have hcapital : capitalize (c :: t) = Text.upper c ++ t := by
      have htrim : Text.trimLeft (c :: t) = c :: t := Text.trimLeft_of_notStarting hstart
      have hblanks : Text.leadingBlanks (c :: t) = [] :=
        Text.takeWhile_eq_nil_of_notStarting hstart
      rw [capitalize, htrim, hblanks]
      rfl
    rw [hcapital]
    rcases Text.upper_eq_or c with hc | hmark
    · rw [hc]
      exact ⟨hand, hinner⟩
    · constructor
      · obtain ⟨x, u, hu⟩ := List.exists_cons_of_ne_nil (Text.upper_ne_nil c)
        rw [hu, List.cons_append]
        exact afterAnd?_of_ne (hmark x (by simp [hu])).2 _
      · exact splitInner_solid_append (fun x hx => isBlank_eq_false_of_isMark (hmark x hx).1)
          (of_splitInner_cons hinner).2

/-! ### Small letters -/

/-- A small letter that has a capital. -/
def isSmall (c : Char) : Bool := Text.lower c == [c] && Text.upper c != [c]

/-- The first character of a text that is not blank is a small letter. -/
def startsSmall (t : Text) : Bool := ((Text.trimLeft t).head?.map isSmall).getD false

theorem isSmall_eq_false {c : Char} (h : Text.upper c = [c]) : isSmall c = false := by
  simp [isSmall, h]

theorem startsSmall_append_left {blanks : Text} (hb : ∀ c ∈ blanks, Text.isBlank c) (t : Text) :
    startsSmall (blanks ++ t) = startsSmall t := by
  rw [startsSmall, Text.trimLeft_append hb, startsSmall]

theorem startsSmall_cons {c : Char} (hc : Text.isBlank c = false) (t : Text) :
    startsSmall (c :: t) = isSmall c := by
  rw [startsSmall, Text.trimLeft_of_notStarting (Text.notStarting_cons.2 hc)]
  rfl

theorem startsSmall_blanks {blanks : Text} (hb : ∀ c ∈ blanks, Text.isBlank c) :
    startsSmall blanks = false := by
  rw [← List.append_nil blanks, startsSmall_append_left hb]
  rfl

theorem startsSmall_append_right {blanks : Text} (hb : ∀ c ∈ blanks, Text.isBlank c) (t : Text) :
    startsSmall (t ++ blanks) = startsSmall t := by
  rcases trimLeft_cases t with h | ⟨c, rest, h, hc, ht⟩
  · have hblank : ∀ c ∈ t, Text.isBlank c := Text.all_of_dropWhile_eq_nil h
    rw [startsSmall_append_left hblank, startsSmall_blanks hb, startsSmall_blanks hblank]
  · rw [ht, List.append_assoc, startsSmall_append_left Text.blank_of_mem_leadingBlanks,
      startsSmall_append_left Text.blank_of_mem_leadingBlanks, List.cons_append,
      startsSmall_cons hc, startsSmall_cons hc]

theorem startsSmall_capitalize (t : Text) : startsSmall (capitalize t) = false := by
  rcases trimLeft_cases t with h | ⟨c, rest, h, hc, -⟩
  · rw [capitalize, h, startsSmall, h]
    rfl
  · obtain ⟨x, u, hu⟩ := List.exists_cons_of_ne_nil (Text.upper_ne_nil c)
    have hx : Text.isBlank x = false ∧ Text.upper x = [x] := by
      rcases Text.upper_head hu with hc' | hx
      · obtain ⟨rfl, -⟩ := List.cons.inj (hc'.symm.trans hu)
        exact ⟨hc, hc'⟩
      · rcases Text.upper_eq_or c with hc' | hmark
        · obtain ⟨rfl, -⟩ := List.cons.inj (hc'.symm.trans hu)
          exact ⟨hc, hc'⟩
        · exact ⟨isBlank_eq_false_of_isMark (hmark x (by simp [hu])).1, hx⟩
    rw [capitalize, h]
    simp only [List.append_assoc]
    rw [startsSmall_append_left Text.blank_of_mem_leadingBlanks, hu, List.cons_append,
      startsSmall_cons hx.1, isSmall_eq_false hx.2]

end Scenery.Prose
