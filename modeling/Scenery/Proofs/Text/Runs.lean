/-
  Scenery/Proofs/Text/Runs.lean
  =============================
  **Runs of characters.**  Readers take the longest run of one kind of character and
  go on behind it.  What they find depends on the run and on the one character that
  ends it: `takeWhile_run` and `dropWhile_run` say so.

  Trimming takes runs of blanks off both ends: a text is what is left of it between
  blanks (`exists_trim`), and there is only one way to see it so
  (`trim_eq_of_between`).
-/
import Scenery.Text.Blank

namespace Scenery.Text

/-- A text that does not start with a character of some kind. -/
def NotStarting (p : Char → Bool) (t : Text) : Prop := ∀ c ∈ t.head?, p c = false

@[simp] theorem notStarting_nil (p : Char → Bool) : NotStarting p [] := by
  intro c hc
  cases hc

@[simp] theorem notStarting_cons {p : Char → Bool} {c : Char} {t : Text} :
    NotStarting p (c :: t) ↔ p c = false := by
  simp [NotStarting]

theorem takeWhile_eq_nil_of_notStarting {p : Char → Bool} {t : Text} (h : NotStarting p t) :
    t.takeWhile p = [] := by
  cases t with
  | nil => rfl
  | cons c t => simp [notStarting_cons.1 h]

theorem dropWhile_eq_self_of_notStarting {p : Char → Bool} {t : Text} (h : NotStarting p t) :
    t.dropWhile p = t := by
  cases t with
  | nil => rfl
  | cons c t => simp [notStarting_cons.1 h]

theorem takeWhile_run {p : Char → Bool} {run rest : Text} (hrun : ∀ c ∈ run, p c)
    (hrest : NotStarting p rest) : (run ++ rest).takeWhile p = run := by
  rw [List.takeWhile_append_of_pos hrun, takeWhile_eq_nil_of_notStarting hrest,
    List.append_nil]

theorem dropWhile_run {p : Char → Bool} {run rest : Text} (hrun : ∀ c ∈ run, p c)
    (hrest : NotStarting p rest) : (run ++ rest).dropWhile p = rest := by
  rw [List.dropWhile_append_of_pos hrun, dropWhile_eq_self_of_notStarting hrest]

theorem bne_of_not_mem {q : Char} {t : Text} (h : q ∉ t) : ∀ c ∈ t, (c != q) = true := by
  intro c hc
  rw [bne_iff_ne]
  rintro rfl
  exact h hc

/-- A text up to the first of some character. -/
theorem takeWhile_until {q : Char} {run : Text} (h : q ∉ run) (rest : Text) :
    (run ++ q :: rest).takeWhile (· != q) = run :=
  takeWhile_run (bne_of_not_mem h) (by simp)

theorem dropWhile_until {q : Char} {run : Text} (h : q ∉ run) (rest : Text) :
    (run ++ q :: rest).dropWhile (· != q) = q :: rest :=
  dropWhile_run (bne_of_not_mem h) (by simp)

theorem notStarting_dropWhile (p : Char → Bool) (t : Text) : NotStarting p (t.dropWhile p) := by
  intro c hc
  have h := List.head?_dropWhile_not p t
  rw [Option.mem_def.1 hc] at h
  simpa using h

theorem all_of_mem_takeWhile {p : Char → Bool} {t : Text} : ∀ c ∈ t.takeWhile p, p c := by
  intro c hc
  exact List.all_eq_true.1 List.all_takeWhile c hc

theorem exists_run (p : Char → Bool) (t : Text) :
    ∃ run, (∀ c ∈ run, p c) ∧ t = run ++ t.dropWhile p :=
  ⟨t.takeWhile p, all_of_mem_takeWhile, List.takeWhile_append_dropWhile.symm⟩

theorem all_of_dropWhile_eq_nil {p : Char → Bool} {t : Text} (h : t.dropWhile p = []) :
    ∀ c ∈ t, p c := by
  obtain ⟨run, hrun, ht⟩ := exists_run p t
  rw [h, List.append_nil] at ht
  exact ht ▸ hrun

/-! ### Blanks at the ends -/

/-- A text that is empty or ends with a character other than a blank. -/
def EndsSolid (t : Text) : Prop := ∀ c ∈ t.getLast?, isBlank c = false

@[simp] theorem endsSolid_nil : EndsSolid [] := by
  intro c hc
  cases hc

@[simp] theorem endsSolid_concat {t : Text} {c : Char} :
    EndsSolid (t ++ [c]) ↔ isBlank c = false := by
  simp [EndsSolid]

theorem endsSolid_append {s t : Text} (ht : t ≠ []) : EndsSolid (s ++ t) ↔ EndsSolid t := by
  rw [← List.dropLast_concat_getLast ht, ← List.append_assoc, endsSolid_concat, endsSolid_concat]

theorem notStarting_append {p : Char → Bool} {s t : Text} (hs : s ≠ []) :
    NotStarting p (s ++ t) ↔ NotStarting p s := by
  cases s with
  | nil => exact absurd rfl hs
  | cons c s => simp

theorem trimLeft_append {blanks t : Text} (hb : ∀ c ∈ blanks, isBlank c) :
    trimLeft (blanks ++ t) = trimLeft t := List.dropWhile_append_of_pos hb

theorem trimLeft_append_of_ne_nil {t : Text} (h : trimLeft t ≠ []) (x : Text) :
    trimLeft (t ++ x) = trimLeft t ++ x := by
  rw [trimLeft] at h
  simp [trimLeft, List.dropWhile_append, h]

theorem trimLeft_of_notStarting {t : Text} (h : NotStarting isBlank t) : trimLeft t = t :=
  dropWhile_eq_self_of_notStarting h

theorem trimRight_append {blanks t : Text} (hb : ∀ c ∈ blanks, isBlank c) :
    trimRight (t ++ blanks) = trimRight t := by
  have hr : ∀ c ∈ blanks.reverse, isBlank c := fun c hc => hb c (List.mem_reverse.1 hc)
  rw [trimRight, List.reverse_append, List.dropWhile_append_of_pos hr, trimRight]

theorem trimRight_of_endsSolid {t : Text} (h : EndsSolid t) : trimRight t = t := by
  have hns : NotStarting isBlank t.reverse := by
    intro c hc
    exact h c (by rwa [List.head?_reverse] at hc)
  rw [trimRight, dropWhile_eq_self_of_notStarting hns, List.reverse_reverse]

theorem endsSolid_trimRight (t : Text) : EndsSolid (trimRight t) := by
  intro c hc
  rw [trimRight, List.getLast?_reverse] at hc
  exact notStarting_dropWhile isBlank t.reverse c hc

theorem blank_of_mem_trailingBlanks {t : Text} : ∀ c ∈ trailingBlanks t, isBlank c := by
  intro c hc
  exact all_of_mem_takeWhile c (List.mem_reverse.1 hc)

theorem blank_of_mem_leadingBlanks {t : Text} : ∀ c ∈ leadingBlanks t, isBlank c :=
  all_of_mem_takeWhile

theorem trim_eq_of_between {a t b : Text} (ha : ∀ c ∈ a, isBlank c) (hb : ∀ c ∈ b, isBlank c)
    (hstart : NotStarting isBlank t) (hend : EndsSolid t) : trim (a ++ (t ++ b)) = t := by
  rw [trim, trimLeft_append ha]
  cases t with
  | nil =>
    have hnil : trimLeft b = [] := by
      rw [← List.append_nil b, trimLeft_append hb]
      rfl
    rw [List.nil_append, hnil]
    rfl
  | cons c t =>
    rw [trimLeft_of_notStarting ((notStarting_append (by simp)).2 hstart), trimRight_append hb,
      trimRight_of_endsSolid hend]

theorem trim_eq_self {t : Text} (hstart : NotStarting isBlank t) (hend : EndsSolid t) :
    trim t = t := by
  have h := trim_eq_of_between (a := []) (b := []) (by simp) (by simp) hstart hend
  simpa using h

theorem endsSolid_trim (t : Text) : EndsSolid (trim t) := endsSolid_trimRight _

theorem notStarting_trim (t : Text) : NotStarting isBlank (trim t) := by
  have h := trimRight_append_trailingBlanks (trimLeft t)
  by_cases hnil : trim t = []
  · simp [hnil]
  · have hns : NotStarting isBlank (trimLeft t) := notStarting_dropWhile isBlank t
    rw [← h] at hns
    exact (notStarting_append hnil).1 hns

theorem exists_trim (t : Text) :
    ∃ a b, (∀ c ∈ a, isBlank c) ∧ (∀ c ∈ b, isBlank c) ∧ t = a ++ (trim t ++ b) := by
  refine ⟨leadingBlanks t, trailingBlanks (trimLeft t), blank_of_mem_leadingBlanks,
    blank_of_mem_trailingBlanks, ?_⟩
  rw [trim, trimRight_append_trailingBlanks, leadingBlanks_append_trimLeft]

theorem length_trim_le (t : Text) : (trim t).length ≤ t.length := by
  obtain ⟨a, b, -, -, ht⟩ := exists_trim t
  have hlength := congrArg List.length ht
  simp only [List.length_append] at hlength
  omega

theorem trimmed?_eq_none {t : Text} : trimmed? t = none ↔ trim t = [] := by
  unfold trimmed?
  by_cases h : trim t = [] <;> simp [h]

theorem trimmed?_eq_some {t p : Text} : trimmed? t = some p ↔ trim t = p ∧ p ≠ [] := by
  unfold trimmed?
  by_cases h : trim t = []
  · simp only [h, List.isEmpty_nil, if_true, reduceCtorEq, false_iff, not_and, Decidable.not_not]
    intro hp
    exact hp.symm
  · simp only [List.isEmpty_iff, h, if_false, Option.some.injEq]
    constructor
    · rintro rfl
      exact ⟨rfl, h⟩
    · intro hp
      exact hp.1

theorem filterMap_trimmed? {ps : List Text} (h : ∀ p ∈ ps, p ≠ [] ∧ trim p = p) :
    ps.filterMap trimmed? = ps := by
  induction ps with
  | nil => rfl
  | cons p ps ih =>
    obtain ⟨hne, htrim⟩ := h p List.mem_cons_self
    rw [List.filterMap_cons_some (trimmed?_eq_some.2 ⟨htrim, hne⟩),
      ih fun q hq => h q (List.mem_cons_of_mem _ hq)]

theorem trim_cons_blank {c : Char} (hc : isBlank c) (t : Text) : trim (c :: t) = trim t := by
  rw [trim, trim, trimLeft, List.dropWhile_cons_of_pos hc]
  rfl

theorem trimmed?_cons_blank {c : Char} (hc : isBlank c) (t : Text) :
    trimmed? (c :: t) = trimmed? t := by
  rw [trimmed?, trim_cons_blank hc, trimmed?]

/-- A text with a character that is not blank is more than blanks. -/
theorem trim_ne_nil_of_mem {t : Text} {c : Char} (hmem : c ∈ t) (hc : isBlank c = false) :
    trim t ≠ [] := by
  intro hnil
  obtain ⟨a, b, ha, hb, ht⟩ := exists_trim t
  rw [hnil, List.nil_append] at ht
  rw [ht] at hmem
  rcases List.mem_append.1 hmem with hmem | hmem
  · rw [ha c hmem] at hc
    cases hc
  · rw [hb c hmem] at hc
    cases hc

theorem trim_eq_nil_iff {t : Text} : trim t = [] ↔ isAllBlank t := by
  constructor
  · intro hnil
    rw [isAllBlank, List.all_eq_true]
    intro c hc
    rw [← Bool.not_eq_false]
    intro hsolid
    exact trim_ne_nil_of_mem hc hsolid hnil
  · intro hblank
    have htrim := trim_eq_of_between (a := t) (t := []) (b := []) (List.all_eq_true.1 hblank)
      (by simp) (notStarting_nil _) endsSolid_nil
    simpa using htrim

theorem trimmed?_of_isAllBlank {t : Text} (h : isAllBlank t) : trimmed? t = none :=
  trimmed?_eq_none.2 (trim_eq_nil_iff.2 h)

theorem trim_cons_ne_nil {c : Char} (hc : isBlank c = false) (t : Text) : trim (c :: t) ≠ [] :=
  trim_ne_nil_of_mem List.mem_cons_self hc

theorem trailingBlanks_append {t blanks : Text} (ht : EndsSolid t)
    (hb : ∀ c ∈ blanks, isBlank c) : trailingBlanks (t ++ blanks) = blanks := by
  have hns : NotStarting isBlank t.reverse := by
    intro c hc
    exact ht c (by rwa [List.head?_reverse] at hc)
  rw [trailingBlanks, List.reverse_append,
    takeWhile_run (fun c hc => hb c (List.mem_reverse.1 hc)) hns, List.reverse_reverse]

theorem leadingBlanks_append {t blanks : Text} (ht : NotStarting isBlank t)
    (hb : ∀ c ∈ blanks, isBlank c) : leadingBlanks (blanks ++ t) = blanks :=
  takeWhile_run hb ht

/-- A text that is more than blanks: the blanks before it, the trimmed text, and the blanks
    behind it. -/
theorem eq_append_trim {t : Text} (h : trim t ≠ []) :
    t = leadingBlanks t ++ (trim t ++ trailingBlanks t) := by
  obtain ⟨a, b, ha, hb, ht⟩ := exists_trim t
  have hlead : leadingBlanks t = a := by
    conv => lhs; rw [ht]
    exact leadingBlanks_append ((notStarting_append h).2 (notStarting_trim t)) ha
  have htrail : trailingBlanks t = b := by
    conv => lhs; rw [ht, ← List.append_assoc]
    exact trailingBlanks_append ((endsSolid_append h).2 (endsSolid_trim t)) hb
  rw [hlead, htrail]
  exact ht

/-- The first word of a text is that of the trimmed text. -/
theorem firstWord_trim (t : Text) : firstWord (trim t) = firstWord t := by
  by_cases hnil : trim t = []
  · have hblank : trimLeft t = [] := by
      rcases h : trimLeft t with _ | ⟨c, rest⟩
      · rfl
      · have hc : isBlank c = false := by
          have hns := notStarting_dropWhile isBlank t
          rw [← trimLeft, h] at hns
          exact notStarting_cons.1 hns
        have hmem : c ∈ t := (List.dropWhile_sublist isBlank).subset (by rw [← trimLeft, h]; simp)
        exact absurd hnil (trim_ne_nil_of_mem hmem hc)
    rw [firstWord, firstWord, hblank, hnil]
    rfl
  · have hns := notStarting_trim t
    have hleft : trimLeft t = trim t ++ trailingBlanks t := by
      conv => lhs; rw [eq_append_trim hnil]
      rw [trimLeft_append blank_of_mem_leadingBlanks]
      exact trimLeft_of_notStarting ((notStarting_append hnil).2 hns)
    have htrail : (trailingBlanks t).takeWhile (!isBlank ·) = [] := by
      apply takeWhile_eq_nil_of_notStarting
      intro c hc
      simp [blank_of_mem_trailingBlanks c (List.mem_of_mem_head? hc)]
    rw [firstWord, firstWord, trimLeft_of_notStarting hns, hleft, List.takeWhile_append, htrail]
    split
    · next hall => rw [List.append_nil, (List.takeWhile_prefix _).eq_of_length hall]
    · rfl

theorem firstWord_append_afterFirstWord (t : Text) :
    firstWord t ++ afterFirstWord t = trimLeft t := List.takeWhile_append_dropWhile

end Scenery.Text
