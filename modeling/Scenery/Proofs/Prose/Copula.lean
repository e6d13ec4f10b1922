/-
  Scenery/Proofs/Prose/Copula.lean
  ================================
  **Where a copula stands in a text.**  The copula at the end of a text is a word with
  blanks behind it and a boundary before it (`exists_of_copulaAtEnd?`); in place of it
  any form that `agree` writes is found there again (`copulaAtEnd?_agreed`).  The same
  goes for the copula at the start.
-/
import Scenery.Proofs.Markup.TagText
import Scenery.Proofs.Text.Runs
import Scenery.Prose.Copula

namespace Scenery

namespace Text

theorem exists_of_afterFolded? {word t rest : Text} (h : afterFolded? word t = some rest) :
    ∃ u, t = u ++ rest ∧ u.length = word.length ∧ afterFolded? word u = some [] := by
  induction word generalizing t with
  | nil =>
    rw [afterFolded?, Option.some.injEq] at h
    exact ⟨[], h, rfl, rfl⟩
  | cons a word ih =>
    cases t with
    | nil => cases h
    | cons b t =>
      rw [afterFolded?] at h
      by_cases hab : sameLetter a b
      · rw [if_pos hab] at h
        obtain ⟨u, rfl, hlength, hu⟩ := ih h
        exact ⟨b :: u, rfl, by simp [hlength], by rw [afterFolded?, if_pos hab, hu]⟩
      · rw [if_neg hab] at h
        cases h

theorem afterFolded?_append {word u : Text} (h : afterFolded? word u = some []) (rest : Text) :
    afterFolded? word (u ++ rest) = some rest := by
  induction word generalizing u with
  | nil =>
    rw [afterFolded?, Option.some.injEq] at h
    rw [h]
    rfl
  | cons a word ih =>
    cases u with
    | nil => cases h
    | cons b u =>
      rw [afterFolded?] at h
      by_cases hab : sameLetter a b
      · rw [if_pos hab] at h
        rw [List.cons_append, afterFolded?, if_pos hab, ih h]
      · rw [if_neg hab] at h
        cases h

theorem length_of_afterFolded? {word u : Text} (h : afterFolded? word u = some []) :
    u.length = word.length := by
  obtain ⟨v, hv, hlength, -⟩ := exists_of_afterFolded? h
  rw [hv, List.append_nil, hlength]

end Text

namespace Prose

/-- A word is a form of another, in whatever capitals. -/
def IsForm (copula word : Text) : Prop := Text.afterFolded? copula word = some []

instance (copula word : Text) : Decidable (IsForm copula word) :=
  inferInstanceAs (Decidable (_ = _))

/-- `is` or `are`, in whatever capitals. -/
def IsCopula (word : Text) : Prop := ∃ copula ∈ copulas, IsForm copula word

/-- The copula for one or for several. -/
def copulaFor (plural : Bool) : Text := if plural then ['a', 'r', 'e'] else ['i', 's']

/-- What `agree` can write. -/
def agreedForms (plural : Bool) : List Text :=
  if plural then [['a', 'r', 'e'], ['A', 'R', 'E'], ['A', 'r', 'e']]
  else [['i', 's'], ['I', 'S'], ['I', 's']]

theorem agree_mem (word : Text) (plural : Bool) : agree word plural ∈ agreedForms plural := by
  unfold agree
  cases plural with
  | false =>
    have hcap : capitalize ['i', 's'] = ['I', 's'] := by decide +kernel
    simp only [Bool.false_eq_true, if_false, hcap]
    split
    · decide
    · split <;> decide
  | true =>
    have hcap : capitalize ['a', 'r', 'e'] = ['A', 'r', 'e'] := by decide +kernel
    simp only [if_true, hcap]
    split
    · decide
    · split <;> decide

/-- What is needed to know of the forms that are written. -/
theorem of_mem_agreedForms {plural : Bool} {word : Text} (h : word ∈ agreedForms plural) :
    IsForm (copulaFor plural) word ∧ word ≠ [] ∧ (∀ c ∈ word, c.isAlpha) ∧
      Tag.ofName? word = none := by
  have hforms : ∀ plural, ∀ word ∈ agreedForms plural, IsForm (copulaFor plural) word ∧
      word ≠ [] ∧ word.all Char.isAlpha ∧ Tag.ofName? word = none := by decide +kernel
  obtain ⟨hform, hne, halpha, hname⟩ := hforms plural word h
  exact ⟨hform, hne, List.all_eq_true.1 halpha, hname⟩

theorem isForm_agree (word : Text) (plural : Bool) :
    IsForm (copulaFor plural) (agree word plural) :=
  (of_mem_agreedForms (agree_mem word plural)).1

theorem notStarting_of_isAlpha {word : Text} (h : ∀ c ∈ word, c.isAlpha) :
    Text.NotStarting Text.isBlank word := fun c hc =>
  TagText.isBlank_eq_false_of_isAlpha (h c (List.mem_of_mem_head? hc))

theorem endsSolid_of_isAlpha {word : Text} (h : ∀ c ∈ word, c.isAlpha) : Text.EndsSolid word :=
  fun c hc => TagText.isBlank_eq_false_of_isAlpha (h c (List.mem_of_getLast? hc))

theorem isWordChar_of_isAlpha {c : Char} (h : c.isAlpha) : Text.isWordChar c := by
  have hn := TagText.toNat_of_isAlpha h
  have hletters : ∀ n < 123, (65 ≤ n ∧ n ≤ 90) ∨ (97 ≤ n ∧ n ≤ 122) →
      Text.wordRanges.has n = true := by decide +kernel
  exact hletters c.toNat (by omega) hn

/-- What follows a boundary makes no tag of a `<` before it, if it is a copula before
    blanks: neither a name that ends there nor one that starts there is a tag's. -/
theorem plain_replace {plural : Bool} {before word blanks rest : Text}
    (hword : word ∈ agreedForms plural) (hb : blanks ≠ []) (hblanks : ∀ c ∈ blanks, Text.isBlank c)
    (hapart : Text.endsApart before) {old : Text} (h : Plain before old) :
    Plain before (word ++ (blanks ++ rest)) := by
  obtain ⟨-, hne, halpha, hname⟩ := of_mem_agreedForms hword
  rintro u v rfl
  have hold := h u v rfl
  by_cases hrest : TagText.nameRest v = []
  · have hletters : ∀ c ∈ (TagText.readSlash v).2, c.isAlpha := Text.all_of_dropWhile_eq_nil hrest
    have hnil : (TagText.readSlash v).2 = [] := by
      rcases List.eq_nil_or_concat (TagText.readSlash v).2 with hnil | ⟨letters, c, hc⟩
      · exact hnil
      · exfalso
        rw [List.concat_eq_append] at hc
        have hv : v = TagText.slash (TagText.readSlash v).1 ++ letters ++ [c] := by
          rw [List.append_assoc, ← hc, TagText.readSlash_append]
        have hword := isWordChar_of_isAlpha (hletters c (by simp [hc]))
        rw [hv] at hapart
        simp [Text.endsApart, Text.startsApart, hword] at hapart
    have hv : v = TagText.slash (TagText.readSlash v).1 := by
      have happ := TagText.readSlash_append v
      rw [hnil, List.append_nil] at happ
      exact happ.symm
    have hslash : Text.NotStarting (· == '/') (word ++ (blanks ++ rest)) := by
      rw [Text.notStarting_append hne]
      intro c hc
      have hc' := halpha c (List.mem_of_mem_head? hc)
      rw [beq_eq_false_iff_ne]
      rintro rfl
      exact absurd hc' (by decide)
    have hblank : Text.NotStarting Char.isAlpha (blanks ++ rest) := by
      rw [Text.notStarting_append hb]
      intro c hc
      rw [← Bool.not_eq_true]
      intro hc'
      have hsolid := TagText.isBlank_eq_false_of_isAlpha hc'
      rw [hblanks c (List.mem_of_mem_head? hc)] at hsolid
      cases hsolid
    rw [hv, readTag_eq_none_iff, TagText.readName?, TagText.readSlash_slash _ hslash]
    simp only [Text.takeWhile_run halpha hblank, hname]
  · rw [readTag_append_eq_none_iff hrest] at hold ⊢
    exact hold

/-! ### At the end of a text -/

theorem exists_of_copulaAtEnd? {t : Text} {w : WordAt} (h : copulaAtEnd? t = some w) :
    ∃ before blanks, t = before ++ (w.word ++ blanks) ∧ w.offset = Text.bytes before ∧
      blanks ≠ [] ∧ (∀ c ∈ blanks, Text.isBlank c) ∧ Text.endsApart before ∧
      IsCopula w.word ∧ w.word ≠ [] ∧ Text.EndsSolid w.word := by
  unfold copulaAtEnd? at h
  by_cases hb : Text.trailingBlanks t = []
  · simp [hb] at h
  · simp only [hb, if_false] at h
    obtain ⟨copula, hmem, hc⟩ := List.exists_of_findSome?_eq_some h
    split at hc
    · next hfound =>
      cases hc
      obtain ⟨hform, hapart⟩ := hfound
      have hne : (Text.trimRight t).drop ((Text.trimRight t).length - copula.length) ≠ [] := by
        intro hnil
        rw [hnil] at hform
        simp only [copulas, List.mem_cons, List.not_mem_nil, or_false] at hmem
        rcases hmem with rfl | rfl <;> cases hform
      have hbody := Text.endsSolid_trimRight t
      rw [← List.take_append_drop ((Text.trimRight t).length - copula.length) (Text.trimRight t),
        Text.endsSolid_append hne] at hbody
      refine ⟨_, Text.trailingBlanks t, ?_, rfl, hb, Text.blank_of_mem_trailingBlanks, hapart,
        ⟨copula, hmem, hform⟩, hne, hbody⟩
      rw [← List.append_assoc, List.take_append_drop, Text.trimRight_append_trailingBlanks]
    · cases hc

theorem copulaAtEnd?_agreed {plural : Bool} {before word blanks : Text}
    (hword : word ∈ agreedForms plural) (hb : blanks ≠ []) (hblanks : ∀ c ∈ blanks, Text.isBlank c)
    (hapart : Text.endsApart before) :
    copulaAtEnd? (before ++ (word ++ blanks)) = some ⟨Text.bytes before, word⟩ := by
  obtain ⟨hform, hne, halpha, -⟩ := of_mem_agreedForms hword
  have hsolid : Text.EndsSolid (before ++ word) :=
    (Text.endsSolid_append hne).2 (endsSolid_of_isAlpha halpha)
  have hbody : Text.trimRight (before ++ (word ++ blanks)) = before ++ word := by
    rw [← List.append_assoc, Text.trimRight_append hblanks, Text.trimRight_of_endsSolid hsolid]
  have htrailing : Text.trailingBlanks (before ++ (word ++ blanks)) = blanks := by
    rw [← List.append_assoc, Text.trailingBlanks_append hsolid hblanks]
  have hlength := Text.length_of_afterFolded? hform
  have hn : (before ++ word).length - (copulaFor plural).length = before.length := by
    rw [List.length_append, hlength, Nat.add_sub_cancel]
  have hfound : (let n := (before ++ word).length - (copulaFor plural).length
      if Text.afterFolded? (copulaFor plural) ((before ++ word).drop n) = some [] ∧
          Text.endsApart ((before ++ word).take n) then
        some (WordAt.mk (Text.bytes ((before ++ word).take n)) ((before ++ word).drop n))
      else none) = some ⟨Text.bytes before, word⟩ := by
    simp only [hn, List.drop_left, List.take_left]
    rw [if_pos ⟨hform, hapart⟩]
  unfold copulaAtEnd?
  simp only [htrailing, hb, if_false, hbody]
  cases plural with
  | false =>
    simp only [copulaFor, Bool.false_eq_true, if_false] at hfound
    rw [copulas, List.findSome?_cons, hfound]
  | true =>
    -- the form for several does not end with a form for one
    have hother : ¬(Text.afterFolded? ['i', 's']
        ((before ++ word).drop ((before ++ word).length - ['i', 's'].length)) = some [] ∧
          Text.endsApart
            ((before ++ word).take ((before ++ word).length - ['i', 's'].length))) := by
      have hdrop : (before ++ word).drop ((before ++ word).length - ['i', 's'].length) =
          word.drop 1 := by
        have h2 : (before ++ word).length - ['i', 's'].length = before.length + 1 := by
          rw [List.length_append, hlength]
          show before.length + 3 - 2 = before.length + 1
          omega
        rw [h2, List.drop_length_add_append]
      rw [hdrop]
      simp only [agreedForms, if_true, List.mem_cons, List.not_mem_nil, or_false] at hword
      rintro ⟨h, -⟩
      rcases hword with rfl | rfl | rfl <;> exact absurd h (by decide)
    simp only [copulaFor, if_true] at hfound
    rw [copulas, List.findSome?_cons, List.findSome?_cons, if_neg hother, hfound]

/-! ### At the start of a text -/

theorem exists_of_copulaAtStart? {t : Text} {w : WordAt} (h : copulaAtStart? t = some w) :
    ∃ blanks rest, t = blanks ++ (w.word ++ rest) ∧ w.offset = Text.bytes blanks ∧
      blanks ≠ [] ∧ (∀ c ∈ blanks, Text.isBlank c) ∧ Text.startsApart rest ∧
      IsCopula w.word := by
  unfold copulaAtStart? at h
  by_cases hb : Text.leadingBlanks t = []
  · simp [hb] at h
  · simp only [hb, if_false] at h
    obtain ⟨copula, hmem, hc⟩ := List.exists_of_findSome?_eq_some h
    rcases hfold : Text.afterFolded? copula (Text.trimLeft t) with _ | rest
    · simp [hfold] at hc
    · by_cases hapart : Text.startsApart rest
      · simp only [hfold, hapart, if_true, Option.some.injEq] at hc
        subst hc
        obtain ⟨u, hu, hlength, hform⟩ := Text.exists_of_afterFolded? hfold
        have htake : (Text.trimLeft t).take copula.length = u := by
          rw [hu, ← hlength, List.take_left]
        simp only [htake]
        refine ⟨Text.leadingBlanks t, rest, ?_, rfl, hb, Text.blank_of_mem_leadingBlanks, hapart,
          copula, hmem, hform⟩
        rw [← hu, Text.leadingBlanks_append_trimLeft]
      · simp [hfold, hapart] at hc

theorem copulaAtStart?_agreed {plural : Bool} {blanks word rest : Text}
    (hword : word ∈ agreedForms plural) (hb : blanks ≠ []) (hblanks : ∀ c ∈ blanks, Text.isBlank c)
    (hapart : Text.startsApart rest) :
    copulaAtStart? (blanks ++ (word ++ rest)) = some ⟨Text.bytes blanks, word⟩ := by
  obtain ⟨hform, hne, halpha, -⟩ := of_mem_agreedForms hword
  have hstart : Text.NotStarting Text.isBlank (word ++ rest) :=
    (Text.notStarting_append hne).2 (notStarting_of_isAlpha halpha)
  have hbody : Text.trimLeft (blanks ++ (word ++ rest)) = word ++ rest := by
    rw [Text.trimLeft_append hblanks, Text.trimLeft_of_notStarting hstart]
  have hfold := Text.afterFolded?_append hform rest
  have htake : (word ++ rest).take (copulaFor plural).length = word := by
    rw [← Text.length_of_afterFolded? hform, List.take_left]
  unfold copulaAtStart?
  simp only [Text.leadingBlanks_append hstart hblanks, hb, if_false, hbody]
  cases plural with
  | false =>
    rw [copulas, List.findSome?_cons]
    simp only [copulaFor, Bool.false_eq_true, if_false] at hfold htake
    simp only [hfold, hapart, if_true, htake]
  | true =>
    -- the form for several does not start with a form for one
    have hother : Text.afterFolded? ['i', 's'] (word ++ rest) = none := by
      simp only [agreedForms, if_true, List.mem_cons, List.not_mem_nil, or_false] at hword
      rcases hword with rfl | rfl | rfl <;>
        · rw [List.cons_append, Text.afterFolded?, if_neg (by decide)]
    rw [copulas, List.findSome?_cons, List.findSome?_cons]
    simp only [copulaFor, if_true] at hfold htake
    simp only [hother, hfold, hapart, if_true, htake]

end Prose

end Scenery
