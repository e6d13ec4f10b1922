/-
  Scenery/Proofs/Path.lean
  ========================
  **Dotted paths.**  A path is identifiers with points between them (`Path.Dotted`).  The
  reader goes character by character: behind the start of an identifier come characters of
  one, or a point with the start of the next (`Path.Tail`).  Both say the same, so what is
  read is a dotted path, as far as it goes (`Path.readPath?_eq_some_iff`).

  The test of a whole text cuts it at the points instead, and holds of the dotted paths as
  well (`Path.isPath_iff_dotted`).
-/
import Scenery.Path
import Scenery.Proofs.Text.Runs

namespace Scenery.Path

/-- Identifiers with points between them. -/
inductive Dotted : Text → Prop
  | single {ident : Text} : isIdent ident → Dotted ident
  | cons {ident path : Text} : isIdent ident → Dotted path → Dotted (ident ++ '.' :: path)

/-- What comes next does not continue a path: no character of an identifier, and no point
    with the start of one behind it. -/
def EndsPath (rest : Text) : Prop :=
  Text.NotStarting isIdentPart rest ∧
    ∀ c t, rest = '.' :: c :: t → isIdentStart c = false

/-- A continuation of a path: more of the identifier, and perhaps a point and a path. -/
inductive Tail : Text → Prop
  | nil : Tail []
  | part {c : Char} {t : Text} : isIdentPart c → Tail t → Tail (c :: t)
  | point {c : Char} {t : Text} : isIdentStart c → Tail t → Tail ('.' :: c :: t)

theorem isIdentPart_point : isIdentPart '.' = false := by decide

theorem Tail.append_ident {s t : Text} (hs : ∀ c ∈ s, isIdentPart c) (ht : Tail t) :
    Tail (s ++ t) := by
  induction s with
  | nil => exact ht
  | cons c s ih =>
    apply Tail.part (hs c List.mem_cons_self)
    exact ih fun d hd => hs d (List.mem_cons_of_mem _ hd)

theorem exists_of_isIdent {t : Text} (h : isIdent t) :
    ∃ c s, t = c :: s ∧ isIdentStart c ∧ ∀ d ∈ s, isIdentPart d := by
  cases t with
  | nil => cases h
  | cons c s =>
    simp only [isIdent, Bool.and_eq_true, List.all_eq_true] at h
    exact ⟨c, s, rfl, h⟩

/-- A dotted path is the start of an identifier and a continuation. -/
theorem dotted_iff {t : Text} :
    Dotted t ↔ ∃ c s, t = c :: s ∧ isIdentStart c ∧ Tail s := by
  constructor
  · intro h
    induction h with
    | single hident =>
      obtain ⟨c, s, rfl, hc, hs⟩ := exists_of_isIdent hident
      have htail := Tail.append_ident hs .nil
      rw [List.append_nil] at htail
      exact ⟨c, s, rfl, hc, htail⟩
    | cons hident _ ih =>
      obtain ⟨c, s, rfl, hc, hs⟩ := exists_of_isIdent hident
      obtain ⟨d, u, rfl, hd, hu⟩ := ih
      exact ⟨c, s ++ '.' :: d :: u, rfl, hc, Tail.append_ident hs (.point hd hu)⟩
  · rintro ⟨c, s, rfl, hc, hs⟩
    -- the identifier that the continuation begins in has come this far
    have hdotted : ∀ front, (∀ d ∈ front, isIdentPart d) → Dotted (c :: (front ++ s)) := by
      intro front hfront
      induction hs generalizing c front with
      | nil =>
        apply Dotted.single
        simpa [isIdent, hc] using hfront
      | @part d t hd _ ih =>
        have h := ih c hc (front ++ [d]) (by
          intro e he
          rcases List.mem_append.1 he with he | he
          · exact hfront e he
          · rw [List.mem_singleton.1 he]
            exact hd)
        rwa [List.append_assoc] at h
      | @point d t hd _ ih =>
        have hident : isIdent (c :: front) := by simpa [isIdent, hc] using hfront
        exact Dotted.cons hident (ih d hd [] (by simp))
    exact hdotted [] (by simp)

/-- The tail that is read is a continuation, and what is left does not go on with one. -/
theorem tail_readTail (t : Text) : Tail (readTail t).1 ∧ EndsPath (readTail t).2 := by
  fun_induction readTail t with
  | case1 => exact ⟨.nil, by simp [EndsPath]⟩
  | case2 c hc => exact ⟨.part hc .nil, by simp [EndsPath]⟩
  | case3 c hc => exact ⟨.nil, by simpa [EndsPath] using hc⟩
  | case4 c d t hc path rest hread ih =>
    rw [hread] at ih
    exact ⟨.part hc ih.1, ih.2⟩
  | case5 c d t hc hpoint path rest hread ih =>
    obtain ⟨rfl, hd⟩ := hpoint
    rw [hread] at ih
    exact ⟨.point hd ih.1, ih.2⟩
  | case6 c d t hc hpoint =>
    refine ⟨.nil, by simpa using hc, ?_⟩
    rintro c' t' heq
    obtain ⟨rfl, rfl, rfl⟩ : c = '.' ∧ d = c' ∧ t = t' := by simpa using heq
    simpa using hpoint

theorem readTail_tail {path rest : Text} (hpath : Tail path) (hrest : EndsPath rest) :
    readTail (path ++ rest) = (path, rest) := by
  induction hpath with
  | nil =>
    rw [List.nil_append]
    obtain ⟨hstart, hpoint⟩ := hrest
    rcases rest with _ | ⟨c, _ | ⟨d, t⟩⟩
    · rfl
    · simp [readTail, Text.notStarting_cons.1 hstart]
    · have hnot : ¬(c = '.' ∧ isIdentStart d = true) := by
        rintro ⟨rfl, hd⟩
        rw [hpoint d t rfl] at hd
        cases hd
      simp [readTail, Text.notStarting_cons.1 hstart, hnot]
  | @part c t hc _ ih =>
    rw [List.cons_append]
    rcases h : t ++ rest with _ | ⟨d, u⟩
    · rw [h] at ih
      obtain ⟨rfl, rfl⟩ : t = [] ∧ rest = [] := by simpa using h
      simp [readTail, hc]
    · rw [h] at ih
      simp [readTail, hc, ih]
  | @point c t hc _ ih =>
    simp [readTail, isIdentPart_point, hc, ih]

/-- **A path is read as far as it goes.** -/
theorem readPath?_eq_some_iff {t path rest : Text} :
    readPath? t = some (path, rest) ↔ t = path ++ rest ∧ Dotted path ∧ EndsPath rest := by
  constructor
  · intro h
    refine ⟨(append_of_readPath? h).symm, ?_⟩
    rcases t with _ | ⟨c, t⟩
    · cases h
    rw [readPath?] at h
    split at h
    · next hc =>
      simp only [Option.some.injEq, Prod.mk.injEq] at h
      obtain ⟨rfl, rfl⟩ := h
      obtain ⟨htail, hends⟩ := tail_readTail t
      exact ⟨dotted_iff.2 ⟨c, _, rfl, hc, htail⟩, hends⟩
    · cases h
  · rintro ⟨rfl, hpath, hrest⟩
    obtain ⟨c, s, rfl, hc, hs⟩ := dotted_iff.1 hpath
    rw [List.cons_append, readPath?, if_pos hc, readTail_tail hs hrest]

theorem readPath?_self_iff {t : Text} : readPath? t = some (t, []) ↔ Dotted t := by
  rw [readPath?_eq_some_iff, List.append_nil]
  simp [EndsPath]

/-! ### Segments -/

theorem isIdentPart_of_isIdentStart {c : Char} (h : isIdentStart c) : isIdentPart c := by
  simp only [isIdentStart, isIdentPart, Char.isAlphanum, Bool.or_eq_true] at h ⊢
  rcases h with h | h
  · exact .inl (.inl h)
  · exact .inr h

theorem isIdentPart_of_mem {ident : Text} (h : isIdent ident) : ∀ c ∈ ident, isIdentPart c := by
  obtain ⟨c, s, rfl, hc, hs⟩ := exists_of_isIdent h
  exact List.forall_mem_cons.2 ⟨isIdentPart_of_isIdentStart hc, hs⟩

theorem point_not_mem_of_isIdent {ident : Text} (h : isIdent ident) : '.' ∉ ident := by
  intro hmem
  have hpart := isIdentPart_of_mem h '.' hmem
  rw [isIdentPart_point] at hpart
  cases hpart

theorem Dotted.isIdentPart_or_point {path : Text} (h : Dotted path) :
    ∀ c ∈ path, isIdentPart c ∨ c = '.' := by
  induction h with
  | single hident =>
    intro c hc
    exact .inl (isIdentPart_of_mem hident c hc)
  | cons hident _ ih =>
    intro c hc
    rcases List.mem_append.1 hc with hc | hc
    · exact .inl (isIdentPart_of_mem hident c hc)
    · rcases List.mem_cons.1 hc with rfl | hc
      · exact .inr rfl
      · exact ih c hc

theorem isPath_of_not_mem {t : Text} (h : '.' ∉ t) : isPath t = isIdent t := by
  rw [isPath, List.splitOn_eq_singleton h]
  simp

theorem isPath_append {front : Text} (h : '.' ∉ front) (path : Text) :
    isPath (front ++ '.' :: path) = (isIdent front && isPath path) := by
  rw [isPath, List.splitOn_append_cons_self_of_not_mem h, List.all_cons, isPath]

theorem dotted_of_isPath (t : Text) (h : isPath t) : Dotted t := by
  by_cases hpoint : '.' ∈ t
  · obtain ⟨front, path, rfl, hfront⟩ := List.eq_append_cons_of_mem hpoint
    rw [isPath_append hfront, Bool.and_eq_true] at h
    exact .cons h.1 (dotted_of_isPath path h.2)
  · rw [isPath_of_not_mem hpoint] at h
    exact .single h
termination_by t.length
decreasing_by
  simp only [*, List.length_append, List.length_cons]
  omega

/-- **Cut at its points, a path is identifiers.** -/
theorem isPath_iff_dotted {t : Text} : isPath t ↔ Dotted t := by
  constructor
  · exact dotted_of_isPath t
  · intro h
    induction h with
    | single hident =>
      rw [isPath_of_not_mem (point_not_mem_of_isIdent hident)]
      exact hident
    | cons hident _ ih =>
      rw [isPath_append (point_not_mem_of_isIdent hident), Bool.and_eq_true]
      exact ⟨hident, ih⟩

end Scenery.Path
