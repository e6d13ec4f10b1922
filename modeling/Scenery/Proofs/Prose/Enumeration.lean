/-
  Scenery/Proofs/Prose/Enumeration.lean
  =====================================
  **Taking enumerations apart.**  `split` cuts at commas, so it can be studied one
  piece between commas at a time (`split_append_comma`).  In such a piece blanks in
  front do not count, and nothing is left of a piece exactly if it is blank or a
  single `and` (`phrases_eq_nil_iff`): of two connecting words in a row one is kept
  as a phrase.

  An enumeration is written one phrase at a time, too (`join_eq_behindFirst`).
-/
import Scenery.Proofs.Text.Runs
import Scenery.Prose.Enumeration

namespace Scenery.Prose

/-- The word between the last two phrases of an enumeration. -/
def andWord : Text := ['a', 'n', 'd']

/-- The phrases of a text without commas. -/
def phrases (t : Text) : List Text := (splitAnd t).filterMap Text.trimmed?

theorem split_eq_flatMap (t : Text) : split t = (t.splitOn ',').flatMap phrases := by
  rw [split, List.filterMap_flatMap]
  rfl

theorem splitInner_nil : splitInner [] = [[]] := by
  unfold splitInner
  rfl

theorem phrases_nil : phrases [] = [] := by
  show (splitInner []).filterMap Text.trimmed? = []
  rw [splitInner_nil]
  rfl

theorem split_append_comma (a b : Text) : split (a ++ ',' :: b) = split a ++ split b := by
  rw [split_eq_flatMap, List.splitOn_append_cons_self, List.flatMap_append, ← split_eq_flatMap,
    ← split_eq_flatMap]

theorem split_of_not_mem {t : Text} (h : ',' ∉ t) : split t = phrases t := by
  rw [split_eq_flatMap, List.splitOn_eq_singleton h, List.flatMap_singleton]

/-! ### The word `and` -/

theorem afterAnd?_eq_some {t rest : Text} (h : afterAnd? t = some rest) :
    ∃ blanks, t = andWord ++ (blanks ++ rest) ∧ (∀ c ∈ blanks, Text.isBlank c) ∧
      Text.NotStarting Text.isBlank rest ∧ (blanks = [] → rest = []) := by
  unfold afterAnd? at h
  split at h
  · next t =>
    split at h
    · cases h
      exact ⟨[], rfl, by simp, by simp, fun _ => rfl⟩
    · next c r =>
      by_cases hc : Text.isBlank c
      · simp only [hc, if_true, Option.some.injEq] at h
        subst h
        refine ⟨Text.leadingBlanks (c :: r), ?_, Text.blank_of_mem_leadingBlanks,
          Text.notStarting_dropWhile _ _, fun hnil => ?_⟩
        · rw [Text.leadingBlanks_append_trimLeft]
          rfl
        · simp [Text.leadingBlanks, hc] at hnil
      · simp [hc] at h
  · cases h

theorem afterAnd?_andWord (blank : Char) (hb : Text.isBlank blank) (t : Text) :
    afterAnd? (andWord ++ blank :: t) = some (Text.trimLeft (blank :: t)) := by
  simp [andWord, afterAnd?, hb]

/-- A word that is not `and` does not become it when blanks follow. -/
theorem afterAnd?_append_eq_none {t : Text} (h : afterAnd? t = none) (ht : t ≠ []) {c : Char}
    (hc : Text.isBlank c) (x : Text) : afterAnd? (t ++ c :: x) = none := by
  rcases hx : afterAnd? (t ++ c :: x) with _ | rest
  · rfl
  exfalso
  obtain ⟨blanks, hword, -, -, -⟩ := afterAnd?_eq_some hx
  have hblank (d : Char) (hd : d ∈ andWord) : c ≠ d := by
    rintro rfl
    simp only [andWord, List.mem_cons, List.not_mem_nil, or_false] at hd
    rcases hd with rfl | rfl | rfl <;> exact absurd hc (by decide)
  -- the word ends inside the text, at its end, or before it
  rcases t with _ | ⟨c₁, _ | ⟨c₂, _ | ⟨c₃, r⟩⟩⟩
  · exact ht rfl
  · simp only [andWord, List.cons_append, List.nil_append, List.cons.injEq] at hword
    exact hblank 'n' (by decide) hword.2.1
  · simp only [andWord, List.cons_append, List.nil_append, List.cons.injEq] at hword
    exact hblank 'd' (by decide) hword.2.2.1
  · simp only [andWord, List.cons_append, List.nil_append, List.cons.injEq] at hword
    obtain ⟨rfl, rfl, rfl, -⟩ := hword
    cases r with
    | nil => cases h
    | cons d r =>
      by_cases hd : Text.isBlank d
      · simp [afterAnd?, hd] at h
      · simp [afterAnd?, hd] at hx

theorem afterAnd?_of_ne {c : Char} (hc : c ≠ 'a') (t : Text) : afterAnd? (c :: t) = none := by
  rcases h : afterAnd? (c :: t) with _ | rest
  · rfl
  · obtain ⟨blanks, hword, -⟩ := afterAnd?_eq_some h
    exact absurd (List.cons.inj hword).1 hc

/-! ### Blanks in front -/

theorem consFirst_eq_cons (c : Char) (ps : List Text) :
    ∃ q qs, consFirst c ps = (c :: q) :: qs := by
  cases ps with
  | nil => exact ⟨[], [], rfl⟩
  | cons p ps => exact ⟨p, ps, rfl⟩

theorem splitInner_ne_nil (t : Text) : splitInner t ≠ [] := by
  cases t with
  | nil => simp [splitInner_nil]
  | cons c t =>
    unfold splitInner
    split
    · simp
    · obtain ⟨q, qs, h⟩ := consFirst_eq_cons c (splitInner t)
      simp [h]

theorem splitInner_and {c : Char} (hc : Text.isBlank c) {t rest : Text}
    (h : afterAnd? (Text.trimLeft t) = some rest) :
    splitInner (c :: t) = [] :: splitInner rest := by
  conv => lhs; unfold splitInner
  split
  · next h' =>
    rw [if_pos hc, h, Option.some.injEq] at h'
    rw [h']
  · next h' =>
    rw [if_pos hc, h] at h'
    cases h'

theorem splitInner_char {c : Char} {t : Text}
    (h : Text.isBlank c → afterAnd? (Text.trimLeft t) = none) :
    splitInner (c :: t) = consFirst c (splitInner t) := by
  conv => lhs; unfold splitInner
  split
  · next h' =>
    by_cases hc : Text.isBlank c
    · rw [if_pos hc, h hc] at h'
      cases h'
    · simp [hc] at h'
  · rfl

theorem afterAnd?_cons_blank {c : Char} (hc : Text.isBlank c) (t : Text) :
    afterAnd? (c :: t) = none := by
  rcases h : afterAnd? (c :: t) with _ | rest
  · rfl
  · obtain ⟨blanks, hword, -⟩ := afterAnd?_eq_some h
    obtain ⟨rfl, -⟩ := List.cons.inj hword
    exact absurd hc (by decide)

theorem filterMap_consFirst_blank {c : Char} (hc : Text.isBlank c) {ps : List Text}
    (hps : ps ≠ []) : (consFirst c ps).filterMap Text.trimmed? = ps.filterMap Text.trimmed? := by
  cases ps with
  | nil => exact absurd rfl hps
  | cons p ps => simp only [consFirst, List.filterMap_cons, Text.trimmed?_cons_blank hc]

/-- A blank puts nothing but the phrases behind it in another light. -/
theorem phrases_cons_blank {c : Char} (hc : Text.isBlank c) (t : Text) :
    phrases (c :: t) = phrases t := by
  have hinner : phrases (c :: t) = (splitInner (c :: t)).filterMap Text.trimmed? := by
    rw [phrases, splitAnd, afterAnd?_cons_blank hc]
  have hstart : (∃ d u, t = d :: u ∧ Text.isBlank d) ∨ Text.trimLeft t = t := by
    cases t with
    | nil => exact .inr rfl
    | cons d u =>
      by_cases hd : Text.isBlank d
      · exact .inl ⟨d, u, rfl, hd⟩
      · exact .inr (Text.trimLeft_of_notStarting (by simpa using hd))
  rw [hinner]
  rcases h : afterAnd? (Text.trimLeft t) with _ | rest
  · rw [splitInner_char fun _ => h, filterMap_consFirst_blank hc (splitInner_ne_nil t), phrases,
      splitAnd]
    rcases hstart with ⟨d, u, rfl, hd⟩ | htrim
    · rw [afterAnd?_cons_blank hd]
    · rw [htrim] at h
      rw [h]
  · rw [splitInner_and hc h]
    rcases hstart with ⟨d, u, rfl, hd⟩ | htrim
    · have htrim : Text.trimLeft (d :: u) = Text.trimLeft u := List.dropWhile_cons_of_pos hd
      rw [htrim] at h
      rw [phrases, splitAnd, afterAnd?_cons_blank hd, splitInner_and hd h]
    · rw [htrim] at h
      rw [phrases, splitAnd, h]

theorem phrases_append_blanks {blanks : Text} (hb : ∀ c ∈ blanks, Text.isBlank c) (t : Text) :
    phrases (blanks ++ t) = phrases t := by
  induction blanks with
  | nil => rfl
  | cons c blanks ih =>
    rw [List.cons_append, phrases_cons_blank (hb c List.mem_cons_self),
      ih fun d hd => hb d (List.mem_cons_of_mem _ hd)]

theorem split_cons_blank {c : Char} (hc : Text.isBlank c) (t : Text) :
    split (c :: t) = split t := by
  have hcomma : (c == ',') = false := by
    rw [beq_eq_false_iff_ne]
    rintro rfl
    exact absurd hc (by decide)
  obtain ⟨p, ps, hps⟩ := List.exists_cons_of_ne_nil (List.splitOn_ne_nil ',' t)
  rw [split_eq_flatMap, split_eq_flatMap, List.splitOn_cons_eq_if_modifyHead, hcomma, hps]
  simp [phrases_cons_blank hc]

@[simp] theorem split_nil : split [] = [] := by rw [split_of_not_mem (by simp), phrases_nil]

theorem split_blanks {blanks : Text} (hb : ∀ c ∈ blanks, Text.isBlank c) : split blanks = [] := by
  induction blanks with
  | nil => exact split_nil
  | cons c blanks ih =>
    rw [split_cons_blank (hb c List.mem_cons_self), ih fun d hd => hb d (List.mem_cons_of_mem _ hd)]

/-! ### What leaves no phrases -/

/-- A piece that starts with a character other than a blank is a phrase at least. -/
theorem filterMap_splitInner_ne_nil {c : Char} (hc : Text.isBlank c = false) (t : Text) :
    (splitInner (c :: t)).filterMap Text.trimmed? ≠ [] := by
  obtain ⟨q, qs, hq⟩ := consFirst_eq_cons c (splitInner t)
  rw [splitInner_char fun h => absurd h (by simp [hc]), hq]
  intro hnil
  rw [List.filterMap_eq_nil_iff] at hnil
  exact Text.trim_cons_ne_nil hc q (Text.trimmed?_eq_none.1 (hnil _ List.mem_cons_self))

theorem trim_eq_andWord_iff {t : Text} (ht : Text.NotStarting Text.isBlank t) :
    Text.trim t = andWord ↔ ∃ b, (∀ c ∈ b, Text.isBlank c) ∧ t = andWord ++ b := by
  constructor
  · intro h
    obtain ⟨a, b, ha, hb, htab⟩ := Text.exists_trim t
    rw [h] at htab
    cases a with
    | nil => exact ⟨b, hb, htab⟩
    | cons c a =>
      rw [htab, List.cons_append, Text.notStarting_cons, ha c List.mem_cons_self] at ht
      cases ht
  · rintro ⟨b, hb, rfl⟩
    have hstart : Text.NotStarting Text.isBlank andWord := Text.notStarting_cons.2 (by decide)
    have hend : Text.EndsSolid andWord :=
      (Text.endsSolid_concat (t := ['a', 'n'])).2 (by decide)
    exact Text.trim_eq_of_between (a := []) (by simp) hb hstart hend

/-- Nothing is left of a piece between commas exactly if it is blank or has nothing but
    one connecting word. -/
theorem phrases_eq_nil_iff (t : Text) :
    phrases t = [] ↔ Text.trim t = [] ∨ Text.trim t = andWord := by
  -- blanks in front do not count on either side
  obtain ⟨blanks, hb, ht⟩ : ∃ blanks, (∀ c ∈ blanks, Text.isBlank c) ∧
      t = blanks ++ Text.trimLeft t := Text.exists_run Text.isBlank t
  have hphrases : phrases t = phrases (Text.trimLeft t) := by
    conv => lhs; rw [ht]
    exact phrases_append_blanks hb _
  have htrim : Text.trim t = Text.trim (Text.trimLeft t) := by
    have hns : Text.NotStarting Text.isBlank (Text.trimLeft t) := Text.notStarting_dropWhile _ t
    rw [Text.trim, Text.trim, Text.trimLeft_of_notStarting hns]
  have hns : Text.NotStarting Text.isBlank (Text.trimLeft t) := Text.notStarting_dropWhile _ t
  rw [hphrases, htrim]
  generalize Text.trimLeft t = u at hns
  cases u with
  | nil => exact ⟨fun _ => .inl rfl, fun _ => phrases_nil⟩
  | cons c u =>
    have hc : Text.isBlank c = false := Text.notStarting_cons.1 hns
    have hne := Text.trim_cons_ne_nil hc u
    rw [trim_eq_andWord_iff hns]
    rcases h : afterAnd? (c :: u) with _ | rest
    · have hphrases : phrases (c :: u) ≠ [] := by
        rw [phrases, splitAnd, h]
        exact filterMap_splitInner_ne_nil hc u
      simp only [hphrases, hne, false_or, false_iff, not_exists, not_and]
      intro b hb hword
      rw [hword] at h
      cases b with
      | nil => cases h
      | cons d b =>
        rw [afterAnd?_andWord d (hb d List.mem_cons_self)] at h
        cases h
    · obtain ⟨blanks, hword, hblanks, hrest, -⟩ := afterAnd?_eq_some h
      have hphrases : phrases (c :: u) = (splitInner rest).filterMap Text.trimmed? := by
        rw [phrases, splitAnd, h]
        rfl
      rw [hphrases]
      cases rest with
      | nil =>
        refine ⟨fun _ => .inr ⟨blanks, hblanks, by simpa using hword⟩, fun _ => ?_⟩
        rw [splitInner_nil]
        rfl
      | cons d r =>
        have hd : Text.isBlank d = false := Text.notStarting_cons.1 hrest
        simp only [filterMap_splitInner_ne_nil hd r, hne, false_or, false_iff, not_exists, not_and]
        intro b hb hword'
        rw [hword] at hword'
        have hmem : d ∈ b := by
          rw [← List.append_cancel_left hword']
          simp
        exact absurd (hb d hmem) (by simp [hd])

/-- Nothing is left of a text exactly if between its commas stands at most one
    connecting word each time. -/
theorem split_eq_nil_iff (t : Text) :
    split t = [] ↔ ∀ piece ∈ t.splitOn ',', Text.trim piece = [] ∨ Text.trim piece = andWord := by
  rw [split_eq_flatMap, List.flatMap_eq_nil_iff]
  exact forall_congr' fun piece => imp_congr_right fun _ => phrases_eq_nil_iff piece

/-- The first phrase of a text starts as the text does, unless that is with a blank, a
    comma or the connecting word. -/
theorem exists_split_cons {c : Char} (hb : Text.isBlank c = false) (hcomma : c ≠ ',')
    (ha : c ≠ 'a') (t : Text) : ∃ q ps, split (c :: t) = (c :: q) :: ps := by
  obtain ⟨piece, pieces, hpieces⟩ := List.exists_cons_of_ne_nil (List.splitOn_ne_nil ',' t)
  have hsplit : (c :: t).splitOn ',' = (c :: piece) :: pieces := by
    rw [List.splitOn_cons_eq_if_modifyHead, if_neg (by simpa using hcomma), hpieces]
    rfl
  obtain ⟨p, ps, hp⟩ := consFirst_eq_cons c (splitInner piece)
  have hinner : splitInner (c :: piece) = (c :: p) :: ps := by
    rw [splitInner_char fun h => absurd h (by simp [hb]), hp]
  -- no blank is trimmed from the front of the phrase
  obtain ⟨q, hq⟩ : ∃ q, Text.trimmed? (c :: p) = some (c :: q) := by
    obtain ⟨before, behind, hbefore, -, htrim⟩ := Text.exists_trim (c :: p)
    have hne := Text.trim_cons_ne_nil hb p
    cases before with
    | nil =>
      obtain ⟨d, q, hdq⟩ := List.exists_cons_of_ne_nil hne
      rw [hdq] at htrim
      obtain ⟨rfl, -⟩ := List.cons.inj htrim
      exact ⟨q, Text.trimmed?_eq_some.2 ⟨hdq, by simp⟩⟩
    | cons d before =>
      obtain ⟨rfl, -⟩ := List.cons.inj htrim
      rw [hbefore c List.mem_cons_self] at hb
      cases hb
  have hphrases : phrases (c :: piece) = (c :: q) :: ps.filterMap Text.trimmed? := by
    rw [phrases, splitAnd, afterAnd?_of_ne ha]
    simp only [hinner]
    rw [List.filterMap_cons_some hq]
  exact ⟨q, _, by rw [split_eq_flatMap, hsplit, List.flatMap_cons, hphrases, List.cons_append]⟩

/-! ### Writing enumerations -/

/-- The phrases behind the first one, with what stands before each. -/
def behindFirst (separator last : Text) : List Text → Text
  | [] => []
  | [p] => last ++ p
  | p :: ps => separator ++ (p ++ behindFirst separator last ps)

theorem intercalate_dropLast (separator last p : Text) {ps : List Text} (h : ps ≠ []) :
    separator.intercalate (p :: ps).dropLast ++ last ++ (p :: ps).getLastD [] =
      p ++ behindFirst separator last ps := by
  induction ps generalizing p with
  | nil => exact absurd rfl h
  | cons q ps ih =>
    cases ps with
    | nil => simp [behindFirst]
    | cons r ps =>
      have ih := ih q (by simp)
      have hdrop : (q :: r :: ps).dropLast ≠ [] := by simp
      have hlast : (p :: q :: r :: ps).getLastD [] = (q :: r :: ps).getLastD [] := by simp
      rw [List.dropLast_cons_of_ne_nil (by simp), List.intercalate_cons_of_ne_nil hdrop, hlast,
        List.append_assoc, List.append_assoc, List.append_assoc, ← List.append_assoc _ last, ih]
      rfl

theorem join_eq_behindFirst (p q r : Text) (ps : List Text) :
    join (p :: q :: r :: ps) = p ++ behindFirst [',', ' '] ", and ".toList (q :: r :: ps) :=
  intercalate_dropLast _ _ p (by simp)

theorem behindFirst_solid {separator last : Text} {ps : List Text} (hne : ps ≠ [])
    (h : ∀ p ∈ ps, p ≠ [] ∧ Text.EndsSolid p) :
    behindFirst separator last ps ≠ [] ∧ Text.EndsSolid (behindFirst separator last ps) := by
  induction ps with
  | nil => exact absurd rfl hne
  | cons p ps ih =>
    obtain ⟨hp, hend⟩ := h p List.mem_cons_self
    cases ps with
    | nil =>
      rw [behindFirst]
      exact ⟨by simp [hp], (Text.endsSolid_append hp).2 hend⟩
    | cons q ps =>
      obtain ⟨hrest, hrestend⟩ := ih (by simp) fun r hr => h r (List.mem_cons_of_mem _ hr)
      rw [behindFirst]
      · constructor
        · simp [hp]
        · rw [← List.append_assoc]
          exact (Text.endsSolid_append hrest).2 hrestend
      · simp

/-- An enumeration starts and ends as its phrases do. -/
theorem trim_join {ps : List Text} (hne : ps ≠ []) (h : ∀ p ∈ ps, p ≠ [] ∧ Text.trim p = p) :
    join ps ≠ [] ∧ Text.trim (join ps) = join ps := by
  have hsolid : ∀ p ∈ ps, p ≠ [] ∧ Text.EndsSolid p := by
    intro p hp
    obtain ⟨hne, htrim⟩ := h p hp
    exact ⟨hne, htrim ▸ Text.endsSolid_trim p⟩
  have hjoin {p x : Text} (hp : p ≠ []) (htrim : Text.trim p = p) (hx : x ≠ [])
      (hend : Text.EndsSolid x) : p ++ x ≠ [] ∧ Text.trim (p ++ x) = p ++ x := by
    have hstart : Text.NotStarting Text.isBlank p := htrim ▸ Text.notStarting_trim p
    constructor
    · simp [hp]
    · exact Text.trim_eq_self ((Text.notStarting_append hp).2 hstart)
        ((Text.endsSolid_append hx).2 hend)
  match ps with
  | [] => exact absurd rfl hne
  | [p] => exact h p List.mem_cons_self
  | [p, q] =>
    obtain ⟨hp, htrim⟩ := h p List.mem_cons_self
    obtain ⟨hq, hend⟩ := hsolid q (by simp)
    rw [join, List.append_assoc]
    exact hjoin hp htrim (by simp) ((Text.endsSolid_append hq).2 hend)
  | p :: q :: r :: ps =>
    obtain ⟨hp, htrim⟩ := h p List.mem_cons_self
    have hbehind : ∀ p' ∈ q :: r :: ps, p' ≠ [] ∧ Text.EndsSolid p' := by
      intro p' hp'
      exact hsolid p' (List.mem_cons_of_mem _ hp')
    obtain ⟨hx, hend⟩ := behindFirst_solid (by simp) hbehind
    rw [join_eq_behindFirst]
    exact hjoin hp htrim hx hend

end Scenery.Prose
