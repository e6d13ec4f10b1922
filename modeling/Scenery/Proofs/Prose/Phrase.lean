/-
  Scenery/Proofs/Prose/Phrase.lean
  ================================
  **The phrases of an enumeration.**  A phrase that an enumeration can be made of is one
  that `split` leaves alone (`IsPhrase`).  Between such phrases the connectors that
  `join` writes are cut out again, and nothing else; and what is cut off in front of a
  connecting word is such a phrase, too (`isPhrase_of_split_and`).
-/
import Scenery.Proofs.Prose.Enumeration

namespace Scenery.Prose

/-! ### Phrases -/

/-- A text that enumerations are made of: taking it apart leaves it as it is. -/
def IsPhrase (p : Text) : Prop := split p = [p]

instance (p : Text) : Decidable (IsPhrase p) := inferInstanceAs (Decidable (split p = [p]))

theorem length_le_of_mem_splitInner {t q : Text} (h : q ∈ splitInner t) :
    splitInner t = [t] ∨ q.length < t.length := by
  fun_induction splitInner t generalizing q with
  | case1 => exact .inl rfl
  | case2 c t rest hrest ih =>
    right
    have hc : Text.isBlank c := by
      by_cases hc : Text.isBlank c
      · exact hc
      · simp [hc] at hrest
    rw [dif_pos hc] at hrest
    have hlength := Text.length_dropWhile_le Text.isBlank t
    have hle := length_le_of_afterAnd? hrest
    rcases List.mem_cons.1 h with rfl | h
    · simp
    · have hq : q.length ≤ rest.length := by
        rcases ih h with hone | hlt
        · rw [hone, List.mem_singleton] at h
          exact Nat.le_of_eq (congrArg List.length h)
        · exact Nat.le_of_lt hlt
      simp only [Text.trimLeft, List.length_cons] at *
      omega
  | case3 c t hnone ih =>
    rcases hs : splitInner t with _ | ⟨p, ps⟩
    · exact absurd hs (splitInner_ne_nil t)
    rw [hs] at h ih
    rcases List.mem_cons.1 h with rfl | h
    · rcases ih List.mem_cons_self with hone | hlt
      · rw [hone]
        exact .inl rfl
      · exact .inr (by simpa using hlt)
    · rcases ih (List.mem_cons_of_mem _ h) with hone | hlt
      · obtain ⟨-, rfl⟩ := List.cons.inj hone
        cases h
      · exact .inr (by simp only [List.length_cons]; omega)

/-- A text starts with its first phrase, and the others stand in it. -/
theorem prefix_of_splitInner {t p : Text} {ps : List Text} (h : splitInner t = p :: ps) :
    p <+: t ∧ ∀ q ∈ ps, q <:+: t := by
  fun_induction splitInner t generalizing p ps with
  | case1 =>
    cases h
    exact ⟨List.prefix_rfl, by simp⟩
  | case2 c t rest hrest ih =>
    cases h
    have hc : Text.isBlank c := by
      by_cases hc : Text.isBlank c
      · exact hc
      · simp [hc] at hrest
    rw [dif_pos hc] at hrest
    obtain ⟨blanks, hword, -⟩ := afterAnd?_eq_some hrest
    have hsuffix : rest <:+ c :: t := by
      have hbehind : rest <:+ Text.trimLeft t := by
        rw [hword, ← List.append_assoc]
        exact List.suffix_append _ _
      exact (hbehind.trans (List.dropWhile_suffix _)).trans (List.suffix_cons c t)
    refine ⟨List.nil_prefix, ?_⟩
    intro q hq
    obtain ⟨p', ps', hsplit⟩ := List.exists_cons_of_ne_nil (splitInner_ne_nil rest)
    obtain ⟨hfirst, hothers⟩ := ih hsplit
    rw [hsplit] at hq
    rcases List.mem_cons.1 hq with rfl | hq
    · exact hfirst.isInfix.trans hsuffix.isInfix
    · exact (hothers q hq).trans hsuffix.isInfix
  | case3 c t hnone ih =>
    obtain ⟨p', ps', hsplit⟩ := List.exists_cons_of_ne_nil (splitInner_ne_nil t)
    obtain ⟨hfirst, hothers⟩ := ih hsplit
    rw [hsplit] at h
    cases h
    refine ⟨(List.prefix_cons_inj c).2 hfirst, ?_⟩
    intro q hq
    exact (hothers q hq).trans (List.suffix_cons c t).isInfix

theorem infix_of_mem_splitInner {t q : Text} (h : q ∈ splitInner t) : q <:+: t := by
  obtain ⟨p, ps, hsplit⟩ := List.exists_cons_of_ne_nil (splitInner_ne_nil t)
  obtain ⟨hfirst, hothers⟩ := prefix_of_splitInner hsplit
  rw [hsplit] at h
  rcases List.mem_cons.1 h with rfl | h
  · exact hfirst.isInfix
  · exact hothers q h

theorem infix_of_mem_splitAnd {t q : Text} (h : q ∈ splitAnd t) : q <:+: t := by
  unfold splitAnd at h
  split at h
  · next rest hrest =>
    obtain ⟨blanks, hword, -⟩ := afterAnd?_eq_some hrest
    rcases List.mem_cons.1 h with rfl | h
    · exact List.nil_infix
    · rw [hword, ← List.append_assoc]
      exact (infix_of_mem_splitInner h).trans (List.suffix_append _ _).isInfix
  · exact infix_of_mem_splitInner h

theorem isInfix_trim (t : Text) : Text.trim t <:+: t := by
  obtain ⟨a, b, -, -, ht⟩ := Text.exists_trim t
  refine ⟨a, b, ?_⟩
  rw [List.append_assoc]
  exact ht.symm

theorem exists_of_mem_phrases {t p : Text} (h : p ∈ phrases t) :
    ∃ q ∈ splitAnd t, Text.trim q = p ∧ p ≠ [] := by
  obtain ⟨q, hq, hp⟩ := List.mem_filterMap.1 h
  exact ⟨q, hq, Text.trimmed?_eq_some.1 hp⟩

/-- A text starts with its first piece, and the others stand in it. -/
theorem prefix_of_splitOn {a : Char} {t piece : Text} {pieces : List Text}
    (h : t.splitOn a = piece :: pieces) :
    (a ∉ piece ∧ piece <+: t) ∧ ∀ q ∈ pieces, a ∉ q ∧ q <:+: t := by
  induction t generalizing piece pieces with
  | nil =>
    rw [List.splitOn_nil] at h
    cases h
    simp
  | cons c t ih =>
    obtain ⟨p, ps, hps⟩ := List.exists_cons_of_ne_nil (List.splitOn_ne_nil a t)
    obtain ⟨⟨hmem, hfirst⟩, hothers⟩ := ih hps
    rw [List.splitOn_cons_eq_if_modifyHead, hps] at h
    by_cases hc : (c == a) = true
    · rw [if_pos hc] at h
      cases h
      refine ⟨⟨by simp, List.nil_prefix⟩, ?_⟩
      intro q hq
      rcases List.mem_cons.1 hq with rfl | hq
      · exact ⟨hmem, hfirst.isInfix.trans (List.suffix_cons c t).isInfix⟩
      · exact ⟨(hothers q hq).1, (hothers q hq).2.trans (List.suffix_cons c t).isInfix⟩
    · rw [if_neg hc] at h
      cases h
      refine ⟨⟨?_, (List.prefix_cons_inj c).2 hfirst⟩, ?_⟩
      · rw [List.mem_cons, not_or]
        exact ⟨fun hac => hc (by simp [hac]), hmem⟩
      · intro q hq
        exact ⟨(hothers q hq).1, (hothers q hq).2.trans (List.suffix_cons c t).isInfix⟩

theorem of_mem_splitOn {a : Char} {t piece : Text} (h : piece ∈ t.splitOn a) :
    a ∉ piece ∧ piece <:+: t := by
  obtain ⟨p, ps, hsplit⟩ := List.exists_cons_of_ne_nil (List.splitOn_ne_nil a t)
  obtain ⟨⟨hmem, hfirst⟩, hothers⟩ := prefix_of_splitOn hsplit
  rw [hsplit] at h
  rcases List.mem_cons.1 h with rfl | h
  · exact ⟨hmem, hfirst.isInfix⟩
  · exact hothers piece h

theorem of_mem_split {t p : Text} (h : p ∈ split t) :
    p ≠ [] ∧ ',' ∉ p ∧ p <:+: t ∧ Text.NotStarting Text.isBlank p ∧ Text.EndsSolid p := by
  rw [split_eq_flatMap] at h
  obtain ⟨piece, hpiece, hp⟩ := List.mem_flatMap.1 h
  obtain ⟨q, hq, rfl, hne⟩ := exists_of_mem_phrases hp
  have hsub : Text.trim q <:+: piece := (isInfix_trim q).trans (infix_of_mem_splitAnd hq)
  obtain ⟨hcomma, hpiece⟩ := of_mem_splitOn hpiece
  exact ⟨hne, fun hmem => hcomma (hsub.subset hmem), hsub.trans hpiece,
    Text.notStarting_trim q, Text.endsSolid_trim q⟩

/-- A phrase has no comma and no blank at its ends, does not start with a connecting
    word and has none inside. -/
theorem isPhrase_iff {p : Text} :
    IsPhrase p ↔ p ≠ [] ∧ ',' ∉ p ∧ Text.NotStarting Text.isBlank p ∧ Text.EndsSolid p ∧
      afterAnd? p = none ∧ splitInner p = [p] := by
  constructor
  · intro h
    have hmem : p ∈ split p := by
      rw [h]
      exact List.mem_singleton_self p
    obtain ⟨hne, hcomma, -, hstart, hend⟩ := of_mem_split hmem
    rw [split_of_not_mem hcomma] at hmem
    obtain ⟨q, hq, htrim, -⟩ := exists_of_mem_phrases hmem
    have hlength : p.length ≤ q.length := by
      rw [← htrim]
      exact Text.length_trim_le q
    have hand : afterAnd? p = none := by
      rcases hrest : afterAnd? p with _ | rest
      · rfl
      · exfalso
        -- every phrase behind the connecting word is shorter
        obtain ⟨blanks, hword, -⟩ := afterAnd?_eq_some hrest
        have hlt : rest.length < p.length := by
          rw [hword]
          simp only [andWord, List.length_append, List.length_cons, List.length_nil]
          omega
        rw [splitAnd, hrest] at hq
        rcases List.mem_cons.1 hq with rfl | hq
        · simp only [List.length_nil] at hlength
          omega
        · have := (infix_of_mem_splitInner hq).length_le
          omega
    refine ⟨hne, hcomma, hstart, hend, hand, ?_⟩
    rw [splitAnd, hand] at hq
    rcases length_le_of_mem_splitInner hq with hone | hlt
    · exact hone
    · omega
  · rintro ⟨hne, hcomma, hstart, hend, hand, hinner⟩
    have htrim : Text.trimmed? p = some p :=
      Text.trimmed?_eq_some.2 ⟨Text.trim_eq_self hstart hend, hne⟩
    rw [IsPhrase, split_of_not_mem hcomma, phrases, splitAnd, hand]
    simp [hinner, htrim]

/-! ### Connectors between phrases -/

theorem trimLeft_ne_nil {t : Text} (ht : t ≠ []) (hend : Text.EndsSolid t) :
    Text.trimLeft t ≠ [] := by
  intro hnil
  have hblank := Text.all_of_dropWhile_eq_nil hnil
  have hsolid := hend (t.getLast ht) (by rw [List.getLast?_eq_some_getLast ht]; rfl)
  rw [hblank _ (List.getLast_mem ht)] at hsolid
  cases hsolid

/-- No cut is made in a phrase, so none inside what follows its first character. -/
theorem of_splitInner_cons {c : Char} {t : Text} (h : splitInner (c :: t) = [c :: t]) :
    (Text.isBlank c → afterAnd? (Text.trimLeft t) = none) ∧ splitInner t = [t] := by
  have hnone : Text.isBlank c → afterAnd? (Text.trimLeft t) = none := by
    intro hc
    rcases hand : afterAnd? (Text.trimLeft t) with _ | rest
    · rfl
    · rw [splitInner_and hc hand] at h
      cases h
  rw [splitInner_char hnone] at h
  refine ⟨hnone, ?_⟩
  rcases hs : splitInner t with _ | ⟨p, ps⟩
  · exact absurd hs (splitInner_ne_nil t)
  · rw [hs] at h
    obtain ⟨hp, rfl⟩ := List.cons.inj h
    rw [(List.cons.inj hp).2]

/-- A connecting word with its blanks separates, if a phrase comes before it. -/
theorem splitInner_append_and {p : Text} (hp : p ≠ []) (hend : Text.EndsSolid p)
    (hinner : splitInner p = [p]) (t : Text) :
    splitInner (p ++ ' ' :: (andWord ++ ' ' :: t)) =
      p :: splitInner (Text.trimLeft (' ' :: t)) := by
  induction p with
  | nil => exact absurd rfl hp
  | cons c q ih =>
    obtain ⟨hnone, hq⟩ := of_splitInner_cons hinner
    by_cases hnil : q = []
    · subst hnil
      have hc : Text.isBlank c = false := (Text.endsSolid_concat (t := [])).1 hend
      have hand : afterAnd? (Text.trimLeft (andWord ++ ' ' :: t)) =
          some (Text.trimLeft (' ' :: t)) := by
        have hword : Text.NotStarting Text.isBlank (andWord ++ ' ' :: t) :=
          Text.notStarting_cons.2 (by decide)
        rw [Text.trimLeft_of_notStarting hword]
        exact afterAnd?_andWord ' ' (by decide) t
      rw [List.cons_append, List.nil_append, splitInner_char fun h => absurd h (by simp [hc]),
        splitInner_and (by decide) hand]
      rfl
    · have hqend : Text.EndsSolid q := by
        rw [← List.singleton_append] at hend
        exact (Text.endsSolid_append hnil).1 hend
      have htrim : Text.trimLeft (q ++ ' ' :: (andWord ++ ' ' :: t)) =
          Text.trimLeft q ++ ' ' :: (andWord ++ ' ' :: t) :=
        Text.trimLeft_append_of_ne_nil (trimLeft_ne_nil hnil hqend) _
      rw [List.cons_append, splitInner_char, ih hnil hqend hq]
      · rfl
      · intro hc
        rw [htrim]
        exact afterAnd?_append_eq_none (hnone hc) (trimLeft_ne_nil hnil hqend) (by decide) _

theorem split_andWord : split " and ".toList = [] := by
  rw [split_eq_nil_iff]
  decide

theorem comma_not_mem_and {p q : Text} (hp : ',' ∉ p) (hq : ',' ∉ q) :
    ',' ∉ p ++ " and ".toList ++ q := by
  simp only [List.mem_append, not_or]
  exact ⟨⟨hp, by decide⟩, hq⟩

theorem split_and_append {p : Text} (hstart : Text.NotStarting Text.isBlank p) (hcomma : ',' ∉ p) :
    split (" and ".toList ++ p) = (splitInner p).filterMap Text.trimmed? := by
  have h : ',' ∉ " and ".toList ++ p := by simpa using comma_not_mem_and (p := []) (by simp) hcomma
  have hand : afterAnd? (andWord ++ ' ' :: p) = some p := by
    rw [afterAnd?_andWord ' ' (by decide), Text.trimLeft, List.dropWhile_cons_of_pos (by decide),
      ← Text.trimLeft, Text.trimLeft_of_notStarting hstart]
  rw [split_of_not_mem h]
  show phrases (' ' :: (andWord ++ ' ' :: p)) = _
  rw [phrases_cons_blank (by decide), phrases, splitAnd, hand]
  rfl

/-- A phrase in front of a connecting word comes apart from what follows. -/
theorem split_append_and {p q : Text} (hp : IsPhrase p)
    (hstart : Text.NotStarting Text.isBlank q) (hcomma : ',' ∉ q) :
    split (p ++ " and ".toList ++ q) = p :: split (" and ".toList ++ q) := by
  obtain ⟨hne, hpcomma, hpstart, hend, hand, hinner⟩ := isPhrase_iff.1 hp
  have hnone : afterAnd? (p ++ ' ' :: (andWord ++ ' ' :: q)) = none :=
    afterAnd?_append_eq_none hand hne (by decide) _
  have htrim : Text.trimLeft (' ' :: q) = q := by
    rw [Text.trimLeft, List.dropWhile_cons_of_pos (by decide), ← Text.trimLeft,
      Text.trimLeft_of_notStarting hstart]
  rw [split_and_append hstart hcomma, split_of_not_mem (comma_not_mem_and hpcomma hcomma),
    List.append_assoc]
  show phrases (p ++ ' ' :: (andWord ++ ' ' :: q)) = _
  rw [phrases, splitAnd, hnone]
  simp only [splitInner_append_and hne hend hinner, htrim]
  rw [List.filterMap_cons_some (Text.trimmed?_eq_some.2 ⟨Text.trim_eq_self hpstart hend, hne⟩)]

/-! ### What stands before a connecting word -/

/-- A text goes on after its first piece with a blank, the connecting word and the other
    pieces. -/
theorem exists_of_splitInner {t p : Text} {ps : List Text} (h : splitInner t = p :: ps) :
    (t = p ∧ ps = []) ∨ ∃ c x rest, t = p ++ c :: x ∧ Text.isBlank c ∧
      afterAnd? (Text.trimLeft x) = some rest ∧ ps = splitInner rest := by
  fun_induction splitInner t generalizing p ps with
  | case1 =>
    cases h
    exact .inl ⟨rfl, rfl⟩
  | case2 c t rest hrest ih =>
    cases h
    have hc : Text.isBlank c := by
      by_cases hc : Text.isBlank c
      · exact hc
      · simp [hc] at hrest
    rw [dif_pos hc] at hrest
    exact .inr ⟨c, t, rest, rfl, hc, hrest, rfl⟩
  | case3 c t hnone ih =>
    obtain ⟨p', ps', hsplit⟩ := List.exists_cons_of_ne_nil (splitInner_ne_nil t)
    rw [hsplit] at h
    cases h
    rcases ih hsplit with ⟨rfl, rfl⟩ | ⟨d, x, rest, rfl, hd, hrest, rfl⟩
    · exact .inl ⟨rfl, rfl⟩
    · exact .inr ⟨d, x, rest, rfl, hd, hrest, rfl⟩

theorem exists_behind_first {t p : Text} {ps : List Text} (h : splitInner t = p :: ps) :
    ∃ x, t = p ++ x ∧ ∀ c ∈ x.head?, Text.isBlank c := by
  rcases exists_of_splitInner h with ⟨rfl, -⟩ | ⟨c, x, -, rfl, hc, -, -⟩
  · exact ⟨[], (List.append_nil t).symm, by simp⟩
  · exact ⟨c :: x, rfl, by simpa using hc⟩

theorem afterAnd?_append_ne_none {t : Text} (h : afterAnd? t ≠ none) {c : Char}
    (hc : Text.isBlank c) (x : Text) : afterAnd? (t ++ c :: x) ≠ none := by
  obtain ⟨rest, hrest⟩ := Option.ne_none_iff_exists'.1 h
  obtain ⟨blanks, rfl, hblanks, -, hnil⟩ := afterAnd?_eq_some hrest
  cases blanks with
  | nil =>
    rw [hnil rfl, List.nil_append, List.append_nil, afterAnd?_andWord c hc]
    exact Option.some_ne_none _
  | cons d blanks =>
    rw [List.append_assoc, List.cons_append, List.cons_append,
      afterAnd?_andWord d (hblanks d List.mem_cons_self)]
    exact Option.some_ne_none _

/-- No cut is made in the first piece. -/
theorem splitInner_first {t p : Text} {ps : List Text} (h : splitInner t = p :: ps) :
    splitInner p = [p] := by
  induction t generalizing p ps with
  | nil =>
    rw [splitInner_nil] at h
    cases h
    exact splitInner_nil
  | cons c t ih =>
    cases p with
    | nil => exact splitInner_nil
    | cons d p =>
      have hnone : Text.isBlank c → afterAnd? (Text.trimLeft t) = none := by
        intro hc
        rcases hand : afterAnd? (Text.trimLeft t) with _ | rest
        · rfl
        · rw [splitInner_and hc hand] at h
          cases h
      rw [splitInner_char hnone] at h
      obtain ⟨p', ps', hsplit⟩ := List.exists_cons_of_ne_nil (splitInner_ne_nil t)
      rw [hsplit] at h
      cases h
      rw [splitInner_char, ih hsplit]
      · rfl
      · intro hc
        rcases exists_of_splitInner hsplit with ⟨rfl, -⟩ | ⟨b, x, -, rfl, hb, -, -⟩
        · exact hnone hc
        · -- a word that the piece ends with would stand in the text too
          rcases hword : afterAnd? (Text.trimLeft p) with _ | rest
          · rfl
          · have hne : Text.trimLeft p ≠ [] := by
              intro hnil
              rw [hnil] at hword
              cases hword
            have htext := hnone hc
            rw [Text.trimLeft_append_of_ne_nil hne] at htext
            exact absurd htext (afterAnd?_append_ne_none (by simp [hword]) hb x)

/-- Where no cut is made in a text, none is made in what it ends with. -/
theorem splitInner_of_append {u v : Text} (h : splitInner (u ++ v) = [u ++ v]) :
    splitInner v = [v] := by
  induction u with
  | nil => exact h
  | cons c u ih => exact ih (of_splitInner_cons h).2

/-- The first piece of a text without blanks in front is the first phrase, perhaps with blanks
    behind it. -/
theorem exists_first_piece {t p : Text} {ps : List Text} (ht : t ≠ [])
    (hstart : Text.NotStarting Text.isBlank t)
    (h : (splitInner t).filterMap Text.trimmed? = p :: ps) :
    ∃ b ps', (∀ c ∈ b, Text.isBlank c) ∧ splitInner t = (p ++ b) :: ps' ∧
      ps'.filterMap Text.trimmed? = ps := by
  cases t with
  | nil => exact absurd rfl ht
  | cons c t =>
    have hc : Text.isBlank c = false := Text.notStarting_cons.1 hstart
    obtain ⟨q, ps', hq⟩ := consFirst_eq_cons c (splitInner t)
    rw [splitInner_char fun h => absurd h (by simp [hc]), hq] at h ⊢
    have hne := Text.trim_cons_ne_nil hc q
    rw [List.filterMap_cons_some (Text.trimmed?_eq_some.2 ⟨rfl, hne⟩)] at h
    obtain ⟨rfl, rfl⟩ := List.cons.inj h
    obtain ⟨a, b, ha, hb, htrim⟩ := Text.exists_trim (c :: q)
    cases a with
    | nil => exact ⟨b, ps', hb, by rw [← List.nil_append (Text.trim _ ++ b), ← htrim], rfl⟩
    | cons d a =>
      obtain ⟨rfl, -⟩ := List.cons.inj htrim
      rw [ha c List.mem_cons_self] at hc
      cases hc

/-- The first piece of a text ends before every connecting word with blanks around it. -/
theorem length_le_of_first_piece {u p q : Text} {ps : List Text}
    (h : splitInner (u ++ ' ' :: (andWord ++ ' ' :: q)) = p :: ps) : p.length ≤ u.length := by
  obtain ⟨x, htext, hx⟩ := exists_behind_first h
  rcases List.append_eq_append_iff.1 htext.symm with ⟨m, rfl, -⟩ | ⟨m, rfl, hm⟩
  · simp
  · rcases m with _ | ⟨d, w⟩
    · simp
    · exfalso
      obtain ⟨rfl, hbehind⟩ := List.cons.inj hm
      have huncut : splitInner (' ' :: w) = [' ' :: w] := splitInner_of_append (splitInner_first h)
      rcases List.append_eq_append_iff.1 hbehind with ⟨v, rfl, hv⟩ | ⟨v, hw, hv⟩
      · -- the word would stand in the piece
        have hand : afterAnd? (andWord ++ v) ≠ none := by
          cases v with
          | nil => simp [andWord, afterAnd?]
          | cons c v =>
            obtain ⟨rfl, -⟩ := List.cons.inj hv
            exact afterAnd?_append_ne_none (t := andWord) (by decide) (by decide) v
        obtain ⟨rest, hrest⟩ := Option.ne_none_iff_exists'.1 hand
        have hword : Text.NotStarting Text.isBlank (andWord ++ v) :=
          Text.notStarting_cons.2 (by decide)
        rw [← Text.trimLeft_of_notStarting hword] at hrest
        rw [splitInner_and (by decide) hrest] at huncut
        cases huncut
      · -- the piece would end inside the word
        cases v with
        | nil =>
          have hnothing : afterAnd? (Text.trimLeft andWord) = some [] := rfl
          rw [List.append_nil] at hw
          rw [← hw, splitInner_and (by decide) hnothing] at huncut
          cases huncut
        | cons c v =>
          have hc : Text.isBlank c := hx c (by rw [hv]; rfl)
          have hmem : c ∈ andWord := by simp [hw]
          simp only [andWord, List.mem_cons, List.not_mem_nil, or_false] at hmem
          rcases hmem with rfl | rfl | rfl <;> exact absurd hc (by decide)

/-- A phrase that starts with the connecting word that is dropped in front of it is that
    word. -/
theorem eq_andWord_of_afterAnd? {p q rest : Text} {ps : List Text} (hne : p ≠ [])
    (hend : Text.EndsSolid p)
    (hand : afterAnd? (p ++ ' ' :: (andWord ++ ' ' :: q)) = some rest)
    (h : (splitInner rest).filterMap Text.trimmed? = p :: ps) : p = andWord := by
  obtain ⟨blanks, hword, hblanks, hrest, -⟩ := afterAnd?_eq_some hand
  have hrestne : rest ≠ [] := by
    rintro rfl
    rw [splitInner_nil] at h
    cases h
  obtain ⟨b, ps', -, hsplit, -⟩ := exists_first_piece hrestne hrest h
  rcases List.append_eq_append_iff.1 hword with ⟨m, hm, hm'⟩ | ⟨m, rfl, hm⟩
  · cases m with
    | nil => rw [hm, List.append_nil]
    | cons c m =>
      obtain ⟨rfl, -⟩ := List.cons.inj hm'
      have hmem : ' ' ∈ andWord := by simp [hm]
      exact absurd hmem (by decide)
  · cases m with
    | nil => rw [List.append_nil]
    | cons c m =>
      exfalso
      -- behind its own connecting word too little is left of the phrase
      have hsolid : Text.EndsSolid (c :: m) := (Text.endsSolid_append (by simp)).1 hend
      have hrest' : rest = Text.trimLeft (c :: m) ++ ' ' :: (andWord ++ ' ' :: q) := by
        rw [← Text.trimLeft_append_of_ne_nil (trimLeft_ne_nil (by simp) hsolid), ← hm,
          Text.trimLeft_append hblanks, Text.trimLeft_of_notStarting hrest]
      rw [hrest'] at hsplit
      have hlength := length_le_of_first_piece hsplit
      have hle := Text.length_dropWhile_le Text.isBlank (c :: m)
      simp only [List.length_append, andWord, List.length_cons, Text.trimLeft] at hlength hle
      omega

/-- What stands before a connecting word and is read as the first phrase is a phrase, but
    for one case: of two connecting words the first is not taken for one. -/
theorem isPhrase_of_split_and {p q : Text} {ps : List Text} (hcomma : ',' ∉ q)
    (h : split (p ++ " and ".toList ++ q) = p :: ps) : IsPhrase p ∨ p = andWord := by
  have hmem : p ∈ split (p ++ " and ".toList ++ q) := by
    rw [h]
    exact List.mem_cons_self
  obtain ⟨hne, hp, -, hstart, hend⟩ := of_mem_split hmem
  rw [split_of_not_mem (comma_not_mem_and hp hcomma), List.append_assoc] at h
  change phrases (p ++ ' ' :: (andWord ++ ' ' :: q)) = p :: ps at h
  rw [phrases, splitAnd] at h
  rcases hand : afterAnd? (p ++ ' ' :: (andWord ++ ' ' :: q)) with _ | rest
  · left
    have hnone : afterAnd? p = none := by
      rcases hword : afterAnd? p with _ | rest
      · rfl
      · exact absurd hand (afterAnd?_append_ne_none (by simp [hword]) (by decide) _)
    simp only [hand] at h
    obtain ⟨b, ps', -, hsplit, -⟩ := exists_first_piece (by simp)
      ((Text.notStarting_append hne).2 hstart) h
    have hlength := length_le_of_first_piece hsplit
    have hnil : b = [] := by
      rw [← List.length_eq_zero_iff]
      simp only [List.length_append] at hlength
      omega
    subst hnil
    have hinner := splitInner_first hsplit
    rw [List.append_nil] at hinner
    exact isPhrase_iff.2 ⟨hne, hp, hstart, hend, hnone, hinner⟩
  · right
    simp only [hand] at h
    rw [List.filterMap_cons_none (by rfl)] at h
    exact eq_andWord_of_afterAnd? hne hend hand h

/-- Two connecting words are never the first of two phrases with another between them. -/
theorem split_andWord_and_ne {q : Text} (hcomma : ',' ∉ q) :
    split (andWord ++ " and ".toList ++ q) ≠ [andWord, q] := by
  intro h
  have hstart : Text.NotStarting Text.isBlank (andWord ++ ' ' :: q) :=
    Text.notStarting_cons.2 (by decide)
  have hand : afterAnd? (andWord ++ ' ' :: (andWord ++ ' ' :: q)) = some (andWord ++ ' ' :: q) := by
    rw [afterAnd?_andWord ' ' (by decide), Text.trimLeft, List.dropWhile_cons_of_pos (by decide),
      ← Text.trimLeft, Text.trimLeft_of_notStarting hstart]
  rw [split_of_not_mem (comma_not_mem_and (by decide) hcomma), List.append_assoc] at h
  change phrases (andWord ++ ' ' :: (andWord ++ ' ' :: q)) = [andWord, q] at h
  rw [phrases, splitAnd, hand] at h
  change (splitInner (andWord ++ ' ' :: q)).filterMap Text.trimmed? = [andWord, q] at h
  obtain ⟨b, ps', hb, hsplit, hps⟩ := exists_first_piece (by simp) hstart h
  obtain ⟨piece, hpiece, htrim⟩ := List.mem_filterMap.1
    (by rw [hps]; exact List.mem_singleton_self q : q ∈ ps'.filterMap Text.trimmed?)
  have hlength := Text.length_trim_le piece
  rw [(Text.trimmed?_eq_some.1 htrim).1] at hlength
  rcases exists_of_splitInner hsplit with ⟨-, rfl⟩ | ⟨c, x, rest, htext, -, hrest, rfl⟩
  · cases hpiece
  · have hle := (infix_of_mem_splitInner hpiece).length_le
    have hrestle := length_le_of_afterAnd? hrest
    have htrimle := Text.length_dropWhile_le Text.isBlank x
    have htextlength := congrArg List.length htext
    obtain ⟨blanks, hword, -⟩ := afterAnd?_eq_some hrest
    have hwordlength := congrArg List.length hword
    have hthree : andWord.length = 3 := rfl
    simp only [List.length_append, List.length_cons, Text.trimLeft, hthree] at *
    omega

/-! ### Words -/

theorem andWord_mem_words {t : Text} (h : afterAnd? t ≠ none) :
    andWord ∈ t.splitOnP Text.isBlank := by
  obtain ⟨rest, hrest⟩ := Option.ne_none_iff_exists'.1 h
  obtain ⟨blanks, rfl, hblanks, -, hnil⟩ := afterAnd?_eq_some hrest
  have hword : ∀ c ∈ andWord, Text.isBlank c = false := by
    intro c hc
    simp only [andWord, List.mem_cons, List.not_mem_nil, or_false] at hc
    rcases hc with rfl | rfl | rfl
    all_goals rfl
  cases blanks with
  | nil =>
    rw [hnil rfl, List.append_nil, List.append_nil, List.splitOnP_eq_singleton hword]
    exact List.mem_singleton_self _
  | cons c blanks =>
    rw [List.cons_append, List.splitOnP_append_cons_of_forall_mem hword c
      (hblanks c List.mem_cons_self)]
    exact List.mem_cons_self

theorem mem_words_of_trimLeft {word t : Text}
    (h : word ∈ (Text.trimLeft t).splitOnP Text.isBlank) : word ∈ t.splitOnP Text.isBlank := by
  induction t with
  | nil => exact h
  | cons c t ih =>
    by_cases hc : Text.isBlank c
    · rw [Text.trimLeft, List.dropWhile_cons_of_pos hc, ← Text.trimLeft] at h
      rw [List.splitOnP_cons_eq_if_modifyHead, if_pos hc]
      exact List.mem_cons_of_mem _ (ih h)
    · rwa [Text.trimLeft, List.dropWhile_cons_of_neg hc] at h

/-- A text without blanks at its ends, without commas and without the word `and` is a
    phrase. -/
theorem isPhrase_of_words {p : Text} (hne : p ≠ []) (htrim : Text.trim p = p) (hcomma : ',' ∉ p)
    (hword : andWord ∉ p.splitOnP Text.isBlank) : IsPhrase p := by
  have hstart : Text.NotStarting Text.isBlank p := htrim ▸ Text.notStarting_trim p
  have hend : Text.EndsSolid p := htrim ▸ Text.endsSolid_trim p
  have hnone : afterAnd? p = none := by
    rcases hand : afterAnd? p with _ | rest
    · rfl
    · exact absurd (andWord_mem_words (by simp [hand])) hword
  refine isPhrase_iff.2 ⟨hne, hcomma, hstart, hend, hnone, ?_⟩
  obtain ⟨q, qs, hsplit⟩ := List.exists_cons_of_ne_nil (splitInner_ne_nil p)
  rcases exists_of_splitInner hsplit with ⟨rfl, rfl⟩ | ⟨c, x, rest, rfl, hc, hrest, -⟩
  · exact hsplit
  · -- a cut takes the word out
    have hmem := mem_words_of_trimLeft (andWord_mem_words (t := Text.trimLeft x) (by simp [hrest]))
    rw [List.splitOnP_append_cons q x hc] at hword
    exact absurd (List.mem_append_right _ hmem) hword

end Scenery.Prose
