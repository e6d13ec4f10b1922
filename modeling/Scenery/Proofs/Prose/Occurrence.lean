/-
  Scenery/Proofs/Prose/Occurrence.lean
  ====================================
  **What it is to mention an item.**  One of the words for the item stands somewhere in
  the text, up to the case of letters, and on neither side a word character touches it
  (`Item.MentionedIn`).  Other occurrences of the word do not matter: only one of them
  has to stand free.

  As a search pattern that is the start of the text or a character that is not a word
  character, one of the words, and such a character or the end (`Item.mentionPattern?`).
  The characters around the word are taken up by the pattern, so it is not the same as a
  word between word boundaries: those would have to be between two characters of
  different kinds, and a word can itself start or end with a sign.
-/
import Scenery.Proofs.Prose.Copula
import Scenery.Prose.Mention

namespace Scenery

/-! ### Patterns -/

/-- A pattern to search a text for.  Letters stand for themselves, in either case. -/
inductive Pattern where
  | start
  | finish
  | nonWord
  | letter (c : Char)
  | empty
  | both (p q : Pattern)
  | either (p q : Pattern)

namespace Pattern

/-- A pattern takes up a piece of a text, between what is before it and what is behind. -/
inductive Takes : Pattern → Text → Text → Text → Prop
  | start {after : Text} : Takes .start [] [] after
  | finish {before : Text} : Takes .finish before [] []
  | nonWord {before after : Text} {c : Char} : Text.isWordChar c = false →
    Takes .nonWord before [c] after
  | letter {before after : Text} {a c : Char} : Text.fold a = Text.fold c →
    Takes (.letter a) before [c] after
  | empty {before after : Text} : Takes .empty before [] after
  | both {p q : Pattern} {before u v after : Text} : Takes p before u (v ++ after) →
    Takes q (before ++ u) v after → Takes (.both p q) before (u ++ v) after
  | left {p q : Pattern} {before u after : Text} : Takes p before u after →
    Takes (.either p q) before u after
  | right {p q : Pattern} {before u after : Text} : Takes q before u after →
    Takes (.either p q) before u after

/-- A pattern takes up some piece of a text. -/
def MatchesIn (p : Pattern) (t : Text) : Prop :=
  ∃ before piece after, t = before ++ (piece ++ after) ∧ p.Takes before piece after

/-- The characters of a word, one after the other. -/
def word (w : Text) : Pattern := w.foldr (fun c p => .both (.letter c) p) .empty

/-- The first of several patterns, or one of the others. -/
def oneOf (p : Pattern) (ps : List Pattern) : Pattern := ps.foldl .either p

end Pattern

/-! ### Mentions -/

namespace Text

/-- A word stands in a text, up to the case of letters, with no word character before it
    or behind it. -/
def StandsFree (word t : Text) : Prop :=
  ∃ before piece after, t = before ++ (piece ++ after) ∧ piece.map fold = word.map fold ∧
    (∀ c ∈ before.getLast?, isWordChar c = false) ∧ ∀ c ∈ after.head?, isWordChar c = false

end Text

namespace Item

/-- The name of an item or its plural phrase, without blanks around it and not blank,
    stands free in a text. -/
def MentionedIn (item : Item) (t : Text) : Prop :=
  ∃ phrase, (phrase = item.name ∨ item.plural = some phrase) ∧ Text.trim phrase ≠ [] ∧
    Text.StandsFree (Text.trim phrase) t

/-- The pattern of what mentions an item; an item without a word for it has none. -/
def mentionPattern? (item : Item) : Option Pattern :=
  match item.mentions with
  | [] => none
  | word :: words =>
    some (.both (.either .start .nonWord)
      (.both (.oneOf (.word word) (words.map .word)) (.either .nonWord .finish)))

end Item

/-! ### What patterns take up -/

namespace Pattern

variable {p q : Pattern} {ps : List Pattern} {before piece after : Text}

theorem takes_word {w : Text} :
    (word w).Takes before piece after ↔ piece.map Text.fold = w.map Text.fold := by
  induction w generalizing before piece with
  | nil =>
    rw [List.map_nil, List.map_eq_nil_iff]
    constructor
    · rintro ⟨⟩
      rfl
    · rintro rfl
      exact .empty
  | cons a w ih =>
    constructor
    · intro h
      cases h with
      | both hletter hrest =>
        cases hletter with
        | letter hfold =>
          rw [List.singleton_append, List.map_cons, List.map_cons, hfold, ih.1 hrest]
    · intro h
      obtain ⟨c, rest, rfl, hfold, hrest⟩ := List.map_eq_cons_iff.1 h
      exact .both (u := [c]) (.letter hfold.symm) (ih.2 hrest)

theorem takes_either :
    (either p q).Takes before piece after ↔
      p.Takes before piece after ∨ q.Takes before piece after := by
  constructor
  · intro h
    cases h with
    | left h => exact .inl h
    | right h => exact .inr h
  · rintro (h | h)
    · exact .left h
    · exact .right h

theorem takes_oneOf :
    (oneOf p ps).Takes before piece after ↔ ∃ q ∈ p :: ps, q.Takes before piece after := by
  induction ps generalizing p with
  | nil => simp [oneOf]
  | cons r ps ih =>
    rw [oneOf, List.foldl_cons, ← oneOf, ih]
    simp only [List.mem_cons, exists_eq_or_imp, takes_either, or_assoc]

/-- Between characters that are not taken up but are no word characters either, or the
    ends of the text, something is taken up. -/
theorem matchesIn_apart {t : Text} :
    (both (either start nonWord) (both p (either nonWord finish))).MatchesIn t ↔
      ∃ before piece after, t = before ++ (piece ++ after) ∧ p.Takes before piece after ∧
        (∀ c ∈ before.getLast?, Text.isWordChar c = false) ∧
        ∀ c ∈ after.head?, Text.isWordChar c = false := by
  constructor
  · rintro ⟨before, piece, after, rfl, h⟩
    cases h with
    | @both _ _ _ u v _ hbefore hrest =>
    cases hrest with
    | @both _ _ _ v w _ hpiece hbehind =>
    refine ⟨before ++ u, v, w ++ after, by simp, hpiece, ?_, ?_⟩
    · rcases takes_either.1 hbefore with hstart | hnon
      · cases hstart
        nofun
      · cases hnon with
        | nonWord hc =>
          rw [List.getLast?_append, List.getLast?_singleton, Option.some_or]
          rintro d ⟨⟩
          exact hc
    · rcases takes_either.1 hbehind with hnon | hfinish
      · cases hnon with
        | nonWord hc =>
          rintro d ⟨⟩
          exact hc
      · cases hfinish
        nofun
  · rintro ⟨before, piece, after, rfl, hpiece, hbefore, hafter⟩
    have hbehind : ∃ w rest, after = w ++ rest ∧
        (either nonWord finish).Takes (before ++ piece) w rest := by
      cases after with
      | nil => exact ⟨[], [], rfl, .right .finish⟩
      | cons c rest => exact ⟨[c], rest, rfl, .left (.nonWord (hafter c rfl))⟩
    obtain ⟨w, rest, rfl, hbehind⟩ := hbehind
    rcases List.eq_nil_or_concat before with rfl | ⟨first, c, rfl⟩
    · exact ⟨[], [] ++ (piece ++ w), rest, by simp,
        .both (.left .start) (.both hpiece hbehind)⟩
    · rw [List.concat_eq_append] at hbefore hpiece hbehind ⊢
      have hc : Text.isWordChar c = false := hbefore c (by simp)
      exact ⟨first, [c] ++ (piece ++ w), rest, by simp,
        .both (.right (.nonWord hc)) (.both hpiece hbehind)⟩

end Pattern

namespace Item

theorem mem_mentions_iff {item : Item} {word : Text} :
    word ∈ item.mentions ↔
      ∃ phrase, (phrase = item.name ∨ item.plural = some phrase) ∧ Text.trim phrase ≠ [] ∧
        Text.trim phrase = word := by
  have htrimmed (t : Text) : Text.trimmed? t = some word ↔
      Text.trim t ≠ [] ∧ Text.trim t = word := by
    simp only [Text.trimmed?, List.isEmpty_iff]
    by_cases h : Text.trim t = []
    · simp [h]
    · simp [h]
  rw [mentions, List.mem_filterMap]
  simp only [htrimmed, List.mem_filterMap, List.mem_cons, List.not_mem_nil, or_false, id]
  constructor
  · rintro ⟨phrase, ⟨_, hname | hplural, rfl⟩, hword⟩
    · exact ⟨phrase, .inl (Option.some.inj hname), hword⟩
    · exact ⟨phrase, .inr hplural.symm, hword⟩
  · rintro ⟨phrase, rfl | hplural, hword⟩
    · exact ⟨_, ⟨_, .inl rfl, rfl⟩, hword⟩
    · exact ⟨_, ⟨_, .inr hplural.symm, rfl⟩, hword⟩

/-- **The pattern of an item matches the texts that mention it.** -/
theorem mentionedIn_iff_matchesIn {item : Item} {t : Text} :
    item.MentionedIn t ↔ ∃ p, item.mentionPattern? = some p ∧ p.MatchesIn t := by
  have hmentions : item.MentionedIn t ↔ ∃ word ∈ item.mentions, Text.StandsFree word t := by
    constructor
    · rintro ⟨phrase, hphrase, hne, hfree⟩
      exact ⟨_, mem_mentions_iff.2 ⟨phrase, hphrase, hne, rfl⟩, hfree⟩
    · rintro ⟨word, hword, hfree⟩
      obtain ⟨phrase, hphrase, hne, rfl⟩ := mem_mentions_iff.1 hword
      exact ⟨phrase, hphrase, hne, hfree⟩
  rw [hmentions, mentionPattern?]
  rcases item.mentions with _ | ⟨word, words⟩
  · simp
  · simp only [Option.some.injEq, exists_eq_left', Pattern.matchesIn_apart, Pattern.takes_oneOf]
    constructor
    · rintro ⟨w, hw, before, piece, after, ht, hfold, hapart⟩
      refine ⟨before, piece, after, ht, ⟨.word w, ?_, Pattern.takes_word.2 hfold⟩, hapart⟩
      rw [← List.map_cons]
      exact List.mem_map_of_mem hw
    · rintro ⟨before, piece, after, ht, ⟨p, hp, htakes⟩, hapart⟩
      rw [← List.map_cons] at hp
      obtain ⟨w, hw, rfl⟩ := List.mem_map.1 hp
      exact ⟨w, hw, before, piece, after, ht, Pattern.takes_word.1 htakes, hapart⟩

end Item

/-! ### How mentions are found -/

namespace Text

end Text

namespace Prose

variable {word t : Text} {apart : Bool}

end Prose

end Scenery
