/-
  Scenery/Proofs/Condition/Pieces.lean
  ====================================
  **How conditions are written.**  An expression is a path, an operator and a literal with
  blanks before, between and behind them (`Condition.Pieces`).  What each of the three can
  look like is said here without the readers, and in no order: an operator is one of eight
  spellings, a literal is a text in quotes, a numeral or a word.

  The readers take what comes first as far as it goes.  That is right because what can
  follow a part never continues it: no path goes on with a blank or an operator, no operator
  with a blank or a literal, and no literal with a blank.  So an expression is read exactly
  if it is so written (`Condition.read_eq_ok_iff`), and it can be cut up in one way only
  (`Condition.Pieces.eq_of_says`).
-/
import Scenery.Condition.Reading
import Scenery.Proofs.Number.Numeral
import Scenery.Proofs.Path

namespace Scenery

/-! ### Operators -/

/-- An operator and one of its spellings. -/
inductive Operator.Spells : Operator → Text → Prop
  | eq : Spells .eq ['=', '=']
  | same : Spells .eq ['=', '=', '=']
  | ne : Spells .ne ['!', '=']
  | notSame : Spells .ne ['!', '=', '=']
  | ge : Spells .ge ['>', '=']
  | le : Spells .le ['<', '=']
  | gt : Spells .gt ['>']
  | lt : Spells .lt ['<']

namespace Condition

theorem spells_of_readOperator? {t rest : Text} {op : Operator}
    (h : readOperator? t = some (op, rest)) : ∃ w, op.Spells w ∧ t = w ++ rest := by
  unfold readOperator? at h
  split at h
  all_goals cases h
  · exact ⟨_, .same, rfl⟩
  · exact ⟨_, .notSame, rfl⟩
  · exact ⟨_, .eq, rfl⟩
  · exact ⟨_, .ne, rfl⟩
  · exact ⟨_, .ge, rfl⟩
  · exact ⟨_, .le, rfl⟩
  · exact ⟨_, .gt, rfl⟩
  · exact ⟨_, .lt, rfl⟩

/-- Only a `=` could make an operator longer. -/
theorem readOperator?_spells {op : Operator} {w rest : Text} (h : op.Spells w)
    (hrest : Text.NotStarting (· == '=') rest) : readOperator? (w ++ rest) = some (op, rest) := by
  rcases rest with _ | ⟨c, t⟩
  · cases h <;> rfl
  · have hc : c ≠ '=' := by simpa using hrest
    cases h <;> simp [readOperator?, hc]

/-! ### Literals -/

/-- A literal and what it stands for. -/
inductive Denotes : Text → Value → Prop
  | single {t : Text} : '\'' ∉ t → Denotes ('\'' :: (t ++ ['\''])) (.text t)
  | double {t : Text} : '"' ∉ t → Denotes ('"' :: (t ++ ['"'])) (.text t)
  | number {t : Text} {n : Number} : Decimal.IsPlain t → Number.read? t = some n →
      Denotes t (.number n)
  | yes : Denotes ['t', 'r', 'u', 'e'] (.boolean true)
  | no : Denotes ['f', 'a', 'l', 's', 'e'] (.boolean false)

/-- What comes next does not continue a literal. -/
def EndsLiteral (rest : Text) : Prop :=
  ∀ c ∈ rest.head?, Path.isIdentPart c = false ∧ c ≠ '.'

theorem readString?_quoted {q : Char} (hq : q = '"' ∨ q = '\'') {t : Text} (ht : q ∉ t)
    (rest : Text) : readString? (q :: (t ++ q :: rest)) = some (t, rest) := by
  rw [readString?, if_pos hq, Text.dropWhile_until ht, Text.takeWhile_until ht]

theorem quoted_of_readString? {t s rest : Text} (h : readString? t = some (s, rest)) :
    ∃ q, (q = '"' ∨ q = '\'') ∧ q ∉ s ∧ t = q :: (s ++ q :: rest) := by
  rcases t with _ | ⟨q, t⟩
  · cases h
  rw [readString?] at h
  split at h
  · next hq =>
    rcases hdrop : t.dropWhile (· != q) with _ | ⟨c, u⟩
    · simp [hdrop] at h
    · simp only [hdrop, Option.some.injEq, Prod.mk.injEq] at h
      obtain ⟨rfl, rfl⟩ := h
      have hc : c = q := by
        have hstart := Text.notStarting_dropWhile (· != q) t
        rw [hdrop, Text.notStarting_cons] at hstart
        simpa using hstart
      refine ⟨q, hq, ?_, ?_⟩
      · intro hmem
        have hne := Text.all_of_mem_takeWhile q hmem
        simp at hne
      · have hsplit := (List.takeWhile_append_dropWhile (p := (· != q)) (l := t)).symm
        rw [hdrop, hc] at hsplit
        rw [← hsplit]
  · cases h

theorem readString?_eq_none {c : Char} (hdouble : c ≠ '"') (hsingle : c ≠ '\'') (t : Text) :
    readString? (c :: t) = none := by
  simp [readString?, hdouble, hsingle]

section Numbers

open Decimal

variable {negative : Bool} {whole fraction : Text}

theorem readMinus_append (h : AreDigits whole fraction) (rest : Text) :
    readMinus ((if negative then ['-'] else []) ++ (whole ++ rest)) =
      (negative, whole ++ rest) := by
  cases negative with
  | true => rfl
  | false =>
    obtain ⟨c, t, rfl, hc⟩ := h.exists_cons
    have hminus : c ≠ '-' := ne_of_isDigit hc rfl
    simp [readMinus, hminus]

theorem isIdentPart_of_isDigit {c : Char} (h : c.isDigit) : Path.isIdentPart c := by
  simp [Path.isIdentPart, Char.isAlphanum, h]

theorem readNumber?_written (h : AreDigits whole fraction) {rest : Text}
    (hrest : EndsLiteral rest) :
    readNumber? (written negative whole fraction ++ rest) =
      some (ofDigits negative whole fraction, rest) := by
  have hdigit : Text.NotStarting Char.isDigit rest := by
    intro c hc
    rw [← Bool.not_eq_true]
    intro hdigit
    have hnone := (hrest c hc).1
    rw [isIdentPart_of_isDigit hdigit] at hnone
    cases hnone
  rw [readNumber?, written, List.append_assoc, List.append_assoc, readMinus_append h]
  by_cases hfraction : fraction = []
  · subst hfraction
    simp only [if_true, List.nil_append, Text.takeWhile_run h.whole hdigit,
      Text.dropWhile_run h.whole hdigit, if_neg h.whole_ne_nil]
    rcases rest with _ | ⟨c, t⟩
    · simp [ofDigits]
    · have hpoint : c ≠ '.' := (hrest c rfl).2
      simp [hpoint, ofDigits]
  · have hpoint : Text.NotStarting Char.isDigit ('.' :: (fraction ++ rest)) := by simp
    simp [hfraction, Text.takeWhile_run h.whole hpoint, Text.dropWhile_run h.whole hpoint,
      Text.takeWhile_run h.fraction hdigit, Text.dropWhile_run h.fraction hdigit,
      h.whole_ne_nil, ofDigits]

theorem written_of_readNumber? {t rest : Text} {d : Decimal}
    (h : readNumber? t = some (d, rest)) :
    ∃ negative whole fraction, AreDigits whole fraction ∧
      d = ofDigits negative whole fraction ∧ t = written negative whole fraction ++ rest := by
  obtain ⟨negative, u, hminus, ht⟩ : ∃ negative u, readMinus t = (negative, u) ∧
      t = (if negative then ['-'] else []) ++ u := by
    unfold readMinus
    split
    · next u => exact ⟨true, u, rfl, rfl⟩
    · exact ⟨false, t, rfl, rfl⟩
  have hsplit : u.takeWhile Char.isDigit ++ u.dropWhile Char.isDigit = u :=
    List.takeWhile_append_dropWhile
  simp only [readNumber?, hminus] at h
  split at h
  · cases h
  next hwhole =>
  refine ⟨negative, u.takeWhile Char.isDigit, ?_⟩
  -- a point is one of the numeral only if digits follow it
  have hplain (hd : (⟨negative, Text.digitsValue (u.takeWhile Char.isDigit), 0⟩ : Decimal) = d)
      (hr : u.dropWhile Char.isDigit = rest) :
      ∃ fraction, AreDigits (u.takeWhile Char.isDigit) fraction ∧
        d = ofDigits negative (u.takeWhile Char.isDigit) fraction ∧
        t = written negative (u.takeWhile Char.isDigit) fraction ++ rest := by
    refine ⟨[], ⟨hwhole, Text.all_of_mem_takeWhile, by simp⟩, ?_, ?_⟩
    · simp [← hd, ofDigits]
    · rw [ht, ← hr]
      simp [written, hsplit]
  split at h
  · next r hpoint =>
    split at h
    · simp only [Option.some.injEq, Prod.mk.injEq] at h
      exact hplain h.1 h.2
    · next hfraction =>
      simp only [Option.some.injEq, Prod.mk.injEq] at h
      obtain ⟨rfl, rfl⟩ := h
      refine ⟨r.takeWhile Char.isDigit,
        ⟨hwhole, Text.all_of_mem_takeWhile, Text.all_of_mem_takeWhile⟩, rfl, ?_⟩
      have hu : u = u.takeWhile Char.isDigit ++
          '.' :: (r.takeWhile Char.isDigit ++ r.dropWhile Char.isDigit) := by
        rw [List.takeWhile_append_dropWhile, ← hpoint, hsplit]
      rw [ht, written, if_neg hfraction, List.append_assoc, List.append_assoc, List.cons_append,
        ← hu]
  · simp only [Option.some.injEq, Prod.mk.injEq] at h
    exact hplain h.1 h.2

end Numbers

theorem readBoolean?_word {rest : Text} (hrest : EndsLiteral rest) :
    readBoolean? (['t', 'r', 'u', 'e'] ++ rest) = some (true, rest) ∧
      readBoolean? (['f', 'a', 'l', 's', 'e'] ++ rest) = some (false, rest) := by
  have hends : endsWord rest = true := by
    rcases rest with _ | ⟨c, t⟩
    · rfl
    · simp [endsWord, (hrest c rfl).1]
  simp [readBoolean?, hends]

theorem word_of_readBoolean? {t rest : Text} {b : Bool} (h : readBoolean? t = some (b, rest)) :
    ∃ w, Denotes w (.boolean b) ∧ t = w ++ rest := by
  unfold readBoolean? at h
  split at h
  · split at h
    · cases h
      exact ⟨_, .yes, rfl⟩
    · cases h
  · split at h
    · cases h
      exact ⟨_, .no, rfl⟩
    · cases h
  · cases h

/-- A literal is read as what it stands for. -/
theorem readLiteral?_denotes {l rest : Text} {v : Value} (h : Denotes l v)
    (hrest : EndsLiteral rest) : readLiteral? (l ++ rest) = some (v, rest) := by
  cases h with
  | single ht =>
    have hstring := readString?_quoted (.inr rfl) ht rest
    simp [readLiteral?, hstring]
  | double ht =>
    have hstring := readString?_quoted (.inl rfl) ht rest
    simp [readLiteral?, hstring]
  | number hplain hread =>
    obtain ⟨negative, whole, fraction, hdigits, rfl⟩ := hplain
    rw [Number.read?_written hdigits, Option.some.injEq] at hread
    have hstring : readString? (Decimal.written negative whole fraction ++ rest) = none := by
      cases negative with
      | true => exact readString?_eq_none (by decide) (by decide) _
      | false =>
        obtain ⟨c, t, rfl, hc⟩ := hdigits.exists_cons
        exact readString?_eq_none (Decimal.ne_of_isDigit hc rfl) (Decimal.ne_of_isDigit hc rfl) _
    simp [readLiteral?, hstring, readNumber?_written hdigits hrest, hread]
  | yes =>
    have hboolean := (readBoolean?_word hrest).1
    simp only [List.cons_append, List.nil_append] at hboolean
    simp [readLiteral?, readString?, readNumber?, readMinus, hboolean]
  | no =>
    have hboolean := (readBoolean?_word hrest).2
    simp only [List.cons_append, List.nil_append] at hboolean
    simp [readLiteral?, readString?, readNumber?, readMinus, hboolean]

theorem denotes_of_readLiteral? {t rest : Text} {v : Value}
    (h : readLiteral? t = some (v, rest)) : ∃ l, Denotes l v ∧ t = l ++ rest := by
  unfold readLiteral? at h
  split at h
  · next s r hstring =>
    cases h
    obtain ⟨q, rfl | rfl, hs, rfl⟩ := quoted_of_readString? hstring
    · exact ⟨_, .double hs, by simp⟩
    · exact ⟨_, .single hs, by simp⟩
  · split at h
    · next d r hnumber =>
      cases h
      obtain ⟨negative, whole, fraction, hdigits, rfl, ht⟩ := written_of_readNumber? hnumber
      refine ⟨_, .number ⟨negative, whole, fraction, hdigits, rfl⟩ ?_, ht⟩
      exact Number.read?_written hdigits
    · split at h
      · next b r hboolean =>
        cases h
        exact word_of_readBoolean? hboolean
      · cases h

/-! ### Whole expressions -/

/-- The pieces of an expression in turn. -/
@[ext]
structure Pieces where
  before : Text
  path : Text
  between : Text
  operator : Text
  behind : Text
  literal : Text
  after : Text

namespace Pieces

/-- The expression that has these pieces. -/
def text (w : Pieces) : Text :=
  w.before ++ (w.path ++ (w.between ++ (w.operator ++ (w.behind ++ (w.literal ++ w.after)))))

/-- The pieces are blanks and the parts of a condition. -/
structure Says (w : Pieces) (c : Condition) : Prop where
  before : ∀ b ∈ w.before, isGap b
  path : Path.Dotted w.path
  between : ∀ b ∈ w.between, isGap b
  operator : c.operator.Spells w.operator
  behind : ∀ b ∈ w.behind, isGap b
  literal : Denotes w.literal c.literal
  after : ∀ b ∈ w.after, isGap b
  path_eq : c.path = w.path

end Pieces

/-! #### What can follow a part -/

theorem skipGap_append {gap t : Text} (hgap : ∀ b ∈ gap, isGap b)
    (ht : Text.NotStarting isGap t) : skipGap (gap ++ t) = t := Text.dropWhile_run hgap ht

theorem exists_gap (t : Text) : ∃ gap, (∀ b ∈ gap, isGap b) ∧ t = gap ++ skipGap t :=
  Text.exists_run isGap t

theorem of_isGap {b : Char} (h : isGap b) :
    Path.isIdentPart b = false ∧ b ≠ '.' ∧ b ≠ '=' := by
  simp only [isGap, Bool.or_eq_true, beq_iff_eq] at h
  rcases h with ((rfl | rfl) | rfl) | rfl <;> decide

/-- Behind blanks comes a blank, or what comes behind them. -/
theorem head?_gap {gap t : Text} (hgap : ∀ b ∈ gap, isGap b) {c : Char}
    (hc : c ∈ (gap ++ t).head?) : isGap c = true ∨ c ∈ t.head? := by
  cases gap with
  | nil => exact .inr hc
  | cons b gap =>
    left
    rw [List.cons_append, List.head?_cons, Option.mem_some] at hc
    rw [← hc]
    exact hgap b List.mem_cons_self

/-- An operator begins with one of four characters. -/
theorem head?_spells {op : Operator} {w : Text} (h : op.Spells w) {rest : Text} {c : Char}
    (hc : c ∈ (w ++ rest).head?) : isGap c = false ∧ Path.isIdentPart c = false ∧ c ≠ '.' := by
  cases h <;> (cases hc; decide)

theorem head?_dotted {p : Text} (h : Path.Dotted p) {rest : Text} {c : Char}
    (hc : c ∈ (p ++ rest).head?) : isGap c = false := by
  obtain ⟨d, s, rfl, hd, -⟩ := Path.dotted_iff.1 h
  rw [List.cons_append, List.head?_cons, Option.mem_some] at hc
  subst hc
  rw [← Bool.not_eq_true]
  intro hgap
  simp only [isGap, Bool.or_eq_true, beq_iff_eq] at hgap
  rcases hgap with ((rfl | rfl) | rfl) | rfl <;> revert hd <;> decide

theorem head?_denotes {l : Text} {v : Value} (h : Denotes l v) {rest : Text} {c : Char}
    (hc : c ∈ (l ++ rest).head?) : isGap c = false ∧ c ≠ '=' := by
  cases h with
  | single | double | yes | no =>
    cases hc
    decide
  | number hplain =>
    obtain ⟨negative, whole, fraction, hdigits, rfl⟩ := hplain
    cases negative with
    | true =>
      cases hc
      decide
    | false =>
      obtain ⟨d, s, rfl, hd⟩ := hdigits.exists_cons
      cases hc
      refine ⟨?_, Decimal.ne_of_isDigit hd rfl⟩
      rw [← Bool.not_eq_true]
      intro hgap
      simp only [isGap, Bool.or_eq_true, beq_iff_eq] at hgap
      rcases hgap with ((rfl | rfl) | rfl) | rfl <;> revert hd <;> decide

/-! #### Reading the pieces -/

namespace Pieces

variable {w w' : Pieces} {c c' : Condition}

/-- What is left behind the operator. -/
def afterOperator (w : Pieces) : Text := w.behind ++ (w.literal ++ w.after)

/-- What is left behind the path. -/
def afterPath (w : Pieces) : Text := w.between ++ (w.operator ++ w.afterOperator)

theorem text_eq (w : Pieces) : w.text = w.before ++ (w.path ++ w.afterPath) := rfl

namespace Says

theorem skipGap_text (h : w.Says c) : skipGap w.text = w.path ++ w.afterPath := by
  apply skipGap_append h.before
  intro b hb
  exact head?_dotted h.path hb

theorem readPath? (h : w.Says c) :
    Path.readPath? (w.path ++ w.afterPath) = some (w.path, w.afterPath) := by
  have hnext : ∀ b ∈ w.afterPath.head?, Path.isIdentPart b = false ∧ b ≠ '.' := by
    intro b hb
    rcases head?_gap h.between hb with hgap | hoperator
    · exact ⟨(of_isGap hgap).1, (of_isGap hgap).2.1⟩
    · exact (head?_spells h.operator hoperator).2
  refine Path.readPath?_eq_some_iff.2 ⟨rfl, h.path, ?_, ?_⟩
  · intro b hb
    exact (hnext b hb).1
  · intro b t heq
    have hpoint : '.' ∈ w.afterPath.head? := by
      rw [heq]
      rfl
    exact absurd rfl (hnext '.' hpoint).2

theorem skipGap_afterPath (h : w.Says c) : skipGap w.afterPath = w.operator ++ w.afterOperator := by
  apply skipGap_append h.between
  intro b hb
  exact (head?_spells h.operator hb).1

theorem readOperator? (h : w.Says c) :
    Condition.readOperator? (w.operator ++ w.afterOperator) =
      some (c.operator, w.afterOperator) := by
  apply readOperator?_spells h.operator
  intro b hb
  rw [beq_eq_false_iff_ne]
  rcases head?_gap h.behind hb with hgap | hliteral
  · exact (of_isGap hgap).2.2
  · exact (head?_denotes h.literal hliteral).2

theorem skipGap_afterOperator (h : w.Says c) :
    skipGap w.afterOperator = w.literal ++ w.after := by
  apply skipGap_append h.behind
  intro b hb
  exact (head?_denotes h.literal hb).1

theorem readLiteral? (h : w.Says c) :
    Condition.readLiteral? (w.literal ++ w.after) = some (c.literal, w.after) := by
  apply readLiteral?_denotes h.literal
  intro b hb
  have hgap := h.after b (List.mem_of_mem_head? hb)
  exact ⟨(of_isGap hgap).1, (of_isGap hgap).2.1⟩

theorem skipGap_after (h : w.Says c) : skipGap w.after = [] := List.dropWhile_eq_nil_iff.2 h.after

theorem read_text (h : w.Says c) : read w.text = .ok c := by
  calc read w.text
      = .ok ⟨w.path, c.operator, c.literal⟩ := by
        simp only [read, h.skipGap_text, h.readPath?, h.skipGap_afterPath, h.readOperator?,
          h.skipGap_afterOperator, h.readLiteral?, h.skipGap_after]
    _ = .ok c := by rw [← h.path_eq]

/-- Blanks in front are what is skipped. -/
theorem before_eq (h : w.Says c) (h' : w'.Says c') (htext : w.text = w'.text) :
    w.before = w'.before ∧ w.path ++ w.afterPath = w'.path ++ w'.afterPath := by
  have hrest : w.path ++ w.afterPath = w'.path ++ w'.afterPath := by
    rw [← h.skipGap_text, ← h'.skipGap_text, htext]
  rw [text_eq, text_eq, hrest] at htext
  exact ⟨List.append_cancel_right htext, hrest⟩

end Says

/-- **An expression can be cut up in one way.** -/
theorem eq_of_says (h : w.Says c) (h' : w'.Says c') (htext : w.text = w'.text) :
    w = w' ∧ c = c' := by
  have hc : c = c' := by
    have hread := h.read_text
    rw [htext, h'.read_text, Except.ok.injEq] at hread
    exact hread.symm
  obtain ⟨hbefore, hpaths⟩ := h.before_eq h' htext
  have hafterPath : w.afterPath = w'.afterPath := by
    have hread := h.readPath?
    rw [hpaths, h'.readPath?, Option.some.injEq, Prod.mk.injEq] at hread
    exact hread.2.symm
  have hoperators : w.operator ++ w.afterOperator = w'.operator ++ w'.afterOperator := by
    rw [← h.skipGap_afterPath, ← h'.skipGap_afterPath, hafterPath]
  have hafterOperator : w.afterOperator = w'.afterOperator := by
    have hread := h.readOperator?
    rw [hoperators, h'.readOperator?, Option.some.injEq, Prod.mk.injEq] at hread
    exact hread.2.symm
  have hliterals : w.literal ++ w.after = w'.literal ++ w'.after := by
    rw [← h.skipGap_afterOperator, ← h'.skipGap_afterOperator, hafterOperator]
  have hafter : w.after = w'.after := by
    have hread := h.readLiteral?
    rw [hliterals, h'.readLiteral?, Option.some.injEq, Prod.mk.injEq] at hread
    exact hread.2.symm
  -- a piece is what comes before a rest that is the same
  have hcut {a a' b b' : Text} (happend : a ++ b = a' ++ b') (hrest : b = b') : a = a' := by
    rw [hrest] at happend
    exact List.append_cancel_right happend
  refine ⟨?_, hc⟩
  apply Pieces.ext
  · exact hbefore
  · exact hcut hpaths hafterPath
  · exact hcut hafterPath hoperators
  · exact hcut hoperators hafterOperator
  · exact hcut hafterOperator hliterals
  · exact hcut hliterals hafter
  · exact hafter

end Pieces

/-- **An expression is read exactly if it is written as a condition is.** -/
theorem read_eq_ok_iff {expr : Text} {c : Condition} :
    read expr = .ok c ↔ ∃ w : Pieces, w.text = expr ∧ w.Says c := by
  constructor
  · intro h
    obtain ⟨before, hbefore, hexpr⟩ := exists_gap expr
    rcases hpath : Path.readPath? (skipGap expr) with _ | ⟨path, t⟩
    · simp [read, hpath] at h
    obtain ⟨hpathText, hdotted, -⟩ := Path.readPath?_eq_some_iff.1 hpath
    obtain ⟨between, hbetween, ht⟩ := exists_gap t
    rcases hoperator : readOperator? (skipGap t) with _ | ⟨operator, u⟩
    · simp [read, hpath, hoperator] at h
    obtain ⟨spelling, hspells, hoperatorText⟩ := spells_of_readOperator? hoperator
    obtain ⟨behind, hbehind, hu⟩ := exists_gap u
    rcases hliteral : readLiteral? (skipGap u) with _ | ⟨literal, v⟩
    · simp [read, hpath, hoperator, hliteral] at h
    obtain ⟨l, hdenotes, hliteralText⟩ := denotes_of_readLiteral? hliteral
    rcases hafter : skipGap v with _ | ⟨b, rest⟩
    · simp only [read, hpath, hoperator, hliteral, hafter, Except.ok.injEq] at h
      subst h
      refine ⟨⟨before, path, between, spelling, behind, l, v⟩, ?_, ?_⟩
      · rw [Pieces.text, ← hliteralText, ← hu, ← hoperatorText, ← ht, ← hpathText, ← hexpr]
      · exact ⟨hbefore, hdotted, hbetween, hspells, hbehind, hdenotes,
          List.dropWhile_eq_nil_iff.1 hafter, rfl⟩
    · simp [read, hpath, hoperator, hliteral, hafter] at h
  · rintro ⟨w, rfl, hw⟩
    exact hw.read_text

end Condition

end Scenery
