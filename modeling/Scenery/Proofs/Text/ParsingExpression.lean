/-
  Scenery/Proofs/Text/ParsingExpression.lean
  ==========================================
  **Parsing expressions** describe texts by what is tried in which order: one expression
  and then another, or another where the first one fails, and repetition as long as it
  goes.  What has been taken is not given back.  Rules name expressions, and a match of an
  expression is a record of the rules that took part in it (`Match`).

  Between the parts of an expression there may be blanks, unless the rule that it belongs
  to says otherwise, and a rule can keep what is inside of it out of the record.
-/
import Scenery.Proofs.Text.Runs

namespace Scenery

/-- What a rule changes for what is inside of it. -/
inductive RuleKind where
  | plain
  /-- No blanks are skipped. -/
  | compound
  /-- No blanks are skipped, and nothing is recorded. -/
  | atomic
  deriving DecidableEq, Repr

/-- An expression over the rules `R`. -/
inductive Peg (R : Type) where
  | start
  | finish
  | one (p : Char → Bool)
  | word (w : Text)
  | both (a b : Peg R)
  | either (a b : Peg R)
  | many (a : Peg R)
  | without (a : Peg R)
  | rule (name : R) (kind : RuleKind) (body : Peg R)

/-- The text that a rule has matched, and the matches of the rules inside of it. -/
inductive Match (R : Type) where
  | mk (rule : R) (text : Text) (inner : List (Match R))

namespace Match

variable {R : Type}

def rule : Match R → R
  | mk rule _ _ => rule

def text : Match R → Text
  | mk _ text _ => text

def inner : Match R → List (Match R)
  | mk _ _ inner => inner

end Match

namespace Peg

variable {R : Type}

/-- An expression or nothing. -/
def optional (a : Peg R) : Peg R := either a (word [])

/-- An expression once or more often. -/
def repeated (a : Peg R) : Peg R := both a (many a)

/-- Takes steps until one fails.  One that takes nothing would go on for ever, so it is
    the last. -/
def rounds (step : Text → Option (List (Match R) × Text)) (t : Text) : List (Match R) × Text :=
  match step t with
  | none => ([], t)
  | some (found, rest) =>
    if rest.length < t.length then
      let (more, last) := rounds step rest
      (found ++ more, last)
    else (found, rest)
termination_by t.length

section Run

variable (gap : Char → Bool) (size : Nat)

/-- Skips the blanks that may stand here. -/
def skip (spaced : Bool) (t : Text) : Text := if spaced then t.dropWhile gap else t

/-- Runs an expression on what is left of a text of some size: the matches that are recorded,
    and what is left then. -/
def run (spaced recorded : Bool) : Peg R → Text → Option (List (Match R) × Text)
  | start, t => if t.length = size then some ([], t) else none
  | finish, t => if t = [] then some ([], t) else none
  | one p, t =>
    match t with
    | [] => none
    | c :: rest => if p c then some ([], rest) else none
  | word w, t => if w.isPrefixOf t then some ([], t.drop w.length) else none
  | both a b, t =>
    match run spaced recorded a t with
    | none => none
    | some (found, rest) =>
      match run spaced recorded b (skip gap spaced rest) with
      | none => none
      | some (more, rest) => some (found ++ more, rest)
  | either a b, t =>
    match run spaced recorded a t with
    | none => run spaced recorded b t
    | some found => some found
  | many a, t =>
    match run spaced recorded a t with
    | none => some ([], t)
    | some (found, rest) =>
      let (more, last) := rounds (fun t => run spaced recorded a (skip gap spaced t)) rest
      some (found ++ more, last)
  | without a, t =>
    match run spaced recorded a t with
    | none => some ([], t)
    | some _ => none
  | rule name kind body, t =>
    match run (spaced && kind == .plain) (recorded && kind != .atomic) body t with
    | none => none
    | some (inner, rest) =>
      if recorded then some ([.mk name (t.take (t.length - rest.length)) inner], rest)
      else some (inner, rest)

end Run

/-! ### Runs where no blanks are skipped -/

section Unspaced

-- makes the equations of `run` here, and not in each of the proofs that need them first
attribute [local simp] run

variable {gap : Char → Bool} {size : Nat} {recorded : Bool}

theorem skip_false (t : Text) : skip gap false t = t := rfl

theorem run_both (a b : Peg R) {t rest : Text} {found : List (Match R)}
    (h : run gap size false recorded a t = some (found, rest)) :
    run gap size false recorded (both a b) t =
      (run gap size false recorded b rest).map fun (more, last) => (found ++ more, last) := by
  rw [run, h]
  simp only [skip_false]
  rcases run gap size false recorded b rest with _ | ⟨more, last⟩ <;> rfl

theorem run_both_none (a b : Peg R) {spaced : Bool} {t : Text}
    (h : run gap size spaced recorded a t = none) :
    run gap size spaced recorded (both a b) t = none := by
  rw [run, h]

theorem run_either_none (a b : Peg R) {spaced : Bool} {t : Text}
    (h : run gap size spaced recorded a t = none) :
    run gap size spaced recorded (either a b) t = run gap size spaced recorded b t := by
  rw [run, h]

theorem run_either_some (a b : Peg R) {spaced : Bool} {t : Text} {found : List (Match R) × Text}
    (h : run gap size spaced recorded a t = some found) :
    run gap size spaced recorded (either a b) t = some found := by
  rw [run, h]

theorem run_word_append (w rest : Text) (spaced : Bool) :
    run gap size spaced recorded (word w : Peg R) (w ++ rest) = some ([], rest) := by
  simp [run]

theorem run_word_none {w t : Text} (h : ¬w <+: t) (spaced : Bool) :
    run gap size spaced recorded (word w : Peg R) t = none := by
  simp [run, h]

/-- A text of which no rest is behind a word does not start with it. -/
theorem not_starts (w : Text) {t : Text} (h : ∀ rest, ¬t = w ++ rest) : ¬w <+: t := by
  rintro ⟨rest, rfl⟩
  exact h rest rfl

theorem run_either_word (w : Text) (b : Peg R) (spaced : Bool) (t : Text) :
    run gap size spaced recorded (either (word w) b) t =
      if w <+: t then some ([], t.drop w.length) else run gap size spaced recorded b t := by
  by_cases h : w <+: t
  · obtain ⟨rest, rfl⟩ := h
    rw [run_either_some _ b (run_word_append w rest spaced), if_pos (List.prefix_append w rest),
      List.drop_left]
  · rw [run_either_none _ b (run_word_none h spaced), if_neg h]

theorem run_optional (a : Peg R) (spaced : Bool) (t : Text) :
    run gap size spaced recorded (optional a) t =
      some ((run gap size spaced recorded a t).getD ([], t)) := by
  rw [optional, run]
  rcases run gap size spaced recorded a t with _ | found
  · exact run_word_append [] t spaced
  · rfl

theorem run_without (a : Peg R) {t : Text} :
    run gap size false recorded (without a) t =
      if (run gap size false recorded a t).isNone then some ([], t) else none := by
  rw [run]
  rcases run gap size false recorded a t with _ | found <;> rfl

/-- Between the parts of an expression with blanks, all blanks are skipped. -/
theorem run_both_spaced (a b : Peg R) {t rest : Text} {found : List (Match R)}
    (h : run gap size true recorded a t = some (found, rest)) :
    run gap size true recorded (both a b) t =
      (run gap size true recorded b (rest.dropWhile gap)).map
        fun (more, last) => (found ++ more, last) := by
  rw [run, h]
  simp only [skip, if_true]
  rcases run gap size true recorded b (rest.dropWhile gap) with _ | ⟨more, last⟩ <;> rfl

theorem rounds_none {step : Text → Option (List (Match R) × Text)} {t : Text}
    (h : step t = none) : rounds step t = ([], t) := by
  rw [rounds, h]

theorem rounds_some {step : Text → Option (List (Match R) × Text)} {t rest : Text}
    (h : step t = some ([], rest)) (hlength : rest.length < t.length) :
    rounds step t = rounds step rest := by
  rw [rounds, h]
  simp [hlength]

/-- An expression that never succeeds without taking something is run round by round. -/
theorem run_many {a : Peg R} (h : ∀ t found rest,
      run gap size false recorded a t = some (found, rest) → rest.length < t.length) (t : Text) :
    run gap size false recorded (many a) t =
      some (rounds (run gap size false recorded a) t) := by
  rw [run]
  rcases hstep : run gap size false recorded a t with _ | ⟨found, rest⟩
  · rw [rounds_none hstep]
  · have hlt := h t found rest hstep
    rw [rounds, hstep]
    simp only [if_pos hlt, skip_false]

/-! ### Single characters -/

/-- The expression takes one character of a class. -/
structure Takes (gap : Char → Bool) (size : Nat) (recorded : Bool) (a : Peg R)
    (p : Char → Bool) : Prop where
  nil : run gap size false recorded a [] = none
  cons : ∀ c t, run gap size false recorded a (c :: t) = if p c then some ([], t) else none

variable {a : Peg R} {p : Char → Bool}

theorem takes_one (p : Char → Bool) : Takes gap size recorded (one p : Peg R) p where
  nil := rfl
  cons := by
    intro c t
    rw [run]

theorem takes_word (k : Char) : Takes gap size recorded (word [k] : Peg R) (· == k) where
  nil := rfl
  cons := by
    intro c t
    by_cases hk : k = c
    · simp [run, hk]
    · simp [run, hk, Ne.symm hk]

theorem takes_either (p : Char → Bool) (k : Char) :
    Takes gap size recorded (either (one p) (word [k]) : Peg R) (fun c => p c || c == k) where
  nil := rfl
  cons := by
    intro c t
    by_cases hp : p c
    · simp [run, hp]
    · by_cases hk : k = c
      · simp [run, hp, hk]
      · simp [run, hp, hk, Ne.symm hk]

theorem takes_without (q : Char) :
    Takes gap size recorded (both (without (word [q])) (one fun _ => true) : Peg R)
      (· != q) where
  nil := rfl
  cons := by
    intro c t
    by_cases hq : q = c
    · simp [run, hq]
    · simp [run, hq, Ne.symm hq, skip_false]

theorem Takes.cons_pos (h : Takes gap size recorded a p) {c : Char} (hc : p c) (t : Text) :
    run gap size false recorded a (c :: t) = some ([], t) := by
  rw [h.cons, if_pos hc]

theorem Takes.cons_neg (h : Takes gap size recorded a p) {c : Char} (hc : ¬p c) (t : Text) :
    run gap size false recorded a (c :: t) = none := by
  rw [h.cons, if_neg hc]

theorem Takes.progress (h : Takes gap size recorded a p) (t : Text) (found : List (Match R))
    (rest : Text) (hrun : run gap size false recorded a t = some (found, rest)) :
    rest.length < t.length := by
  cases t with
  | nil =>
    rw [h.nil] at hrun
    cases hrun
  | cons c t =>
    rw [h.cons] at hrun
    split at hrun
    · cases hrun
      simp
    · cases hrun

/-- Repeated, it takes the longest run of such characters. -/
theorem Takes.run_many (h : Takes gap size recorded a p) (t : Text) :
    run gap size false recorded (many a) t = some ([], t.dropWhile p) := by
  rw [Peg.run_many h.progress]
  congr
  induction t with
  | nil => exact rounds_none h.nil
  | cons c t ih =>
    by_cases hc : p c
    · rw [rounds_some (h.cons_pos hc t) (by simp), ih, List.dropWhile_cons_of_pos hc]
    · rw [rounds_none (h.cons_neg hc t), List.dropWhile_cons_of_neg hc]

/-- At least once, it needs one. -/
theorem Takes.run_repeated (h : Takes gap size recorded a p) (t : Text) :
    run gap size false recorded (repeated a) t =
      if t.takeWhile p = [] then none else some ([], t.dropWhile p) := by
  cases t with
  | nil => exact run_both_none a _ h.nil
  | cons c t =>
    by_cases hc : p c
    · rw [repeated, run_both a _ (h.cons_pos hc t), h.run_many]
      simp [hc]
    · rw [repeated, run_both_none a _ (h.cons_neg hc t)]
      simp [hc]

end Unspaced

/-! ### Rules -/

section Rules

variable {gap : Char → Bool} {size : Nat} {spaced : Bool} {name : R} {kind : RuleKind}
  {body : Peg R}

/-- What is on record of a rule is the text that its expression has taken. -/
theorem run_rule {t taken rest : Text} {inner : List (Match R)} (ht : t = taken ++ rest)
    (h : run gap size (spaced && kind == .plain) (kind != .atomic) body t = some (inner, rest)) :
    run gap size spaced true (rule name kind body) t = some ([.mk name taken inner], rest) := by
  subst ht
  rw [run, Bool.true_and, h]
  simp

theorem run_rule_none {t : Text}
    (h : run gap size (spaced && kind == .plain) (kind != .atomic) body t = none) :
    run gap size spaced true (rule name kind body) t = none := by
  rw [run, Bool.true_and, h]

end Rules

end Peg

end Scenery
