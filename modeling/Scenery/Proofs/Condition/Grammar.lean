/-
  Scenery/Proofs/Condition/Grammar.lean
  =====================================
  **The grammar of conditions**, as a parsing expression with a rule for each part, and what
  is made of a match.  A match is a record of rules, and what is made of it looks for its
  parts and can find that one of them is not there (`Grammar.Fault`).

  Each rule takes what the reader of its part reads, and fails where that fails, so both
  come to the same condition (`Grammar.outcome_eq`): a match always has its parts, and a
  numeral in it is one.  The main statement is `Condition.read_accepts_grammar`.
-/
import Scenery.Proofs.Condition.Pieces
import Scenery.Proofs.Text.ParsingExpression

namespace Scenery

/-- The operator with a spelling. -/
def Operator.ofSymbol? : Text → Option Operator
  | ['=', '='] | ['=', '=', '='] => some .eq
  | ['!', '='] | ['!', '=', '='] => some .ne
  | ['>'] => some .gt
  | ['>', '='] => some .ge
  | ['<'] => some .lt
  | ['<', '='] => some .le
  | _ => none

theorem Operator.Spells.ofSymbol? {op : Operator} {w : Text} (h : op.Spells w) :
    Operator.ofSymbol? w = some op := by
  cases h <;> rfl

namespace Condition

namespace Grammar

open Peg

/-- The rules of the grammar. -/
inductive Rule where
  | condition
  | path
  | operator
  | string
  | quoted
  | number
  | boolean
  | ending
  deriving DecidableEq, Repr

def ident : Peg Rule :=
  both (either (one Char.isAlpha) (word ['_'])) (many (either (one Char.isAlphanum) (word ['_'])))

def segment : Peg Rule := both (word ['.']) ident

def path : Peg Rule := rule .path .atomic (both ident (many segment))

/-- The longest spellings come first, so that `===` is not taken for `==`. -/
def operator : Peg Rule :=
  rule .operator .plain
    (either (word ['=', '=', '=']) <| either (word ['!', '=', '=']) <| either (word ['=', '=']) <|
      either (word ['!', '=']) <| either (word ['>', '=']) <| either (word ['<', '=']) <|
      either (word ['>']) (word ['<']))

def quoted (q : Char) : Peg Rule :=
  rule .quoted .atomic (many (both (without (word [q])) (one fun _ => true)))

def inQuotes (q : Char) : Peg Rule := both (word [q]) (both (quoted q) (word [q]))

def string : Peg Rule := rule .string .compound (either (inQuotes '"') (inQuotes '\''))

def digits : Peg Rule := repeated (one Char.isDigit)

def number : Peg Rule :=
  rule .number .atomic
    (both (optional (word ['-'])) (both digits (optional (both (word ['.']) digits))))

def boolean : Peg Rule :=
  rule .boolean .atomic
    (both (either (word ['t', 'r', 'u', 'e']) (word ['f', 'a', 'l', 's', 'e']))
      (without (either (one Char.isAlphanum) (word ['_']))))

def literal : Peg Rule := either string (either number boolean)

def ending : Peg Rule := rule .ending .plain finish

def parts : Peg Rule := both path (both operator (both literal ending))

def condition : Peg Rule := rule .condition .plain (both start parts)

/-- What can be missing in the record of a match. -/
inductive Missing where
  | condition
  | path
  | operator
  | literal
  | literalKind
  deriving DecidableEq, Repr

/-- Why an expression comes to no condition: the grammar does not match it, the record of a
    match lacks a part, or a numeral in it is none. -/
inductive Fault where
  | unmatched
  | shape (missing : Missing)
  | invalidNumber (t : Text)
  deriving DecidableEq, Repr

/-- The value of a literal. -/
def valueOf (m : Match Rule) : Except Fault Value :=
  match m.rule with
  | .string => .ok (.text ((m.inner.head?.map Match.text).getD []))
  | .number =>
    match Number.read? m.text with
    | some n => .ok (.number n)
    | none => .error (.invalidNumber m.text)
  | .boolean => .ok (.boolean (m.text == ['t', 'r', 'u', 'e']))
  | _ => .error (.shape .literalKind)

/-- The condition that a match of its parts comes to. -/
def ofParts (parts : List (Match Rule)) : Except Fault Condition :=
  match parts with
  | [] => .error (.shape .path)
  | path :: parts =>
    match parts.head?.bind fun m => Operator.ofSymbol? m.text with
    | none => .error (.shape .operator)
    | some operator =>
      match parts.tail with
      | [] => .error (.shape .literal)
      | literal :: _ => (valueOf literal).map fun v => ⟨path.text, operator, v⟩

/-- Reads an expression by the grammar. -/
def outcome (expr : Text) : Except Fault Condition :=
  match run isGap expr.length true true condition expr with
  | none => .error .unmatched
  | some ([], _) => .error (.shape .condition)
  | some (m :: _, _) => ofParts m.inner

/-! ### Rules and readers -/

section Rules

variable {size : Nat} {recorded : Bool}

/-- An expression takes what a reader reads, with one match on record that shows what has
    been read, and fails where that fails. -/
def Records {α : Type} (size : Nat) (e : Peg Rule) (read : Text → Option (α × Text))
    (Shows : α → Match Rule → Prop) : Prop :=
  ∀ t, (read t = none → run isGap size true true e t = none) ∧
    ∀ a rest, read t = some (a, rest) →
      ∃ m, Shows a m ∧ run isGap size true true e t = some ([m], rest)

/-- A rule with nothing on record inside of it. -/
theorem records_rule {α : Type} {name : Rule} {kind : RuleKind} {body : Peg Rule}
    {read : Text → Option (α × Text)} {Shows : α → Match Rule → Prop}
    (hrun : ∀ t, run isGap size (kind == .plain) (kind != .atomic) body t =
      (read t).map fun (_, rest) => ([], rest))
    (hshows : ∀ t a rest, read t = some (a, rest) →
      ∃ taken, t = taken ++ rest ∧ Shows a (.mk name taken [])) :
    Records size (rule name kind body) read Shows := by
  intro t
  have hbody := hrun t
  rw [← Bool.true_and (kind == .plain)] at hbody
  constructor
  · intro hnone
    rw [hnone] at hbody
    exact run_rule_none hbody
  · intro a rest hsome
    obtain ⟨taken, ht, ha⟩ := hshows t a rest hsome
    rw [hsome] at hbody
    exact ⟨.mk name taken [], ha, run_rule ht hbody⟩

/-! #### Paths -/

theorem takes_part : Takes isGap size recorded
    (either (one Char.isAlphanum) (word ['_']) : Peg Rule) Path.isIdentPart :=
  takes_either Char.isAlphanum '_'

theorem takes_start : Takes isGap size recorded
    (either (one Char.isAlpha) (word ['_']) : Peg Rule) Path.isIdentStart :=
  takes_either Char.isAlpha '_'

theorem run_ident (c : Char) (t : Text) :
    run isGap size false recorded ident (c :: t) =
      if Path.isIdentStart c then some ([], t.dropWhile Path.isIdentPart) else none := by
  by_cases hc : Path.isIdentStart c
  · rw [ident, run_both _ _ (takes_start.cons_pos hc t), takes_part.run_many, if_pos hc]
    rfl
  · rw [ident, run_both_none _ _ (takes_start.cons_neg hc t), if_neg hc]

theorem run_ident_nil : run isGap size false recorded ident [] = none := by
  rw [ident]
  exact run_both_none _ _ takes_start.nil

theorem run_segment_point (t : Text) :
    run isGap size false recorded segment ('.' :: t) = run isGap size false recorded ident t := by
  rw [segment, run_both _ _ ((takes_word '.').cons_pos rfl t)]
  rcases run isGap size false recorded ident t with _ | ⟨found, rest⟩ <;> rfl

theorem run_segment_ne {c : Char} (hc : c ≠ '.') (t : Text) :
    run isGap size false recorded segment (c :: t) = none := by
  apply run_both_none
  exact (takes_word '.').cons_neg (by simpa using hc) t

theorem run_segment_cons (c d : Char) (t : Text) :
    run isGap size false recorded segment (c :: d :: t) =
      if c = '.' ∧ Path.isIdentStart d then some ([], t.dropWhile Path.isIdentPart) else none := by
  by_cases hc : c = '.'
  · subst hc
    rw [run_segment_point, run_ident]
    simp
  · rw [run_segment_ne hc, if_neg (fun h => hc h.1)]

theorem run_segment_single (c : Char) :
    run isGap size false recorded segment [c] = none := by
  by_cases hc : c = '.'
  · subst hc
    rw [run_segment_point, run_ident_nil]
  · exact run_segment_ne hc []

theorem run_segment_nil : run isGap size false recorded segment [] = none := rfl

theorem progress_segment (t : Text) (found : List (Match Rule)) (rest : Text)
    (h : run isGap size false recorded segment t = some (found, rest)) :
    rest.length < t.length := by
  rcases t with _ | ⟨c, _ | ⟨d, t⟩⟩
  · rw [run_segment_nil] at h
    cases h
  · rw [run_segment_single] at h
    cases h
  · rw [run_segment_cons] at h
    split at h
    · cases h
      have := Text.length_dropWhile_le Path.isIdentPart t
      simp only [List.length_cons]
      omega
    · cases h

/-- Segments are taken as far as the tail of a path goes. -/
theorem rounds_segment (t : Text) :
    rounds (run isGap size false recorded segment) (t.dropWhile Path.isIdentPart) =
      ([], (Path.readTail t).2) := by
  fun_induction Path.readTail t with
  | case1 => exact rounds_none run_segment_nil
  | case2 c hc =>
    rw [List.dropWhile_cons_of_pos hc]
    exact rounds_none run_segment_nil
  | case3 c hc =>
    rw [List.dropWhile_cons_of_neg hc]
    exact rounds_none (run_segment_single c)
  | case4 c d t hc path rest hread ih =>
    rw [List.dropWhile_cons_of_pos hc, ih, hread]
  | case5 c d t hc hpoint path rest hread ih =>
    rw [hread] at ih
    have hstep : run isGap size false recorded segment (c :: d :: t) =
        some ([], t.dropWhile Path.isIdentPart) := by
      rw [run_segment_cons, if_pos hpoint]
    rw [List.dropWhile_cons_of_neg hc,
      rounds_some hstep (progress_segment _ _ _ hstep), ih]
  | case6 c d t hc hpoint =>
    rw [List.dropWhile_cons_of_neg hc]
    exact rounds_none (by rw [run_segment_cons, if_neg hpoint])

theorem records_path : Records size path Path.readPath? fun p m => m.text = p := by
  apply records_rule
  · intro t
    change run isGap size false false _ t = _
    rcases t with _ | ⟨c, t⟩
    · rw [run_both_none _ _ run_ident_nil]
      rfl
    by_cases hc : Path.isIdentStart c
    · rw [run_both _ _ (by rw [run_ident, if_pos hc]), run_many progress_segment, rounds_segment]
      simp [Path.readPath?, hc]
    · rw [run_both_none _ _ (by rw [run_ident, if_neg hc])]
      simp [Path.readPath?, hc]
  · intro t p rest hsome
    exact ⟨p, (Path.append_of_readPath? hsome).symm, rfl⟩

/-! #### Operators -/

/-- The longest spelling comes first here and there. -/
theorem records_operator : Records size operator readOperator? fun op m => op.Spells m.text := by
  apply records_rule
  · intro t
    simp only [run_either_word]
    fun_cases readOperator? t with
    | case3 t ht | case4 t ht | case7 t ht | case8 t ht =>
      simp [run, not_starts ['='] ht]
    | case9 t hsame hnotSame heq hne hge hle hgt hlt =>
      simp [run, not_starts ['=', '=', '='] hsame, not_starts ['!', '=', '='] hnotSame,
        not_starts ['=', '='] heq, not_starts ['!', '='] hne, not_starts ['>', '='] hge,
        not_starts ['<', '='] hle, not_starts ['>'] hgt, not_starts ['<'] hlt]
    | _ => simp
  · intro t op rest hsome
    obtain ⟨w, hw, ht⟩ := spells_of_readOperator? hsome
    exact ⟨w, ht, hw⟩

/-! #### Literals -/

theorem run_quoted (q : Char) (t : Text) :
    run isGap size false true (quoted q) t =
      some ([.mk .quoted (t.takeWhile (· != q)) []], t.dropWhile (· != q)) := by
  apply run_rule List.takeWhile_append_dropWhile.symm
  exact (takes_without q).run_many t

/-- From quote to quote. -/
theorem run_inQuotes (q : Char) (t : Text) :
    run isGap size false true (inQuotes q) (q :: t) =
      match t.dropWhile (· != q) with
      | [] => none
      | _ :: rest => some ([.mk .quoted (t.takeWhile (· != q)) []], rest) := by
  rw [inQuotes, run_both _ _ ((takes_word q).cons_pos (beq_self_eq_true q) t),
    run_both _ _ (run_quoted q t)]
  rcases hdrop : t.dropWhile (· != q) with _ | ⟨c, rest⟩
  · rfl
  · have hstart := Text.notStarting_dropWhile (· != q) t
    rw [hdrop, Text.notStarting_cons] at hstart
    have hc : (c == q) = true := by simpa using hstart
    rw [(takes_word q).cons_pos hc]
    rfl

theorem run_inQuotes_ne {q c : Char} (hc : c ≠ q) (t : Text) :
    run isGap size false true (inQuotes q) (c :: t) = none := by
  apply run_both_none
  exact (takes_word q).cons_neg (by simpa using hc) t

theorem run_string (t : Text) :
    run isGap size false true (either (inQuotes '"') (inQuotes '\'')) t =
      (readString? t).map fun (s, rest) => ([.mk .quoted s []], rest) := by
  rcases t with _ | ⟨c, t⟩
  · rfl
  by_cases hdouble : c = '"'
  · subst hdouble
    have hsingle : run isGap size false true (inQuotes '\'') ('"' :: t) = none :=
      run_inQuotes_ne (by decide) t
    rw [readString?, if_pos (.inl rfl)]
    rcases hdrop : t.dropWhile (· != '"') with _ | ⟨d, rest⟩
    · rw [run_either_none _ _ (by rw [run_inQuotes, hdrop]), hsingle]
      rfl
    · rw [run_either_some _ _ (by rw [run_inQuotes, hdrop])]
      rfl
  rw [run_either_none _ _ (run_inQuotes_ne hdouble t)]
  by_cases hsingle : c = '\''
  · subst hsingle
    rw [run_inQuotes, readString?, if_pos (.inr rfl)]
    rcases t.dropWhile (· != '\'') with _ | ⟨d, rest⟩ <;> rfl
  · rw [run_inQuotes_ne hsingle, readString?_eq_none hdouble hsingle]
    rfl

theorem records_string :
    Records size string readString? fun s m => valueOf m = .ok (.text s) := by
  intro t
  have hrun : run isGap size false true _ t = _ := run_string t
  constructor
  · intro hnone
    rw [hnone] at hrun
    exact run_rule_none hrun
  · intro s rest hsome
    obtain ⟨q, -, -, ht⟩ := quoted_of_readString? hsome
    have htaken : t = (q :: (s ++ [q])) ++ rest := by simp [ht]
    rw [hsome] at hrun
    exact ⟨.mk .string _ [.mk .quoted s []], rfl, run_rule htaken hrun⟩

theorem run_minus (t : Text) :
    run isGap size false recorded (optional (word ['-']) : Peg Rule) t =
      some ([], (readMinus t).2) := by
  rw [run_optional]
  unfold readMinus
  split
  · next u =>
    rw [(takes_word '-').cons_pos rfl]
    rfl
  · next hminus =>
    rw [run_word_none (not_starts ['-'] hminus)]
    rfl

theorem run_digits (t : Text) :
    run isGap size false recorded digits t =
      if t.takeWhile Char.isDigit = [] then none else some ([], t.dropWhile Char.isDigit) :=
  (takes_one Char.isDigit).run_repeated t

/-- A point without digits behind it is left. -/
theorem run_fraction (t : Text) :
    run isGap size false recorded (optional (both (word ['.']) digits)) t =
      some ([], match t with
        | '.' :: r => if r.takeWhile Char.isDigit = [] then t else r.dropWhile Char.isDigit
        | _ => t) := by
  rw [run_optional]
  split
  · next r =>
    rw [run_both _ _ ((takes_word '.').cons_pos rfl r), run_digits]
    split <;> rfl
  · next hpoint =>
    rw [run_both_none _ _ (run_word_none (not_starts ['.'] hpoint) false)]
    rfl

theorem records_number :
    Records size number readNumber? fun d m => valueOf m = .ok (.number d.toNumber) := by
  apply records_rule
  · intro t
    change run isGap size false false _ t = _
    rw [run_both _ _ (run_minus t)]
    generalize hminus : readMinus t = minus
    obtain ⟨negative, u⟩ := minus
    simp only [readNumber?, hminus]
    by_cases hwhole : u.takeWhile Char.isDigit = []
    · rw [run_both_none _ _ (by rw [run_digits, if_pos hwhole]), if_pos hwhole]
      rfl
    · rw [run_both _ _ (by rw [run_digits, if_neg hwhole]), run_fraction, if_neg hwhole]
      rcases u.dropWhile Char.isDigit with _ | ⟨c, r⟩
      · rfl
      by_cases hpoint : c = '.'
      · subst hpoint
        by_cases hfraction : r.takeWhile Char.isDigit = [] <;> simp [hfraction]
      · simp [hpoint]
  · intro t d rest hsome
    obtain ⟨negative, whole, fraction, hdigits, rfl, ht⟩ := written_of_readNumber? hsome
    refine ⟨_, ht, ?_⟩
    simp only [valueOf, Match.rule, Match.text, Number.read?_written hdigits]

theorem run_endsWord (t : Text) :
    run isGap size false recorded
        (without (either (one Char.isAlphanum) (word ['_'])) : Peg Rule) t =
      if endsWord t then some ([], t) else none := by
  rw [run_without]
  rcases t with _ | ⟨c, t⟩
  · rw [takes_part.nil]
    rfl
  · rw [takes_part.cons]
    by_cases hc : Path.isIdentPart c <;> simp [endsWord, hc]

theorem records_boolean :
    Records size boolean readBoolean? fun b m => valueOf m = .ok (.boolean b) := by
  apply records_rule
  · intro t
    change run isGap size false false _ t = _
    have hyes (t : Text) : run isGap size false false
        (either (word ['t', 'r', 'u', 'e']) (word ['f', 'a', 'l', 's', 'e']) : Peg Rule)
          ('t' :: 'r' :: 'u' :: 'e' :: t) = some ([], t) :=
      run_either_some _ _ (run_word_append ['t', 'r', 'u', 'e'] t false)
    have hno (t : Text) : run isGap size false false
        (either (word ['t', 'r', 'u', 'e']) (word ['f', 'a', 'l', 's', 'e']) : Peg Rule)
          ('f' :: 'a' :: 'l' :: 's' :: 'e' :: t) = some ([], t) := by
      rw [run_either_word, if_neg (by simp)]
      exact run_word_append ['f', 'a', 'l', 's', 'e'] t false
    fun_cases readBoolean? t with
    | case1 t hends | case2 t hends =>
      rw [run_both _ _ (hyes t), run_endsWord]
      simp [hends]
    | case3 t hends | case4 t hends =>
      rw [run_both _ _ (hno t), run_endsWord]
      simp [hends]
    | case5 t hnotYes hnotNo =>
      rw [run_both_none _ _]
      · rfl
      · rw [run_either_word, if_neg (not_starts _ hnotYes)]
        exact run_word_none (not_starts _ hnotNo) false
  · intro t b rest hsome
    obtain ⟨w, hw, ht⟩ := word_of_readBoolean? hsome
    refine ⟨w, ht, ?_⟩
    cases hw <;> rfl

/-- What the one does not take is left to the other. -/
theorem Records.either {α β γ : Type} {a b : Peg Rule} {f : α → γ} {g : β → γ}
    {readA : Text → Option (α × Text)} {readB : Text → Option (β × Text)}
    {Shows : γ → Match Rule → Prop} (ha : Records size a readA fun x m => Shows (f x) m)
    (hb : Records size b readB fun y m => Shows (g y) m) :
    Records size (either a b) (fun t =>
      match readA t with
      | some (x, rest) => some (f x, rest)
      | none => (readB t).map fun (y, rest) => (g y, rest)) Shows := by
  intro t
  rcases hreadA : readA t with _ | ⟨x, rest⟩
  · have hnone := run_either_none a b ((ha t).1 hreadA)
    constructor
    · intro h
      rw [hnone]
      simp only [hreadA, Option.map_eq_none_iff] at h
      exact (hb t).1 h
    · intro v rest h
      simp only [hreadA, Option.map_eq_some_iff, Prod.mk.injEq, Prod.exists] at h
      obtain ⟨y, rest, hreadB, rfl, rfl⟩ := h
      rw [hnone]
      exact (hb t).2 y rest hreadB
  · constructor
    · intro h
      simp [hreadA] at h
    · intro v rest' h
      simp only [hreadA, Option.some.injEq, Prod.mk.injEq] at h
      obtain ⟨rfl, rfl⟩ := h
      obtain ⟨m, hm, hrun⟩ := (ha t).2 x rest hreadA
      exact ⟨m, hm, run_either_some a b hrun⟩

theorem records_literal :
    Records size literal readLiteral? fun v m => valueOf m = .ok v := by
  have hplain : Records size (.either number boolean) _ fun v m => valueOf m = .ok v :=
    records_number.either (f := fun d : Decimal => Value.number d.toNumber) (g := Value.boolean)
      records_boolean
  have h := records_string.either (f := Value.text) (g := fun v => v) hplain
  suffices hread : readLiteral? = _ by
    rw [hread]
    exact h
  funext t
  unfold readLiteral?
  rcases readString? t with _ | ⟨s, rest⟩
  · rcases readNumber? t with _ | ⟨d, rest⟩
    · rcases readBoolean? t with _ | ⟨b, rest⟩ <;> rfl
    · rfl
  · rfl

theorem run_ending (t : Text) :
    run isGap size true true ending t =
      if t = [] then some ([.mk .ending [] []], []) else none := by
  by_cases ht : t = []
  · subst ht
    exact run_rule (t := []) rfl rfl
  · rw [if_neg ht]
    apply run_rule_none
    rw [run, if_neg ht]

/-! ### Expressions -/

section Both

variable {α : Type} {a : Peg Rule} {read : Text → Option (α × Text)}
  {Shows : α → Match Rule → Prop} {t : Text}

theorem Records.run_both_none (h : Records size a read Shows) (hread : read t = none)
    (b : Peg Rule) : run isGap size true true (both a b) t = none :=
  Peg.run_both_none a b ((h t).1 hread)

/-- What comes behind a part is matched behind the blanks. -/
theorem Records.run_both (size : Nat) (h : Records size a read Shows) {x : α} {rest : Text}
    (hread : read t = some (x, rest)) (b : Peg Rule) :
    ∃ m, Shows x m ∧ run isGap size true true (both a b) t =
      (run isGap size true true b (skipGap rest)).map fun (more, last) => (m :: more, last) := by
  obtain ⟨m, hm, hrun⟩ := (h t).2 x rest hread
  exact ⟨m, hm, run_both_spaced a b hrun⟩

end Both

end Rules

/-- What is made of a match is made of the parts of a condition. -/
theorem outcome_of_parts (expr : Text) :
    outcome expr =
      match run isGap expr.length true true parts (skipGap expr) with
      | none => .error .unmatched
      | some (found, _) => ofParts found := by
  have hstart : run isGap expr.length true true (start : Peg Rule) expr = some ([], expr) := by
    rw [run, if_pos rfl]
  have hboth : run isGap expr.length true true (both start parts) expr =
      run isGap expr.length true true parts (skipGap expr) := by
    rw [run_both_spaced start parts hstart]
    exact Option.map_id'
  rw [outcome, condition]
  rcases hrun : run isGap expr.length true true parts (skipGap expr) with _ | ⟨found, rest⟩
  · rw [run_rule_none (hboth.trans hrun)]
  · rw [run, Bool.true_and, Bool.true_and, show (RuleKind.plain == .plain) = true from rfl,
      show (RuleKind.plain != .atomic) = true from rfl, hboth, hrun]
    rfl

/-- **What is read is what the grammar matches**, and what is made of the match is the
    condition that is read. -/
theorem outcome_eq (expr : Text) :
    outcome expr = (read expr).mapError fun _ => .unmatched := by
  rw [outcome_of_parts]
  rcases hpath : Path.readPath? (skipGap expr) with _ | ⟨p, t⟩
  · rw [parts, records_path.run_both_none hpath]
    simp [read, hpath, Except.mapError]
  obtain ⟨mpath, rfl, hafterPath⟩ :=
    records_path.run_both expr.length hpath (both operator (both literal ending))
  rcases hoperator : readOperator? (skipGap t) with _ | ⟨op, u⟩
  · rw [parts, hafterPath, records_operator.run_both_none hoperator]
    simp [read, hpath, hoperator, Except.mapError]
  obtain ⟨moperator, hspells, hafterOperator⟩ :=
    records_operator.run_both expr.length hoperator (both literal ending)
  rcases hliteral : readLiteral? (skipGap u) with _ | ⟨v, rest⟩
  · rw [parts, hafterPath, hafterOperator, records_literal.run_both_none hliteral]
    simp [read, hpath, hoperator, hliteral, Except.mapError]
  obtain ⟨mliteral, hvalue, hafterLiteral⟩ :=
    records_literal.run_both expr.length hliteral ending
  rw [parts, hafterPath, hafterOperator, hafterLiteral, run_ending]
  rcases hafter : skipGap rest with _ | ⟨c, last⟩
  · simp [read, hpath, hoperator, hliteral, hafter, Except.mapError, ofParts, hspells.ofSymbol?,
      hvalue, Except.map]
  · simp [read, hpath, hoperator, hliteral, hafter, Except.mapError]

/-- The grammar not matching is the only fault there is. -/
theorem fault_eq {expr : Text} {fault : Fault} (h : outcome expr = .error fault) :
    fault = .unmatched := by
  rw [outcome_eq] at h
  rcases hread : read expr with e | c
  · rw [hread] at h
    cases h
    rfl
  · rw [hread] at h
    cases h

end Grammar

/-- **Conditions are what their grammar says.**  An expression is read as a condition exactly
    if it is blanks and the parts of one, it can be cut up in one way, and its numeral is a
    number.  Matching the grammar and looking for the parts in the record of the match comes
    to the same, so they are always there, and no numeral is refused. -/
theorem read_accepts_grammar (expr : Text) :
    (∀ c, read expr = .ok c ↔ ∃ w : Pieces, w.text = expr ∧ w.Says c) ∧
      (∀ (w w' : Pieces) (c c' : Condition), w.text = expr → w'.text = expr → w.Says c →
        w'.Says c' → w = w' ∧ c = c') ∧
      (∀ t, Decimal.IsPlain t → ∃ n, Number.read? t = some n) ∧
      Grammar.outcome expr = (read expr).mapError (fun _ => .unmatched) ∧
      (∀ missing, Grammar.outcome expr ≠ .error (.shape missing)) ∧
      ∀ t, Grammar.outcome expr ≠ .error (.invalidNumber t) := by
  refine ⟨fun c => read_eq_ok_iff, ?unique, ?numeral, Grammar.outcome_eq expr, ?shape, ?invalid⟩
  case unique =>
    intro w w' c c' htext htext' hsays hsays'
    exact Pieces.eq_of_says hsays hsays' (htext.trans htext'.symm)
  case numeral =>
    rintro t ⟨negative, whole, fraction, hdigits, rfl⟩
    exact ⟨_, Number.read?_written hdigits⟩
  case shape =>
    intro missing h
    cases Grammar.fault_eq h
  case invalid =>
    intro t h
    cases Grammar.fault_eq h

/-- An expression with the look of others in its literal, cut up. -/
def signpost : Pieces :=
  ⟨" ".toList, "way.left_1".toList, [], "===".toList, "\t".toList, "\"it's == 'x'\"".toList,
    "\r\n".toList⟩

def turn : Condition := ⟨"way.left_1".toList, .eq, .text "it's == 'x'".toList⟩

theorem says_turn : signpost.Says turn where
  before := List.all_eq_true.1 (by decide +kernel)
  path := by
    have hway : Path.isIdent "way".toList := by decide +kernel
    have hleft : Path.isIdent "left_1".toList := by decide +kernel
    exact .cons hway (.single hleft)
  between := List.all_eq_true.1 (by decide +kernel)
  operator := .same
  behind := List.all_eq_true.1 (by decide +kernel)
  literal := .double (t := "it's == 'x'".toList) (by decide +kernel)
  after := List.all_eq_true.1 (by decide +kernel)
  path_eq := rfl

/-- There is no other way to cut it up, and zeros on either side of a numeral do no harm. -/
theorem read_accepts_grammar_of_signpost :
    read signpost.text = .ok turn ∧ Grammar.outcome signpost.text = .ok turn ∧
      (∀ (w : Pieces) (c : Condition), w.text = signpost.text → w.Says c →
        w = signpost ∧ c = turn) ∧
      ∃ n, Number.read? "-007.250".toList = some n := by
  obtain ⟨hread, hunique, hnumeral, houtcome, -, -⟩ := read_accepts_grammar signpost.text
  have hturn : read signpost.text = .ok turn := (hread turn).2 ⟨signpost, rfl, says_turn⟩
  refine ⟨hturn, ?_, ?_, ?_⟩
  · rw [houtcome, hturn]
    rfl
  · intro w c htext hsays
    exact hunique w signpost c turn htext rfl hsays says_turn
  · apply hnumeral
    have hdigits : Decimal.AreDigits "007".toList "250".toList :=
      ⟨by decide +kernel, List.all_eq_true.1 (by decide +kernel),
        List.all_eq_true.1 (by decide +kernel)⟩
    exact ⟨true, _, _, hdigits, by decide +kernel⟩

end Condition

end Scenery
