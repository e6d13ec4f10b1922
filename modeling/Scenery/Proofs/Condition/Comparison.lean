/-
  Scenery/Proofs/Condition/Comparison.lean
  ========================================
  **What a condition answers.**  Values are compared strictly: numbers by their values,
  texts by their bytes, and booleans only for being the same (`Value.Less`, `Value.Same`).
  An operator relates two values by one of the two or by its negation
  (`Operator.Relates`), and that is what evaluation answers (`Condition.eval_iff`).

  Where values can be ordered, the order is strict and total (`Value.Less.trans`,
  `Value.trichotomy`), so two operators of which one negates the other never agree
  (`Condition.eval_opposite`).  Evaluation fails only over the path, the kinds or the
  order of booleans (`Condition.eval_eq_error_iff`).
-/
import Scenery.Proofs.Number.Order
import Scenery.Proofs.Text.Order

namespace Scenery

namespace Value

/-- The first value comes before the second. -/
inductive Less : Value → Value → Prop
  | number {a b : Number} {i j : Int} : a.value? = some i → b.value? = some j → i < j →
      Less (.number a) (.number b)
  | text {s t : Text} : s.octets < t.octets → Less (.text s) (.text t)

/-- The values are equal.  For numbers the sign of a zero does not matter. -/
inductive Same : Value → Value → Prop
  | number {a b : Number} {i : Int} : a.value? = some i → b.value? = some i →
      Same (.number a) (.number b)
  | text (t : Text) : Same (.text t) (.text t)
  | boolean (b : Bool) : Same (.boolean b) (.boolean b)

/-- Two texts, or two numbers neither of which is not a number. -/
inductive Ordered : Value → Value → Prop
  | number {a b : Number} : a.isNaN = false → b.isNaN = false → Ordered (.number a) (.number b)
  | text (s t : Text) : Ordered (.text s) (.text t)

variable {u v w : Value}

theorem less_number_iff {a b : Number} {i j : Int} (ha : a.value? = some i)
    (hb : b.value? = some j) : Less (.number a) (.number b) ↔ i < j := by
  constructor
  · intro h
    cases h with
    | number ha' hb' hlt =>
      rw [ha, Option.some.injEq] at ha'
      rw [hb, Option.some.injEq] at hb'
      rwa [ha', hb']
  · exact .number ha hb

theorem same_number_iff {a b : Number} {i j : Int} (ha : a.value? = some i)
    (hb : b.value? = some j) : Same (.number a) (.number b) ↔ i = j := by
  constructor
  · intro h
    cases h with
    | number ha' hb' =>
      rw [ha, Option.some.injEq] at ha'
      rw [hb, Option.some.injEq] at hb'
      rw [ha', hb']
  · rintro rfl
    exact .number ha hb

theorem less_text_iff {s t : Text} : Less (.text s) (.text t) ↔ s.octets < t.octets := by
  constructor
  · intro h
    cases h with
    | text hlt => exact hlt
  · exact .text

theorem same_text_iff {s t : Text} : Same (.text s) (.text t) ↔ s = t := by
  constructor
  · intro h
    cases h
    rfl
  · rintro rfl
    exact .text s

theorem same_boolean_iff {a b : Bool} : Same (.boolean a) (.boolean b) ↔ a = b := by
  constructor
  · intro h
    cases h
    rfl
  · rintro rfl
    exact .boolean a

/-! ### A strict total order -/

theorem Less.trans (h : Less u v) (h' : Less v w) : Less u w := by
  cases h with
  | number ha hb hlt =>
    cases h' with
    | number hb' hc hlt' =>
      rw [hb, Option.some.injEq] at hb'
      subst hb'
      exact .number ha hc (Int.lt_trans hlt hlt')
  | text hlt =>
    cases h' with
    | text hlt' => exact .text (List.lt_trans hlt hlt')

/-- **Of two values that can be ordered, one comes first or they are the same**, and not more
    than one of that holds. -/
theorem trichotomy (h : Ordered u v) :
    (Less u v ∧ ¬Same u v ∧ ¬Less v u) ∨ (¬Less u v ∧ Same u v ∧ ¬Less v u) ∨
      (¬Less u v ∧ ¬Same u v ∧ Less v u) := by
  cases h with
  | @number a b hasValue hasValue' =>
    obtain ⟨i, ha⟩ := Number.exists_value? hasValue
    obtain ⟨j, hb⟩ := Number.exists_value? hasValue'
    rw [less_number_iff ha hb, same_number_iff ha hb, less_number_iff hb ha]
    omega
  | text s t =>
    rw [less_text_iff, same_text_iff, less_text_iff, Text.octets_lt_octets, Text.octets_lt_octets]
    rcases Std.lt_trichotomy s t with hlt | rfl | hgt
    · refine .inl ⟨hlt, ?_, List.lt_asymm hlt⟩
      rintro rfl
      exact List.lt_irrefl _ hlt
    · exact .inr (.inl ⟨List.lt_irrefl _, rfl, List.lt_irrefl _⟩)
    · refine .inr (.inr ⟨List.lt_asymm hgt, ?_, hgt⟩)
      rintro rfl
      exact List.lt_irrefl _ hgt

end Value

namespace Operator

/-- What an operator says of two values. -/
def Relates : Operator → Value → Value → Prop
  | .eq, u, v => Value.Same u v
  | .ne, u, v => ¬Value.Same u v
  | .gt, u, v => Value.Less v u
  | .ge, u, v => ¬Value.Less u v
  | .lt, u, v => Value.Less u v
  | .le, u, v => ¬Value.Less v u

/-- The operator that holds where this one does not. -/
def opposite : Operator → Operator
  | .eq => .ne
  | .ne => .eq
  | .gt => .le
  | .ge => .lt
  | .lt => .ge
  | .le => .gt

/-- The operator answers for two values: they can be ordered, or they are booleans and it
    does not ask for their order. -/
inductive Answers : Operator → Value → Value → Prop
  | ordered {op : Operator} {u v : Value} : Value.Ordered u v → Answers op u v
  | eq (a b : Bool) : Answers .eq (.boolean a) (.boolean b)
  | ne (a b : Bool) : Answers .ne (.boolean a) (.boolean b)

theorem Answers.opposite {op : Operator} {u v : Value} (h : op.Answers u v) :
    op.opposite.Answers u v := by
  cases h with
  | ordered h => exact .ordered h
  | eq a b => exact .ne a b
  | ne a b => exact .eq a b

theorem relates_opposite (op : Operator) (u v : Value) :
    op.opposite.Relates u v ↔ ¬op.Relates u v := by
  cases op with
  | eq | lt | gt => exact Iff.rfl
  | ne | le | ge => exact Classical.not_not.symm

/-- An ordering decides what every operator says. -/
theorem holds_iff {u v : Value} {o : Ordering} (hlt : o = .lt ↔ Value.Less u v)
    (heq : o = .eq ↔ Value.Same u v) (hgt : o = .gt ↔ Value.Less v u) (op : Operator) :
    op.holds o = true ↔ op.Relates u v := by
  cases op with
  | eq => rw [Relates, ← heq, holds, beq_iff_eq]
  | ne => rw [Relates, ← heq, holds, bne_iff_ne]
  | gt => rw [Relates, ← hgt, holds, beq_iff_eq]
  | ge => rw [Relates, ← hlt, holds, bne_iff_ne]
  | lt => rw [Relates, ← hlt, holds, beq_iff_eq]
  | le => rw [Relates, ← hgt, holds, bne_iff_ne]

end Operator

namespace Condition

variable {path : Text} {literal found : Value} {ctx : Context} {op : Operator}

/-- **What evaluation answers is what the operator says.** -/
theorem eval_iff (hget : ctx.get? path = some found) (h : op.Answers found literal) :
    ∃ b, eval ⟨path, op, literal⟩ ctx = .ok b ∧ (b = true ↔ op.Relates found literal) := by
  cases h with
  | ordered h =>
    cases h with
    | @number a b hasValue hasValue' =>
      obtain ⟨i, ha⟩ := Number.exists_value? hasValue
      obtain ⟨j, hb⟩ := Number.exists_value? hasValue'
      refine ⟨op.holds (Ord.compare i j), ?_, ?_⟩
      · simp [eval, hget, Number.compare_eq, ha, hb]
      · apply Operator.holds_iff
        · rw [Value.less_number_iff ha hb, Int.compare_eq_lt]
        · rw [Value.same_number_iff ha hb, Int.compare_eq_eq]
        · rw [Value.less_number_iff hb ha, Int.compare_eq_gt]
    | text s t =>
      refine ⟨op.holds (Text.compare s t), ?_, ?_⟩
      · simp [eval, hget]
      · apply Operator.holds_iff
        · rw [Value.less_text_iff, Text.compare_eq_lt]
        · rw [Value.same_text_iff, Text.compare_eq_eq]
        · rw [Value.less_text_iff, Text.compare_eq_gt]
  | eq a b =>
    refine ⟨a == b, by simp [eval, hget], ?_⟩
    rw [Operator.Relates, Value.same_boolean_iff, beq_iff_eq]
  | ne a b =>
    refine ⟨a != b, by simp [eval, hget], ?_⟩
    rw [Operator.Relates, Value.same_boolean_iff, bne_iff_ne]

/-- **Opposite operators give opposite answers.** -/
theorem eval_opposite (hget : ctx.get? path = some found) (h : op.Answers found literal) :
    (op.Relates found literal ∧ eval ⟨path, op, literal⟩ ctx = .ok true ∧
        eval ⟨path, op.opposite, literal⟩ ctx = .ok false) ∨
      (¬op.Relates found literal ∧ eval ⟨path, op, literal⟩ ctx = .ok false ∧
        eval ⟨path, op.opposite, literal⟩ ctx = .ok true) := by
  obtain ⟨b, hb, hiff⟩ := eval_iff hget h
  obtain ⟨b', hb', hiff'⟩ := eval_iff hget h.opposite
  rw [Operator.relates_opposite] at hiff'
  rw [hb, hb']
  by_cases hrelates : op.Relates found literal
  · left
    rw [hiff.2 hrelates]
    have hfalse : b' = false := by
      rw [← Bool.not_eq_true]
      intro htrue
      exact hiff'.1 htrue hrelates
    exact ⟨hrelates, rfl, by rw [hfalse]⟩
  · right
    rw [hiff'.2 hrelates]
    have hfalse : b = false := by
      rw [← Bool.not_eq_true]
      intro htrue
      exact hrelates (hiff.1 htrue)
    exact ⟨hrelates, by rw [hfalse], rfl⟩

/-- Without a value, a number is different from all and nothing else. -/
theorem eval_nan {a b : Number} (hget : ctx.get? path = some (.number a))
    (h : a.isNaN = true ∨ b.isNaN = true) :
    eval ⟨path, op, .number b⟩ ctx = .ok (op == .ne) := by
  have hcompare : a.compare b = none := by
    rw [Number.compare_eq]
    rcases h with h | h
    · rw [Number.value?_eq_none.2 h]
    · rw [Number.value?_eq_none.2 h]
      rcases a.value? with _ | i <;> rfl
  simp [eval, hget, hcompare]

/-- **Evaluation fails in three ways.**  The path is not there; the kinds are different; or
    booleans are to be ordered.  The first two do not depend on the operator. -/
theorem eval_eq_error_iff {e : EvalError} : eval ⟨path, op, literal⟩ ctx = .error e ↔
    (ctx.get? path = none ∧ e = .unknownPath path) ∨
      ∃ found, ctx.get? path = some found ∧
        ((found.kind ≠ literal.kind ∧ e = .typeMismatch path literal.kind found.kind) ∨
          (found.kind = .boolean ∧ literal.kind = .boolean ∧ op ≠ .eq ∧ op ≠ .ne ∧
            e = .unordered path op .boolean)) := by
  rcases hget : ctx.get? path with _ | found
  · simp [eval, hget, eq_comm]
  cases found with
  | boolean a =>
    cases literal with
    | boolean b => cases op <;> simp [eval, hget, Value.kind, eq_comm]
    | number b | text b => simp [eval, hget, Value.kind, eq_comm]
  | number a =>
    cases literal with
    | number b =>
      rcases hcompare : a.compare b with _ | o <;> simp [eval, hget, hcompare, Value.kind]
    | boolean b | text b => simp [eval, hget, Value.kind, eq_comm]
  | text a =>
    cases literal with
    | text b => simp [eval, hget, Value.kind]
    | boolean b | number b => simp [eval, hget, Value.kind, eq_comm]

end Condition

end Scenery
