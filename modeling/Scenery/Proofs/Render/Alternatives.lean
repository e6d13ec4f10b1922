/-
  Scenery/Proofs/Render/Alternatives.lean
  =======================================
  **Of two alternatives one is rendered.**  A node stands for nodes if no rendering can tell
  it from them, wherever in a tree it is (`Render.StandsFor`).  Rows that are read alike
  outside of sentences, in sentences and in lists (`Render.ReadAlike`) can be put in each
  other's place anywhere, since a node is read through its content.

  A conditional is read as its content if its condition holds, and as nothing if it does
  not.  So two conditionals on the same path and literal with opposite operators stand for
  the content of the one and for nothing, or for nothing and the content of the other; the
  main statement, with what evaluation answers, is `Render.comparison_decides`.
-/
import Scenery.Proofs.Condition.Comparison
import Scenery.Proofs.Render.Splicing

namespace Scenery.Render

/-- Rows of nodes that are read alike everywhere. -/
structure ReadAlike (ctx : Context) (ms ns : List Node) : Prop where
  gather : ∀ g, gatherAll ctx g ms = gatherAll ctx g ns
  inline : inlineAll ctx ms = inlineAll ctx ns
  collect : ∀ u, collectAll ctx u ms = collectAll ctx u ns

variable {ctx : Context} {ms ns : List Node}

/-! ### Rows -/

theorem gatherAll_row (g : Gathered) (ms ns : List Node) :
    gatherAll ctx g (ms ++ ns) =
      match gatherAll ctx g ms with
      | .error e => .error e
      | .ok g => gatherAll ctx g ns := by
  induction ms generalizing g with
  | nil => rfl
  | cons m ms ih =>
    rw [List.cons_append, gatherAll, gatherAll]
    rcases gather ctx g m with e | g'
    · rfl
    · exact ih g'

namespace ReadAlike

theorem row (h : ReadAlike ctx ms ns) (before after : List Node) :
    ReadAlike ctx (before ++ (ms ++ after)) (before ++ (ns ++ after)) where
  gather := by
    intro g
    simp only [gatherAll_row, h.gather]
  inline := by
    simp only [inlineAll_row, h.inline]
  collect := by
    intro u
    simp only [collectAll_row, h.collect]

/-- An element is read through its content. -/
theorem element (h : ReadAlike ctx ms ns) (kind : Element) (place : Place) :
    ReadAlike ctx [.element kind place ms] [.element kind place ns] where
  gather := by
    intro g
    cases kind with
    | conditional c => simp only [gatherAll, Render.gather, h.gather]
    | wrapper | sentence | list name => rfl
  inline := by
    cases kind with
    | conditional c | wrapper | sentence => simp only [inlineAll, Render.inline, h.inline]
    | list name => simp only [inlineAll, Render.inline, listMembers, h.gather]
  collect := by
    intro u
    cases kind with
    | conditional c | wrapper => simp only [collectAll, Render.collect, h.collect]
    | sentence => simp only [collectAll, Render.collect, h.inline]
    | list name => simp only [collectAll, Render.collect, Render.inline, listMembers, h.gather]

end ReadAlike

/-! ### Trees -/

/-- A tree with nodes missing: they are here, or between nodes of a row, or in an element. -/
inductive Surrounding where
  | here
  | row (before : List Node) (inner : Surrounding) (after : List Node)
  | element (kind : Element) (place : Place) (inner : Surrounding)

/-- Puts the missing nodes in. -/
def Surrounding.fill : Surrounding → List Node → List Node
  | .here, ns => ns
  | .row before inner after, ns => before ++ (inner.fill ns ++ after)
  | .element kind place inner, ns => [.element kind place (inner.fill ns)]

theorem ReadAlike.fill (h : ReadAlike ctx ms ns) (s : Surrounding) :
    ReadAlike ctx (s.fill ms) (s.fill ns) := by
  induction s with
  | here => exact h
  | row before inner after ih => exact ih.row before after
  | element kind place inner ih => exact ih.element kind place

/-- A node stands for nodes: wherever it is, the tree is rendered as with them in its place. -/
def StandsFor (ctx : Context) (n : Node) (ns : List Node) : Prop :=
  ∀ (s : Surrounding) (place : Place),
    tree ctx (.element .wrapper place (s.fill [n])) =
      tree ctx (.element .wrapper place (s.fill ns))

theorem ReadAlike.standsFor {n : Node} (h : ReadAlike ctx [n] ns) : StandsFor ctx n ns := by
  intro s place
  simp only [tree, units, Render.collect, (h.fill s).collect]

/-! ### Conditionals -/

variable {c : Condition} (place : Place) (children : List Node)

/-- A conditional that holds is read as its content. -/
theorem readAlike_of_holds (h : c.eval ctx = .ok true) :
    ReadAlike ctx [.element (.conditional c) place children] children where
  gather := by
    intro g
    simp only [gatherAll, gather, h]
    rcases gatherAll ctx g children with e | g' <;> rfl
  inline := by
    simp only [inlineAll, inline, h]
    rcases inlineAll ctx children with e | a
    · rfl
    · simp
  collect := by
    intro u
    simp only [collectAll, collect, h]
    rcases collectAll ctx u children with e | u' <;> rfl

/-- A conditional that does not hold is read as nothing. -/
theorem readAlike_of_not_holds (h : c.eval ctx = .ok false) :
    ReadAlike ctx [.element (.conditional c) place children] [] where
  gather := by
    intro g
    simp only [gatherAll, gather, h]
  inline := by
    simp only [inlineAll, inline, h, Inline.append_empty]
  collect := by
    intro u
    simp only [collectAll, collect, h]

/-- **Of two conditionals with opposite operators one is rendered**, and the other leaves
    nothing. -/
theorem standsFor_opposite {path : Text} {literal found : Value} {op : Operator}
    (hget : ctx.get? path = some found) (h : op.Answers found literal) (place' : Place)
    (children' : List Node) :
    (op.Relates found literal ∧
        StandsFor ctx (.element (.conditional ⟨path, op, literal⟩) place children) children ∧
        StandsFor ctx (.element (.conditional ⟨path, op.opposite, literal⟩) place' children') []) ∨
      (¬op.Relates found literal ∧
        StandsFor ctx (.element (.conditional ⟨path, op, literal⟩) place children) [] ∧
        StandsFor ctx (.element (.conditional ⟨path, op.opposite, literal⟩) place' children')
          children') := by
  rcases Condition.eval_opposite hget h with ⟨hrelates, htrue, hfalse⟩ | ⟨hnot, hfalse, htrue⟩
  · left
    refine ⟨hrelates, ?_, ?_⟩
    · exact (readAlike_of_holds place children htrue).standsFor
    · exact (readAlike_of_not_holds place' children' hfalse).standsFor
  · right
    refine ⟨hnot, ?_, ?_⟩
    · exact (readAlike_of_not_holds place children hfalse).standsFor
    · exact (readAlike_of_holds place' children' htrue).standsFor

/-- **Comparison is a strict total order without coercion.**  Evaluation fails over a path
    that is not there, over different kinds, and over the order of booleans, and never else.
    Texts by their bytes and numbers by their values are ordered strictly and totally, and
    that order is what the six operators tell; a number without a value is only different.
    So of two conditionals with opposite operators exactly one is rendered. -/
theorem comparison_decides (path : Text) (literal : Value) (ctx : Context) :
    (∀ op e, Condition.eval ⟨path, op, literal⟩ ctx = .error e ↔
      (ctx.get? path = none ∧ e = .unknownPath path) ∨
        ∃ found, ctx.get? path = some found ∧
          ((found.kind ≠ literal.kind ∧ e = .typeMismatch path literal.kind found.kind) ∨
            (found.kind = .boolean ∧ literal.kind = .boolean ∧ op ≠ .eq ∧ op ≠ .ne ∧
              e = .unordered path op .boolean))) ∧
    (∀ u v : Value, u.Ordered v →
      (u.Less v ∧ ¬u.Same v ∧ ¬v.Less u) ∨ (¬u.Less v ∧ u.Same v ∧ ¬v.Less u) ∨
        (¬u.Less v ∧ ¬u.Same v ∧ v.Less u)) ∧
    (∀ u v w : Value, u.Less v → v.Less w → u.Less w) ∧
    (∀ op found, ctx.get? path = some found → op.Answers found literal →
      ∃ b, Condition.eval ⟨path, op, literal⟩ ctx = .ok b ∧
        (b = true ↔ op.Relates found literal)) ∧
    (∀ op a b, ctx.get? path = some (.number a) → literal = .number b →
      a.isNaN = true ∨ b.isNaN = true →
        Condition.eval ⟨path, op, literal⟩ ctx = .ok (op == .ne)) ∧
    ∀ op found, ctx.get? path = some found → op.Answers found literal →
      ∀ (place place' : Place) (children children' : List Node),
        (op.Relates found literal ∧
          StandsFor ctx (.element (.conditional ⟨path, op, literal⟩) place children) children ∧
          StandsFor ctx (.element (.conditional ⟨path, op.opposite, literal⟩) place' children')
            []) ∨
        (¬op.Relates found literal ∧
          StandsFor ctx (.element (.conditional ⟨path, op, literal⟩) place children) [] ∧
          StandsFor ctx (.element (.conditional ⟨path, op.opposite, literal⟩) place' children')
            children') := by
  refine ⟨?error, ?total, ?trans, ?answer, ?nan, ?branch⟩
  case error =>
    intro op e
    exact Condition.eval_eq_error_iff
  case total =>
    intro u v h
    exact Value.trichotomy h
  case trans =>
    intro u v w h h'
    exact h.trans h'
  case answer =>
    intro op found hget h
    exact Condition.eval_iff hget h
  case nan =>
    intro op a b hget hliteral h
    rw [hliteral]
    exact Condition.eval_nan hget h
  case branch =>
    intro op found hget h place place' children children'
    exact standsFor_opposite place children hget h place' children'

/-- Somebody whose name comes before all names in small letters, and who is not well. -/
def guest : Context :=
  .ofList [("heat".toList, .number .nan), ("name".toList, .text "Zoe".toList)]

/-- The guest comes before `ann`, whatever stands in the two branches, and her heat is not at
    most any number. -/
theorem comparison_decides_of_guest :
    (Value.text "Zoe".toList).Less (.text "é".toList) ∧
    Condition.eval ⟨"name".toList, .gt, .text "ann".toList⟩ guest = .ok false ∧
    (∀ (place place' : Place) (children children' : List Node),
      StandsFor guest (.element (.conditional ⟨"name".toList, .lt, .text "ann".toList⟩) place
        children) children ∧
      StandsFor guest (.element (.conditional ⟨"name".toList, .ge, .text "ann".toList⟩) place'
        children') []) ∧
    Condition.eval ⟨"heat".toList, .le, .number .zero⟩ guest = .ok false := by
  obtain ⟨-, htotal, htrans, hanswer, -, hbranch⟩ :=
    comparison_decides "name".toList (.text "ann".toList) guest
  obtain ⟨-, -, -, -, hnan, -⟩ := comparison_decides "heat".toList (.number .zero) guest
  have hname : guest.get? "name".toList = some (.text "Zoe".toList) := by decide +kernel
  have hordered : Value.Ordered (.text "Zoe".toList) (.text "ann".toList) := .text _ _
  have hless : Value.Less (.text "Zoe".toList) (.text "ann".toList) := .text (by decide +kernel)
  refine ⟨htrans _ _ _ hless (.text (by decide +kernel)), ?_, ?_, ?_⟩
  · have hnot : ¬Value.Less (.text "ann".toList) (.text "Zoe".toList) := by
      rcases htotal _ _ hordered with h | h | h
      · exact h.2.2
      · exact h.2.2
      · exact absurd hless h.1
    obtain ⟨b, hb, hiff⟩ := hanswer .gt _ hname (.ordered hordered)
    rw [hb, Except.ok.injEq, ← Bool.not_eq_true]
    intro htrue
    exact hnot (hiff.1 htrue)
  · intro place place' children children'
    rcases hbranch .lt _ hname (.ordered hordered) place place' children children' with h | h
    · exact h.2
    · exact absurd hless h.1
  · exact hnan .le .nan .zero (by decide +kernel) rfl (.inl rfl)

end Scenery.Render
