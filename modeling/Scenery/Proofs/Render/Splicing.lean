/-
  Scenery/Proofs/Render/Splicing.lean
  ===================================
  **Conditionals only splice.**  A conditional whose condition holds stands for what it
  holds, and any other for nothing.  A tree in which every conditional has given way to
  what it stands for (`Node.spliced`) is rendered as the tree itself
  (`tree_spliced`): neither the text that is pending outside of sentences, nor the
  text of a sentence, nor the loose text of a list notices where a conditional began or
  ended.
-/
import Scenery.Proofs.Render.Connectors

namespace Scenery

/-- The condition can be evaluated, and it holds. -/
def Condition.holds (ctx : Context) (c : Condition) : Bool :=
  match c.eval ctx with
  | .ok b => b
  | .error _ => false

theorem Condition.holds_of_eval {ctx : Context} {c : Condition} {b : Bool}
    (h : c.eval ctx = .ok b) : c.holds ctx = b := by
  rw [holds, h]

namespace Node

mutual
/-- What a node stands for: a conditional that passes a test for what it holds, another
    conditional for nothing, and any other node for itself, with what is below it. -/
def splice (test : Condition → Bool) : Node → List Node
  | .element kind place children =>
    match kind with
    | .conditional c => if test c then spliceAll test children else []
    | _ => [.element kind place (spliceAll test children)]
  | .entry t p => [.entry t p]
  | .var path s => [.var path s]
  | .text t s => [.text t s]

/-- What nodes in a row stand for. -/
def spliceAll (test : Condition → Bool) : List Node → List Node
  | [] => []
  | n :: ns => splice test n ++ spliceAll test ns
end

/-- A tree with every conditional below its root replaced by what it stands for. -/
def spliced (test : Condition → Bool) : Node → Node
  | .element kind place children => .element kind place (spliceAll test children)
  | n => n

mutual
theorem isConditional_of_mem_splice (test : Condition → Bool) (n : Node) :
    ∀ m ∈ descendantsOfAll (splice test n), m.isConditional = false := by
  cases n with
  | entry t p | var path s | text raw s =>
    intro m hm
    rw [splice] at hm
    simp only [descendantsOfAll, descendants, List.append_nil, List.mem_singleton] at hm
    rw [hm]
    rfl
  | element kind place children =>
    have ih := isConditional_of_mem_spliceAll test children
    cases kind with
    | conditional c =>
      rw [splice]
      split
      · exact ih
      · intro m hm
        cases hm
    | wrapper | sentence | list name =>
      intro m hm
      simp only [splice, descendantsOfAll, descendants, List.append_nil, List.mem_cons] at hm
      rcases hm with rfl | hm
      · rfl
      · exact ih m hm

/-- Nothing conditional is left. -/
theorem isConditional_of_mem_spliceAll (test : Condition → Bool) (ns : List Node) :
    ∀ m ∈ descendantsOfAll (spliceAll test ns), m.isConditional = false := by
  cases ns with
  | nil =>
    intro m hm
    cases hm
  | cons n ns =>
    intro m hm
    rw [spliceAll, Branch.descendantsOfAll_append, List.mem_append] at hm
    rcases hm with hm | hm
    · exact isConditional_of_mem_splice test n m hm
    · exact isConditional_of_mem_spliceAll test ns m hm
end

end Node

namespace Render

open Node

variable {ctx : Context}

/-! ### Rows of nodes -/

theorem reachedAll_append {xs ys found rest : List Node} (hx : reachedAll ctx xs = .ok found)
    (hy : reachedAll ctx ys = .ok rest) : reachedAll ctx (xs ++ ys) = .ok (found ++ rest) := by
  induction xs generalizing found with
  | nil =>
    rw [reachedAll, Except.ok.injEq] at hx
    rw [← hx]
    exact hy
  | cons x xs ih =>
    rw [List.cons_append, reachedAll]
    rw [reachedAll] at hx
    rcases h : reached ctx x with e | a
    · simp [h] at hx
    · rcases h' : reachedAll ctx xs with e | b
      · simp [h, h'] at hx
      · simp only [h, h', Except.ok.injEq] at hx
        simp [ih h', ← hx]

@[simp] theorem Inline.append_empty (a : Inline) : a.append {} = a := by
  simp [Inline.append]

@[simp] theorem Inline.empty_append (a : Inline) : Inline.append {} a = a := by
  simp [Inline.append]

theorem Inline.append_assoc (a b c : Inline) :
    (a.append b).append c = a.append (b.append c) := by
  simp [Inline.append, Bool.and_assoc]

theorem inlineAll_row (xs ys : List Node) :
    inlineAll ctx (xs ++ ys) =
      match inlineAll ctx xs with
      | .error e => .error e
      | .ok a => (inlineAll ctx ys).map a.append := by
  induction xs with
  | nil =>
    rw [List.nil_append, inlineAll]
    rcases inlineAll ctx ys with e | b
    · rfl
    · simp [Except.map]
  | cons x xs ih =>
    rw [List.cons_append, inlineAll, inlineAll, ih]
    rcases inline ctx x with e | a
    · rfl
    rcases inlineAll ctx xs with e | b
    · rfl
    rcases inlineAll ctx ys with e | c
    · rfl
    · simp [Except.map, Inline.append_assoc]

theorem inlineAll_append {xs ys : List Node} {a b : Inline} (hx : inlineAll ctx xs = .ok a)
    (hy : inlineAll ctx ys = .ok b) : inlineAll ctx (xs ++ ys) = .ok (a.append b) := by
  rw [inlineAll_row, hx, hy]
  rfl

theorem collectAll_row (u : Units) (xs ys : List Node) :
    collectAll ctx u (xs ++ ys) =
      match collectAll ctx u xs with
      | .error e => .error e
      | .ok u => collectAll ctx u ys := by
  induction xs generalizing u with
  | nil => rfl
  | cons x xs ih =>
    rw [List.cons_append, collectAll, collectAll]
    rcases collect ctx u x with e | u'
    · rfl
    · exact ih u'

theorem collectAll_append {xs ys : List Node} {u u' : Units} (hx : collectAll ctx u xs = .ok u') :
    collectAll ctx u (xs ++ ys) = collectAll ctx u' ys := by
  rw [collectAll_row, hx]

/-! ### The three readings -/

mutual
/-- What is reached in a list is reached in what stands for it. -/
theorem reachedAll_splice (n : Node) {found : List Node} (h : reached ctx n = .ok found) :
    reachedAll ctx (splice (Condition.holds ctx) n) = .ok found := by
  cases n with
  | entry t p | text raw s | var path s =>
    rw [splice, reachedAll, h]
    simp [reachedAll]
  | element kind place children =>
    cases kind with
    | wrapper | sentence | list name =>
      simp only [reached, Except.ok.injEq] at h
      simp [splice, reachedAll, reached, ← h]
    | conditional c =>
      rw [reached] at h
      rw [splice]
      rcases hc : c.eval ctx with e | _ | _
      · simp [hc] at h
      · simp only [hc, Except.ok.injEq] at h
        rw [Condition.holds_of_eval hc, if_neg (by simp), reachedAll, h]
      · simp only [hc] at h
        rw [Condition.holds_of_eval hc, if_pos rfl]
        exact reachedAll_spliceAll children h

theorem reachedAll_spliceAll (ns : List Node) {found : List Node}
    (h : reachedAll ctx ns = .ok found) :
    reachedAll ctx (spliceAll (Condition.holds ctx) ns) = .ok found := by
  cases ns with
  | nil => exact h
  | cons n ns =>
    rw [reachedAll] at h
    rcases hn : reached ctx n with e | a
    · simp [hn] at h
    · rcases hns : reachedAll ctx ns with e | b
      · simp [hn, hns] at h
      · simp only [hn, hns, Except.ok.injEq] at h
        rw [spliceAll, ← h]
        exact reachedAll_append (reachedAll_splice n hn) (reachedAll_spliceAll ns hns)
end

/-- A list has the members of what stands for its content. -/
theorem listMembers_spliceAll {children : List Node} {members : List Text}
    (h : listMembers ctx children = .ok members) :
    listMembers ctx (spliceAll (Condition.holds ctx) children) = .ok members := by
  rw [listMembers_eq] at h ⊢
  rcases hreached : reachedAll ctx children with e | ns
  · simp [hreached, Except.map] at h
  · rw [reachedAll_spliceAll children hreached, ← hreached, h]

mutual
/-- The text of a node in a sentence is that of what stands for it. -/
theorem inlineAll_splice (n : Node) {a : Inline} (h : inline ctx n = .ok a) :
    inlineAll ctx (splice (Condition.holds ctx) n) = .ok a := by
  cases n with
  | entry t p | text raw s | var path s =>
    rw [splice, inlineAll, h]
    simp [inlineAll]
  | element kind place children =>
    cases kind with
    | wrapper | sentence =>
      simp only [inline] at h
      simp [splice, inlineAll, inline, inlineAll_spliceAll children h]
    | list name =>
      rw [inline_list] at h
      rcases hmembers : listMembers ctx children with e | members
      · simp [hmembers, Except.map] at h
      · simp only [splice, inlineAll, inline_list, listMembers_spliceAll hmembers]
        rw [hmembers] at h
        simpa [Except.map] using h
    | conditional c =>
      rw [inline] at h
      rw [splice]
      rcases hc : c.eval ctx with e | _ | _
      · simp [hc] at h
      · simp only [hc, Except.ok.injEq] at h
        rw [Condition.holds_of_eval hc, if_neg (by simp), inlineAll, h]
      · simp only [hc] at h
        rw [Condition.holds_of_eval hc, if_pos rfl]
        exact inlineAll_spliceAll children h

theorem inlineAll_spliceAll (ns : List Node) {a : Inline} (h : inlineAll ctx ns = .ok a) :
    inlineAll ctx (spliceAll (Condition.holds ctx) ns) = .ok a := by
  cases ns with
  | nil => exact h
  | cons n ns =>
    rw [inlineAll] at h
    rcases hn : inline ctx n with e | a₁
    · simp [hn] at h
    · rcases hns : inlineAll ctx ns with e | a₂
      · simp [hn, hns] at h
      · simp only [hn, hns, Except.ok.injEq] at h
        rw [spliceAll, ← h]
        exact inlineAll_append (inlineAll_splice n hn) (inlineAll_spliceAll ns hns)
end

mutual
/-- The units of a node outside of sentences are those of what stands for it. -/
theorem collectAll_splice (n : Node) {u u' : Units} (h : collect ctx u n = .ok u') :
    collectAll ctx u (splice (Condition.holds ctx) n) = .ok u' := by
  cases n with
  | entry t p | text raw s | var path s =>
    rw [splice, collectAll, h]
    simp [collectAll]
  | element kind place children =>
    cases kind with
    | wrapper =>
      simp only [collect] at h
      simp [splice, collectAll, collect, collectAll_spliceAll children h]
    | sentence =>
      simp only [collect] at h
      rcases hinline : inlineAll ctx children with e | a
      · simp [hinline, Except.map] at h
      · simp only [hinline, Except.map, Except.ok.injEq] at h
        simp [splice, collectAll, collect, inlineAll_spliceAll children hinline, Except.map, h]
    | list name =>
      simp only [collect] at h
      rcases hinline : inline ctx (.element (.list name) place children) with e | a
      · simp [hinline, Except.map] at h
      · have hspliced := inlineAll_splice _ hinline
        simp only [splice, inlineAll] at hspliced
        rw [hinline] at h
        rcases hlist : inline ctx (.element (.list name) place
            (spliceAll (Condition.holds ctx) children)) with e | b
        · simp [hlist] at hspliced
        · simp only [hlist, Inline.append_empty, Except.ok.injEq] at hspliced
          simpa [splice, collectAll, collect, hlist, hspliced, Except.map] using h
    | conditional c =>
      rw [collect] at h
      rw [splice]
      rcases hc : c.eval ctx with e | _ | _
      · simp [hc] at h
      · simp only [hc, Except.ok.injEq] at h
        rw [Condition.holds_of_eval hc, if_neg (by simp), collectAll, h]
      · simp only [hc] at h
        rw [Condition.holds_of_eval hc, if_pos rfl]
        exact collectAll_spliceAll children h

theorem collectAll_spliceAll (ns : List Node) {u u' : Units} (h : collectAll ctx u ns = .ok u') :
    collectAll ctx u (spliceAll (Condition.holds ctx) ns) = .ok u' := by
  cases ns with
  | nil => exact h
  | cons n ns =>
    rw [collectAll] at h
    rcases hn : collect ctx u n with e | u₁
    · simp [hn] at h
    · simp only [hn] at h
      rw [spliceAll, collectAll_append (collectAll_splice n hn)]
      exact collectAll_spliceAll ns h
end

/-- **Conditionals only splice.**  Where a template can be rendered, the tree in which every
    conditional is replaced by what it stands for has the same units of output and the same
    text, and nothing in that tree is conditional. -/
theorem tree_spliced {template : Text} {root : Node} (hparse : Node.parse template = .ok root)
    {ctx : Context} {t : Text} (h : tree ctx root = .ok t) :
    (∀ n ∈ (root.spliced (Condition.holds ctx)).descendants, n.isConditional = false) ∧
      units ctx (root.spliced (Condition.holds ctx)) = units ctx root ∧
      tree ctx (root.spliced (Condition.holds ctx)) = .ok t := by
  obtain ⟨place, children, rfl⟩ := exists_of_parse_eq_ok hparse
  have hunits : units ctx ((Node.element .wrapper place children).spliced (Condition.holds ctx)) =
      units ctx (.element .wrapper place children) := by
    rcases hcollect : collectAll ctx {} children with e | u
    · simp [tree, units, collect, hcollect, Except.map] at h
    · simp [units, spliced, collect, hcollect, collectAll_spliceAll children hcollect]
  refine ⟨?_, hunits, ?_⟩
  · intro n hn
    rw [spliced, descendants, List.mem_cons] at hn
    rcases hn with rfl | hn
    · rfl
    · exact isConditional_of_mem_spliceAll _ children n hn
  · rw [tree, hunits]
    exact h

/-- A rose that not everybody sees, in a sentence, in a list and around a sentence. -/
def workshop : Text :=
  ("<s>On the wall<if cond='rose == true'>, by a rose,</if> hang <il><item>a SAW</item>" ++
    "<if cond='rose == false'>, <item>an AX</item></if></il>.</s>" ++
    "<if cond='rose == false'>It <s>All is dusty<if cond='rose == true'> but red</if>." ++
    "</s></if>").toList

/-- Two of the conditionals give way to what they hold, and two to nothing. -/
theorem tree_spliced_of_workshop :
    ∃ root t, Node.parse workshop = .ok root ∧
      t = "On the wall hang a SAW and an AX. It All is dusty.".toList ∧ tree roseless root = .ok t ∧
      (root.descendants.filter isConditional).length = 4 ∧
      (∀ n ∈ (root.spliced (Condition.holds roseless)).descendants, n.isConditional = false) ∧
      tree roseless (root.spliced (Condition.holds roseless)) = .ok t := by
  obtain ⟨root, hparse, htree, hlength⟩ := exists_parsed workshop
    (fun root => (tree roseless root).toOption =
        some "On the wall hang a SAW and an AX. It All is dusty.".toList ∧
      (root.descendants.filter isConditional).length = 4) (by decide +kernel)
  have h := eq_ok_of_toOption htree
  obtain ⟨hnone, -, hspliced⟩ := tree_spliced hparse h
  exact ⟨root, _, hparse, rfl, h, hlength, hnone, hspliced⟩

end Render

end Scenery
