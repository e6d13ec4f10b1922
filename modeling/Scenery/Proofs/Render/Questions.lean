/-
  Scenery/Proofs/Render/Questions.lean
  ====================================
  **What rendering asks of the context.**  A tree lists the paths of its conditions and
  variables, and rendering looks up no other: where two contexts agree on those paths
  they give the same text or the same error (`render_of_agreeOn`).

  Reading a tree does not depend on the places of its nodes either, so both are shown
  at once: a tree is read in one context as the tree without places is read in another
  (`faults_bare`, `passages_bare`).
-/
import Mathlib.Data.List.Basic
import Scenery.Proofs.Markup.Bare
import Scenery.Proofs.Render.Reading

namespace Scenery

/-- Two contexts give the same value, or both none, at some paths. -/
def Context.AgreeOn (paths : List Text) (ctx ctx' : Context) : Prop :=
  ∀ path ∈ paths, ctx'.get? path = ctx.get? path

theorem Context.AgreeOn.refl (paths : List Text) (ctx : Context) : AgreeOn paths ctx ctx :=
  fun _ _ => rfl

theorem Condition.eval_congr {c : Condition} {ctx ctx' : Context}
    (h : ctx'.get? c.path = ctx.get? c.path) : c.eval ctx' = c.eval ctx := by
  simp only [eval, h]

theorem Condition.holds_congr {c : Condition} {ctx ctx' : Context}
    (h : ctx'.get? c.path = ctx.get? c.path) : c.holds ctx' = c.holds ctx := by
  rw [holds, holds, eval_congr h]

theorem Context.AgreeOn.holds {paths : List Text} {ctx ctx' : Context}
    (h : AgreeOn paths ctx ctx') (c : Condition) (hc : c.path ∈ paths) :
    c.holds ctx' = c.holds ctx :=
  Condition.holds_congr (h c.path hc)

/-- Only a path without a value is unknown. -/
theorem Condition.get?_of_eval {c : Condition} {ctx : Context} {path : Text}
    (h : c.eval ctx = .error (.unknownPath path)) : ctx.get? c.path = none := by
  rcases hv : ctx.get? c.path with _ | v
  · rfl
  · exfalso
    rw [eval, hv] at h
    split at h
    · next hnone => cases hnone
    · split at h
      · split at h <;> cases h
      · cases h
      · split at h <;> cases h
      · cases h

theorem Query.fault?_congr {q : Query} {ctx ctx' : Context}
    (h : ctx'.get? q.path = ctx.get? q.path) : q.fault? ctx' = q.fault? ctx := by
  cases q with
  | condition c => rw [fault?, fault?, Condition.eval_congr h]
  | value path =>
    simp only [Query.path] at h
    rw [fault?, fault?, h]

theorem Query.get?_of_fault? {q : Query} {ctx : Context} {path : Text}
    (h : q.fault? ctx = some (.unknownPath path)) : ctx.get? q.path = none := by
  cases q with
  | value path' =>
    rcases hv : ctx.get? path' with _ | v
    · exact hv
    · simp [fault?, hv] at h
  | condition c =>
    rcases hc : c.eval ctx with e | b
    · simp only [fault?, hc, Option.some.injEq] at h
      exact Condition.get?_of_eval (h ▸ hc)
    · simp [fault?, hc] at h

namespace Node

/-! ### The paths of a tree -/

/-- Every path that nodes in a row read. -/
def pathsAll (ns : List Node) : List Text := (descendantsOfAll ns).filterMap ownPath?

theorem pathsAll_cons (n : Node) (ns : List Node) :
    pathsAll (n :: ns) = n.paths ++ pathsAll ns := by
  rw [pathsAll, descendantsOfAll, List.filterMap_append]
  rfl

theorem paths_element (kind : Element) (place : Place) (children : List Node) :
    paths (.element kind place children) =
      (ownPath? (.element kind place children)).toList ++ pathsAll children := by
  rw [paths, descendants, List.filterMap_cons]
  cases ownPath? (.element kind place children) <;> rfl

section Tests

variable {test test' : Condition → Bool}

mutual
theorem shown_bare (n : Node) (h : ∀ c : Condition, c.path ∈ n.paths → test' c = test c) :
    n.bare.shown test' = bareAll (n.shown test) := by
  cases n with
  | entry | var | text => rfl
  | element kind place children =>
    rw [paths_element] at h
    have ih := shownAll_bareAll children fun c hc => h c (List.mem_append_right _ hc)
    have hlets : kind.lets test' = kind.lets test := by
      cases kind with
      | conditional c => exact h c (List.mem_append_left _ List.mem_cons_self)
      | wrapper | sentence | list => rfl
    rw [bare, shown, shown, hlets, bareAll, bare]
    split
    · rw [ih]
    · rfl

theorem shownAll_bareAll (ns : List Node)
    (h : ∀ c : Condition, c.path ∈ pathsAll ns → test' c = test c) :
    shownAll test' (bareAll ns) = bareAll (shownAll test ns) := by
  cases ns with
  | nil => rfl
  | cons n ns =>
    rw [pathsAll_cons] at h
    rw [bareAll, shownAll, shownAll, bareAll_append,
      shown_bare n fun c hc => h c (List.mem_append_left _ hc),
      shownAll_bareAll ns fun c hc => h c (List.mem_append_right _ hc)]
end

mutual
theorem splice_bare (n : Node) (h : ∀ c : Condition, c.path ∈ n.paths → test' c = test c) :
    splice test' n.bare = bareAll (splice test n) := by
  cases n with
  | entry | var | text => rfl
  | element kind place children =>
    rw [paths_element] at h
    have ih := spliceAll_bareAll children fun c hc => h c (List.mem_append_right _ hc)
    cases kind with
    | conditional c =>
      rw [bare, splice, splice, h c (List.mem_append_left _ List.mem_cons_self)]
      split
      · exact ih
      · rfl
    | wrapper | sentence | list => simp only [bare, splice, bareAll, ih]

theorem spliceAll_bareAll (ns : List Node)
    (h : ∀ c : Condition, c.path ∈ pathsAll ns → test' c = test c) :
    spliceAll test' (bareAll ns) = bareAll (spliceAll test ns) := by
  cases ns with
  | nil => rfl
  | cons n ns =>
    rw [pathsAll_cons] at h
    rw [bareAll, spliceAll, spliceAll, bareAll_append,
      splice_bare n fun c hc => h c (List.mem_append_left _ hc),
      spliceAll_bareAll ns fun c hc => h c (List.mem_append_right _ hc)]
end

theorem filterMap_query?_bareAll (ns : List Node) :
    (bareAll ns).filterMap query? = ns.filterMap query? := by
  induction ns with
  | nil => rfl
  | cons n ns ih =>
    have hn : n.bare.query? = n.query? := by
      cases n with
      | element kind place children => cases kind <;> rfl
      | entry | var | text => rfl
    rw [bareAll, List.filterMap_cons, List.filterMap_cons, hn, ih]

theorem queries_bare (n : Node) (h : ∀ c : Condition, c.path ∈ n.paths → test' c = test c) :
    n.bare.queries test' = n.queries test := by
  rw [queries, shown_bare n h, filterMap_query?_bareAll, queries]

theorem queriesAll_bareAll (ns : List Node)
    (h : ∀ c : Condition, c.path ∈ pathsAll ns → test' c = test c) :
    queriesAll test' (bareAll ns) = queriesAll test ns := by
  rw [queriesAll, shownAll_bareAll ns h, filterMap_query?_bareAll, queriesAll]

/-- What is asked of the context are paths of the tree. -/
theorem path_mem_of_mem_queries {n : Node} {q : Query} (h : q ∈ n.queries test) :
    q.path ∈ n.paths := by
  obtain ⟨m, hm, hq⟩ := List.mem_filterMap.1 h
  refine List.mem_filterMap.2 ⟨m, (shown_sublist test n).subset hm, ?_⟩
  cases m with
  | entry | text => cases hq
  | var path s =>
    cases hq
    rfl
  | element kind place children =>
    cases kind with
    | conditional c =>
      cases hq
      rfl
    | wrapper | sentence | list => cases hq

end Tests

end Node

namespace Render

open Node Context

variable {ctx ctx' : Context}

theorem woven_bareAll (pending : Text) (ns : List Node) :
    woven pending (bareAll ns) = woven pending ns := by
  induction ns generalizing pending with
  | nil => rfl
  | cons n ns ih =>
    cases n with
    | entry t p => rw [bareAll, bare, woven, woven, ih]
    | text raw s => exact ih _
    | element | var => exact ih _

/-- **A tree has the same faults** without its places, in every context that agrees on its
    paths. -/
theorem faults_bare (n : Node) (h : AgreeOn n.paths ctx ctx') :
    n.bare.faults ctx' = n.faults ctx := by
  rw [faults, queries_bare n h.holds, faults]
  apply List.filterMap_congr
  intro q hq
  exact Query.fault?_congr (h _ (path_mem_of_mem_queries hq))

/-- The members that a list shows. -/
theorem woven_spliceAll_bareAll (ns : List Node) (h : AgreeOn (pathsAll ns) ctx ctx') :
    woven [] (spliceAll (Condition.holds ctx') (bareAll ns)) =
      woven [] (spliceAll (Condition.holds ctx) ns) := by
  rw [spliceAll_bareAll ns h.holds, woven_bareAll]

mutual
theorem parts_bare (n : Node) (h : AgreeOn n.paths ctx ctx') : parts ctx' n.bare = parts ctx n := by
  cases n with
  | entry | text => rfl
  | var path s =>
    rw [bare, parts, parts, h path List.mem_cons_self]
  | element kind place children =>
    rw [paths_element] at h
    have hchildren : AgreeOn (pathsAll children) ctx ctx' :=
      fun path hpath => h path (List.mem_append_right _ hpath)
    have ih := partsAll_bareAll children hchildren
    cases kind with
    | list name => simp only [bare, parts, woven_spliceAll_bareAll children hchildren]
    | wrapper | sentence => simp only [bare, parts, ih]
    | conditional c =>
      have hc := h c.path (List.mem_append_left _ List.mem_cons_self)
      rw [bare, parts, parts, Condition.holds_congr hc, ih]

theorem partsAll_bareAll (ns : List Node) (h : AgreeOn (pathsAll ns) ctx ctx') :
    partsAll ctx' (bareAll ns) = partsAll ctx ns := by
  cases ns with
  | nil => rfl
  | cons n ns =>
    rw [pathsAll_cons] at h
    rw [bareAll, partsAll, partsAll,
      parts_bare n fun path hpath => h path (List.mem_append_left _ hpath),
      partsAll_bareAll ns fun path hpath => h path (List.mem_append_right _ hpath)]
end

mutual
/-- **A tree has the same passages** without its places, in every context that agrees on
    its paths. -/
theorem passages_bare (n : Node) (h : AgreeOn n.paths ctx ctx') :
    passages ctx' n.bare = passages ctx n := by
  cases n with
  | entry | text => rfl
  | var path s => rw [bare, passages, passages, h path List.mem_cons_self]
  | element kind place children =>
    rw [paths_element] at h
    have hchildren : AgreeOn (pathsAll children) ctx ctx' :=
      fun path hpath => h path (List.mem_append_right _ hpath)
    have ih := passagesAll_bareAll children hchildren
    cases kind with
    | list name => simp only [bare, passages, woven_spliceAll_bareAll children hchildren]
    | sentence => simp only [bare, passages, partsAll_bareAll children hchildren]
    | wrapper => simp only [bare, passages, ih]
    | conditional c =>
      have hc := h c.path (List.mem_append_left _ List.mem_cons_self)
      rw [bare, passages, passages, Condition.holds_congr hc, ih]

theorem passagesAll_bareAll (ns : List Node) (h : AgreeOn (pathsAll ns) ctx ctx') :
    passagesAll ctx' (bareAll ns) = passagesAll ctx ns := by
  cases ns with
  | nil => rfl
  | cons n ns =>
    rw [pathsAll_cons] at h
    rw [bareAll, passagesAll, passagesAll,
      passages_bare n fun path hpath => h path (List.mem_append_left _ hpath),
      passagesAll_bareAll ns fun path hpath => h path (List.mem_append_right _ hpath)]
end

theorem tree_congr {template : Text} {root : Node} (hparse : Node.parse template = .ok root)
    (h : AgreeOn root.paths ctx ctx') : tree ctx' root = tree ctx root := by
  have hfaults : root.faults ctx' = root.faults ctx := by
    rw [← faults_bare root (.refl _ ctx'), faults_bare root h]
  have hpassages : passages ctx' root = passages ctx root := by
    rw [← passages_bare root (.refl _ ctx'), passages_bare root h]
  rw [tree_eq hparse, tree_eq hparse, hfaults, hpassages]

/-- **Rendering reads nothing but the paths of the tree.**  Contexts that agree on these
    give the same text or the same error, and where all of them have values no path is
    unknown.  So a template without conditions and variables is the same in every
    context. -/
theorem render_of_agreeOn {template : Text} {root : Node}
    (hparse : Node.parse template = .ok root) :
    (∀ ctx ctx', AgreeOn root.paths ctx ctx' → render template ctx' = render template ctx) ∧
    (∀ ctx, (∀ path ∈ root.paths, (ctx.get? path).isSome) →
      ∀ path, render template ctx ≠ .error (.eval (.unknownPath path))) ∧
    ((∀ n ∈ root.descendants, n.isConditional = false ∧ ∀ path s, n ≠ .var path s) →
      ∀ ctx ctx', render template ctx' = render template ctx) := by
  have hagree (ctx ctx' : Context) (h : AgreeOn root.paths ctx ctx') :
      render template ctx' = render template ctx := by
    rw [render_eq hparse, render_eq hparse, tree_congr hparse h]
  refine ⟨hagree, ?_, ?_⟩
  · intro ctx hsome path herror
    rw [render_eq hparse, tree_eq hparse] at herror
    rcases hfaults : root.faults ctx with _ | ⟨e, es⟩
    · rw [hfaults] at herror
      cases herror
    · rw [hfaults] at herror
      cases herror
      have hmem : EvalError.unknownPath path ∈ root.faults ctx := by
        rw [hfaults]
        exact List.mem_cons_self
      obtain ⟨q, hq, hfault⟩ := List.mem_filterMap.1 hmem
      have hvalue := hsome q.path (path_mem_of_mem_queries hq)
      rw [Query.get?_of_fault? hfault] at hvalue
      cases hvalue
  · intro hplain ctx ctx'
    have hnone : root.paths = [] := by
      apply List.filterMap_eq_nil_iff.2
      intro n hn
      obtain ⟨hcond, hvar⟩ := hplain n hn
      cases n with
      | entry | text => rfl
      | var path s => exact absurd rfl (hvar path s)
      | element kind place children =>
        cases kind with
        | conditional c => cases hcond
        | wrapper | sentence | list => rfl
    apply hagree
    rw [hnone]
    intro path hpath
    cases hpath

/-- A door that somebody may have left open. -/
def door : Text :=
  "<s>A <var v='wood'/> door<if cond='open == true'> stands open</if>.</s>".toList

/-- The door at night, when one can see a star. -/
def atNight : Context :=
  .ofList [("wood".toList, .text "oak".toList), ("open".toList, .boolean true),
    ("stars".toList, .boolean true)]

def atNoon : Context :=
  .ofList [("wood".toList, .text "oak".toList), ("open".toList, .boolean true)]

/-- Stars make no difference for the door, and nothing does for a template that asks for
    nothing. -/
theorem render_of_agreeOn_of_door :
    (∃ root, Node.parse door = .ok root ∧ root.paths = ["wood".toList, "open".toList] ∧
      AgreeOn root.paths atNight atNoon ∧
      atNight.get? "stars".toList ≠ atNoon.get? "stars".toList ∧
      render door atNoon = render door atNight ∧
      ∀ path, render door atNoon ≠ .error (.eval (.unknownPath path))) ∧
    ∀ ctx ctx', render "<s>It is <il><item>a DOOR</item></il>.</s>".toList ctx' =
      render "<s>It is <il><item>a DOOR</item></il>.</s>".toList ctx := by
  constructor
  · obtain ⟨root, hparse, hpaths⟩ := exists_parsed door
      (fun root => root.paths = ["wood".toList, "open".toList]) (by decide +kernel)
    have hagree : AgreeOn root.paths atNight atNoon := by
      rw [hpaths, AgreeOn]
      decide +kernel
    obtain ⟨hsame, hknown, -⟩ := render_of_agreeOn hparse
    refine ⟨root, hparse, hpaths, hagree, by decide +kernel, hsame _ _ hagree, ?_⟩
    apply hknown
    rw [hpaths]
    decide +kernel
  · obtain ⟨root, hparse, hplain⟩ := exists_parsed
      "<s>It is <il><item>a DOOR</item></il>.</s>".toList
      (fun root => ∀ n ∈ root.descendants, n.ownPath? = none) (by decide +kernel)
    apply (render_of_agreeOn hparse).2.2
    intro n hn
    have hnone := hplain n hn
    cases n with
    | entry | text => exact ⟨rfl, nofun⟩
    | var path s => cases hnone
    | element kind place children =>
      cases kind with
      | conditional c => cases hnone
      | wrapper | sentence | list => exact ⟨rfl, nofun⟩

end Render

end Scenery
