/-
  Scenery/Proofs/Content/Clean.lean
  =================================
  **Checked content renders.**  The check of content looks at the paths of every template,
  also in branches that a context does not take, and renders the templates whose paths are
  all known.  Rendering asks for no other paths, so what it reports of such a template is
  a comparison of values that do not go together (`Render.ofComparison_of_tree`).

  The check of a tree is also written out with an answer to every error that rendering can
  give (`Content.nodeIssues`).  It comes to the same: a tree is there because its template
  was read, and no fault of markup is found afterwards
  (`Content.markup_mem_templateIssues_iff`).
  The main statement is `Content.render_of_lint`.
-/
import Scenery.Content.Lint
import Scenery.Proofs.Render.Questions

namespace Scenery

/-! ### Keys of dictionaries -/

namespace Dictionary

variable {α : Type}

theorem insert_ne_nil (d : Dictionary α) (key : Text) (value : α) :
    (d.insert key value).entries ≠ [] := by
  have hne (entries : List (Text × α)) : insertInto key value entries ≠ [] := by
    cases entries with
    | nil => simp [insertInto]
    | cons entry rest =>
      rw [insertInto]
      split
      · simp
      · split <;> simp
  exact hne d.entries

theorem foldl_insert_ne_nil {d : Dictionary α} (h : d.entries ≠ []) (entries : List (Text × α)) :
    (entries.foldl (fun d e => d.insert e.1 e.2) d).entries ≠ [] := by
  induction entries generalizing d with
  | nil => exact h
  | cons e entries ih => exact ih (insert_ne_nil d e.1 e.2)

end Dictionary

theorem Content.distinct_eq_nil_iff {ts : List Text} : distinct ts = [] ↔ ts = [] := by
  constructor
  · intro h
    cases ts with
    | nil => rfl
    | cons t ts =>
      have hentries := List.map_eq_nil_iff.1 h
      exact absurd hentries (Dictionary.foldl_insert_ne_nil (Dictionary.insert_ne_nil _ t ()) _)
  · rintro rfl
    rfl

/-! ### Trees whose paths are known -/

/-- The errors of comparing a value that is there. -/
inductive EvalError.OfComparison : EvalError → Prop
  | typeMismatch (path : Text) (expected found : Value.Kind) :
    OfComparison (.typeMismatch path expected found)
  | unordered (path : Text) (operator : Operator) (kind : Value.Kind) :
    OfComparison (.unordered path operator kind)

theorem Query.ofComparison {q : Query} {ctx : Context} (hq : ctx.contains q.path) {e : EvalError}
    (h : q.fault? ctx = some e) : e.OfComparison := by
  cases e with
  | unknownPath path =>
    rw [Dictionary.contains, Query.get?_of_fault? h] at hq
    cases hq
  | typeMismatch path expected found => exact .typeMismatch path expected found
  | unordered path operator kind => exact .unordered path operator kind

namespace Render

/-- A tree with known paths fails to render only where a comparison fails. -/
theorem ofComparison_of_tree {template : Text} {root : Node}
    (hparse : Node.parse template = .ok root) {ctx : Context}
    (hknown : ∀ path ∈ root.paths, ctx.contains path) {e : EvalError}
    (h : tree ctx root = .error e) : e.OfComparison := by
  rw [tree_eq hparse] at h
  rcases hfaults : root.faults ctx with _ | ⟨fault, more⟩
  · rw [hfaults] at h
    cases h
  · rw [hfaults] at h
    cases h
    have hmem : e ∈ root.faults ctx := by
      rw [hfaults]
      exact List.mem_cons_self
    obtain ⟨q, hq, hfault⟩ := List.mem_filterMap.1 hmem
    exact Query.ofComparison (hknown _ (Node.path_mem_of_mem_queries hq)) hfault

/-- Rendering a tree, as the last part of rendering a template. -/
def outcome (ctx : Context) (root : Node) : Except RenderError Text :=
  (tree ctx root).mapError .eval

theorem outcome_ne_markup (ctx : Context) (root : Node) (e : MarkupError) :
    outcome ctx root ≠ .error (.markup e) := by
  rw [outcome]
  rcases tree ctx root with fault | text
  · nofun
  · nofun

end Render

namespace Content

/-! ### The check of a tree -/

/-- The paths of a tree that a context does not know. -/
def unknownPaths (ctx : Context) (root : Node) : List Text :=
  distinct (root.paths.filter fun p => !ctx.contains p)

/-- The issues of a tree, with an answer to every error of rendering. -/
def nodeIssues (ctx : Context) (name : TemplateName) (root : Node) : List LintIssue :=
  match unknownPaths ctx root with
  | [] =>
    match Render.outcome ctx root with
    | .ok _ => []
    | .error (.eval e) => [.render name e]
    | .error (.markup e) => [.markup name e]
  | unknown => unknown.map (.unknownPath name)

theorem contextIssues_eq (ctx : Context) (name : TemplateName) (root : Node) :
    contextIssues ctx name root = nodeIssues ctx name root := by
  rw [contextIssues, nodeIssues, unknownPaths, Render.outcome]
  rcases Render.tree ctx root with e | text <;> rfl

theorem contains_of_unknownPaths {ctx : Context} {root : Node} (h : unknownPaths ctx root = []) :
    ∀ path ∈ root.paths, ctx.contains path := by
  intro path hpath
  have hnone := List.filter_eq_nil_iff.1 (distinct_eq_nil_iff.1 h) path hpath
  simpa using hnone

/-- A tree is rendered where the context knows its paths, and reported as it fails. -/
theorem contextIssues_cases (ctx : Context) (name : TemplateName) (root : Node) :
    (∃ unknown, unknown ≠ [] ∧
      contextIssues ctx name root = unknown.map (.unknownPath name)) ∨
    (∃ text, Render.tree ctx root = .ok text ∧ contextIssues ctx name root = []) ∨
    (∃ e, (∀ path ∈ root.paths, ctx.contains path) ∧ Render.tree ctx root = .error e ∧
      contextIssues ctx name root = [.render name e]) := by
  rw [contextIssues]
  rcases hunknown : distinct (root.paths.filter fun p => !ctx.contains p) with _ | ⟨path, more⟩
  · rcases htree : Render.tree ctx root with e | text
    · exact .inr (.inr ⟨e, contains_of_unknownPaths hunknown, rfl, rfl⟩)
    · exact .inr (.inl ⟨text, rfl, rfl⟩)
  · exact .inl ⟨path :: more, by simp, rfl⟩

/-! ### The check of content -/

theorem render_of_templateIssues {ctx : Context} {name : TemplateName} {template : Text}
    (h : templateIssues (some ctx) name template = []) :
    ∃ text, render template ctx = .ok text := by
  rcases hparse : Node.parse template with e | root
  · rw [templateIssues, hparse] at h
    cases h
  · rw [templateIssues, hparse] at h
    obtain ⟨unknown, hne, hissues⟩ | ⟨text, htree, -⟩ | ⟨e, -, -, hissues⟩ :=
      contextIssues_cases ctx name root
    · exact absurd (List.map_eq_nil_iff.1 (hissues.symm.trans h)) hne
    · exact ⟨text, by rw [Render.render_eq hparse, htree]; rfl⟩
    · cases hissues.symm.trans h

theorem ofComparison_of_mem_templateIssues {ctx : Context} {name name' : TemplateName}
    {template : Text} {e : EvalError}
    (h : .render name' e ∈ templateIssues (some ctx) name template) : e.OfComparison := by
  rcases hparse : Node.parse template with fault | root
  · simp [templateIssues, hparse] at h
  · simp only [templateIssues, hparse] at h
    obtain ⟨unknown, -, hissues⟩ | ⟨text, -, hissues⟩ | ⟨e', hknown, htree, hissues⟩ :=
      contextIssues_cases ctx name root
    · simp [hissues] at h
    · simp [hissues] at h
    · rw [hissues, List.mem_singleton] at h
      cases h
      exact Render.ofComparison_of_tree hparse hknown htree

theorem markup_mem_templateIssues_iff {ctx : Option Context} {name name' : TemplateName}
    {template : Text} {e : MarkupError} :
    .markup name' e ∈ templateIssues ctx name template ↔
      name' = name ∧ Node.parse template = .error e := by
  rcases hparse : Node.parse template with fault | root
  · simp [templateIssues, hparse, eq_comm]
  · simp only [templateIssues, hparse, reduceCtorEq, and_false, iff_false]
    cases ctx with
    | none => nofun
    | some ctx =>
      obtain ⟨unknown, -, hissues⟩ | ⟨text, -, hissues⟩ | ⟨e', -, -, hissues⟩ :=
        contextIssues_cases ctx name root
      · simp [hissues]
      · simp [hissues]
      · simp [hissues]

end Content

/-- The template that an issue is about. -/
def LintIssue.template? : LintIssue → Option TemplateName
  | .markup name _ | .unknownPath name _ | .render name _ => some name
  | .content _ | .missingList _ _ _ | .noList _ _ => none

namespace Content

theorem template?_of_mem_placementIssues {c : Content} {p : Placement} {issue : LintIssue}
    (h : issue ∈ placementIssues c p) : issue.template? = none := by
  rw [placementIssues] at h
  split at h
  · cases h
  · simp only at h
    split at h
    · cases h
    · split at h
      · split at h
        · cases h
        · rw [List.mem_singleton.1 h]
          rfl
      · split at h
        · cases h
        · rw [List.mem_singleton.1 h]
          rfl

/-- An issue of a template is one of a template of a description. -/
theorem mem_lint_iff {c : Content} {ctx : Option Context} {issue : LintIssue}
    (h : issue.template? ≠ none) :
    issue ∈ c.lint ctx ↔
      ∃ d ∈ c.descriptions, ∃ t ∈ d.templates,
        issue ∈ templateIssues ctx ⟨d.kind, d.id, t.1⟩ t.2 := by
  have hcontent : issue ∉ c.validate.map LintIssue.content := by
    intro hmem
    obtain ⟨e, -, rfl⟩ := List.mem_map.1 hmem
    exact h rfl
  have hplacements : issue ∉ c.placements.flatMap (placementIssues c) := by
    intro hmem
    obtain ⟨p, -, hp⟩ := List.mem_flatMap.1 hmem
    exact h (template?_of_mem_placementIssues hp)
  simp only [lint, List.mem_append, hcontent, hplacements, false_or, or_false, List.mem_flatMap,
    descriptionIssues]

theorem exists_mem_templates (d : Description) (solved : Bool) :
    ∃ state, (state, d.template solved) ∈ d.templates := by
  rcases h : d.solvedText with _ | t
  · exact ⟨false, by simp [Description.template, Description.templates, h]⟩
  · cases solved with
    | false => exact ⟨false, by simp [Description.template, Description.templates, h]⟩
    | true => exact ⟨true, by simp [Description.template, Description.templates, h]⟩

/-- **Content without issues renders**, every description in both states.  What rendering
    adds to the issues are comparisons that fail, and faults of markup are those of reading
    the templates: none is left for rendering to find. -/
theorem render_of_lint (c : Content) (ctx : Context) :
    (c.lint (some ctx) = [] →
      ∀ d ∈ c.descriptions, ∀ solved, ∃ text, render (d.template solved) ctx = .ok text) ∧
    (∀ name e, .render name e ∈ c.lint (some ctx) → e.OfComparison) ∧
    (∀ name root, contextIssues ctx name root = nodeIssues ctx name root ∧
      ∀ e, Render.outcome ctx root ≠ .error (.markup e)) ∧
    ∀ name e, .markup name e ∈ c.lint (some ctx) ↔
      ∃ d ∈ c.descriptions, ∃ t ∈ d.templates,
        name = ⟨d.kind, d.id, t.1⟩ ∧ Node.parse t.2 = .error e := by
  refine ⟨?_, ?_, ?_, ?_⟩
  · intro hclean d hd solved
    obtain ⟨state, hmem⟩ := exists_mem_templates d solved
    rw [lint, List.append_eq_nil_iff, List.append_eq_nil_iff] at hclean
    have hdescription := List.flatMap_eq_nil_iff.1 hclean.1.2 d hd
    exact render_of_templateIssues (List.flatMap_eq_nil_iff.1 hdescription _ hmem)
  · intro name e hmem
    obtain ⟨d, -, t, -, hissue⟩ := (mem_lint_iff (by nofun)).1 hmem
    exact ofComparison_of_mem_templateIssues hissue
  · intro name root
    exact ⟨contextIssues_eq ctx name root, Render.outcome_ne_markup ctx root⟩
  · intro name e
    rw [mem_lint_iff (by nofun)]
    simp only [markup_mem_templateIssues_iff]

/-- A safe whose text can be read by day. -/
def vault : Content :=
  { descriptions := [⟨"safe".toList, .puzzle, "<s>The dial reads <var v='code'/>.</s>".toList,
      some "<s>Inside<if cond='lamp == true'> and well lit</if> is <il></il>a note.</s>".toList⟩] }

def byDay : Context :=
  .ofList [("code".toList, .text "1234".toList), ("lamp".toList, .boolean true)]

/-- Here the lamp is no yes or no. -/
def atDusk : Context :=
  .ofList [("code".toList, .text "1234".toList), ("lamp".toList, .text "dim".toList)]

theorem render_of_lint_of_vault :
    (vault.lint (some byDay) = [] ∧
      ∀ d ∈ vault.descriptions, ∀ solved, ∃ text, render (d.template solved) byDay = .ok text) ∧
    vault.lint (some atDusk) =
        [.render ⟨.puzzle, "safe".toList, true⟩ (.typeMismatch "lamp".toList .boolean .string)] ∧
      EvalError.OfComparison (.typeMismatch "lamp".toList .boolean .string) := by
  have hday : vault.lint (some byDay) = [] := by decide +kernel
  have hdusk : vault.lint (some atDusk) =
      [.render ⟨.puzzle, "safe".toList, true⟩ (.typeMismatch "lamp".toList .boolean .string)] := by
    decide +kernel
  refine ⟨⟨hday, (render_of_lint vault byDay).1 hday⟩, hdusk, ?_⟩
  apply (render_of_lint vault atDusk).2.1 ⟨.puzzle, "safe".toList, true⟩
  rw [hdusk]
  exact List.mem_singleton.2 rfl

end Content

end Scenery
