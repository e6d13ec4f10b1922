/-
  Scenery/Content/Lint.lean
  =========================
  **Checking content as a whole**: it is valid, every template parses, every
  placement finds its list, and, given a sample context, every template renders.
-/
import Scenery.Content.Validation
import Scenery.Render

namespace Scenery

/-- A template of a description. -/
structure TemplateName where
  kind : EntityKind
  id : Text
  solved : Bool
  deriving DecidableEq, Repr

def TemplateName.label (t : TemplateName) : String :=
  t.kind.name ++ " '" ++ t.id.toStr ++ "'" ++ (if t.solved then " (solved)" else "")

/-- What a check can find. -/
inductive LintIssue where
  | content (e : ContentError)
  | markup (template : TemplateName) (e : MarkupError)
  | unknownPath (template : TemplateName) (path : Text)
  | render (template : TemplateName) (e : EvalError)
  | missingList (container list item : Text)
  | noList (container item : Text)
  deriving DecidableEq, Repr

def LintIssue.message : LintIssue → String
  | .content e => e.message
  | .markup t e => t.label ++ ": " ++ e.message
  | .unknownPath t path =>
    t.label ++ ": reads unknown context path '" ++ path.toStr ++ "'"
  | .render t e => t.label ++ ": " ++ e.message
  | .missingList container list item =>
    "placement of '" ++ item.toStr ++ "' targets list '" ++ list.toStr ++ "', which '" ++
      container.toStr ++ "' does not have"
  | .noList container item =>
    "placement of '" ++ item.toStr ++ "' targets '" ++ container.toStr ++
      "', whose description has no item list"

namespace Content

/-- Texts in ascending order, each once. -/
def distinct (ts : List Text) : List Text :=
  (Dictionary.ofList (ts.map fun t => (t, ()))).entries.map (·.1)

/-- The issues of a tree in a context.  Unknown paths are all reported, also from
    branches that are not taken; only a tree without them is rendered. -/
def contextIssues (ctx : Context) (name : TemplateName) (root : Node) : List LintIssue :=
  match distinct (root.paths.filter fun p => !ctx.contains p) with
  | [] =>
    match Render.tree ctx root with
    | .ok _ => []
    | .error e => [.render name e]
  | unknown => unknown.map (.unknownPath name)

def templateIssues (ctx : Option Context) (name : TemplateName) (template : Text) :
    List LintIssue :=
  match Node.parse template with
  | .error e => [.markup name e]
  | .ok root =>
    match ctx with
    | none => []
    | some ctx => contextIssues ctx name root

def descriptionIssues (ctx : Option Context) (d : Description) : List LintIssue :=
  d.templates.flatMap fun (solved, template) => templateIssues ctx ⟨d.kind, d.id, solved⟩ template

def parsedTemplates (d : Description) : List Node :=
  d.templates.filterMap fun (_, template) => (Node.parse template).toOption

/-- A tree has a list with a name, in whatever case of ASCII letters. -/
def hasListNamed (wanted : Text) (root : Node) : Bool :=
  root.listNames.any fun name => Text.asciiLower name == Text.asciiLower wanted

/-- An issue if no template of the container has the list that a placement is for. -/
def placementIssues (c : Content) (p : Placement) : List LintIssue :=
  match c.description? p.container with
  | none => []
  | some container =>
    let roots := parsedTemplates container
    if roots.isEmpty then []
    else
      match p.list.bind Text.trimmed? with
      | some wanted =>
        if roots.any (hasListNamed wanted) then []
        else [.missingList container.id wanted p.item]
      | none =>
        if roots.any fun root => !root.lists.isEmpty then []
        else [.noList container.id p.item]

/-- Everything that a check finds, in the order of the content. -/
def lint (c : Content) (ctx : Option Context) : List LintIssue :=
  c.validate.map .content ++ c.descriptions.flatMap (descriptionIssues ctx) ++
    c.placements.flatMap (placementIssues c)

end Content

end Scenery
