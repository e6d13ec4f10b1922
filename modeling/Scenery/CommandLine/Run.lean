/-
  Scenery/CommandLine/Run.lean
  ============================
  **Carrying out commands.**  A command prints a text and perhaps a note, or it fails
  with an error, which is shown with its causes.
-/
import Scenery.CommandLine.Help
import Scenery.Content.Lint
import Scenery.ItemList.Change
import Scenery.Layout.Fill
import Scenery.Loading.Configuration

namespace Scenery.CommandLine

/-- Why a command fails. -/
inductive Failure where
  | loading (e : LoadError)
  | unknownDescription (id : Text)
  | unknownItem (id : Text)
  | rendering (e : RenderError)
  | adding (e : MarkupError)
  | removing (e : MarkupError)
  | lint (issues : Nat)
  deriving DecidableEq, Repr

/-! ### Error reports -/

/-- The messages of an error in marked-up text and of its cause. -/
def markupMessages : MarkupError → List String
  | .condition n e => [(MarkupError.condition n e).message, e.message]
  | e => [e.message]

namespace Failure

def message : Failure → String
  | .loading e => e.message
  | .unknownDescription id => "no description with id '" ++ id.toStr ++ "'"
  | .unknownItem id => "no item with id '" ++ id.toStr ++ "'"
  | .rendering _ => "while rendering"
  | .adding _ => "while adding item"
  | .removing _ => "while removing item"
  | .lint issues => "lint failed with " ++ toString issues ++ " issue(s)"

/-- The messages of what lies behind the failure, outermost first. -/
def causes : Failure → List String
  | .loading e => e.causes
  | .unknownDescription _ => []
  | .unknownItem _ => []
  | .rendering (.markup e) => markupMessages e
  | .rendering (.eval e) => [e.message]
  | .adding e => markupMessages e
  | .removing e => markupMessages e
  | .lint _ => []

end Failure

/-- A cause with something before it, its further lines indented as far. -/
def indented (start : String) (cause : String) : String :=
  let further := "\n" ++ "".pushn ' ' start.length
  start ++ further.intercalate (((cause.toList.splitOn '\n').map String.ofList))

/-- The causes of a failure; if there are several they are numbered. -/
def causeLines (causes : List String) : List String :=
  match causes with
  | [] => []
  | [cause] => ["", "Caused by:", indented "    " cause]
  | causes =>
    "" :: "Caused by:" :: (causes.zipIdx.map fun (cause, n) =>
      let number := toString n
      indented ("".pushn ' ' (5 - number.length) ++ number ++ ": ") cause)

def Failure.report (f : Failure) : Text :=
  ("\n".intercalate (("Error: " ++ f.message) :: causeLines f.causes) ++ "\n").toList

/-! ### Outcomes -/

/-- What a run of the program leaves: its exit code and what it has printed. -/
structure Outcome where
  exit : Nat := 0
  output : Text := []
  errors : Text := []
  deriving DecidableEq, Repr

def printed (lines : List Text) : Outcome := { output := lines.flatMap (· ++ ['\n']) }

def failed (f : Failure) (lines : List Text) : Outcome :=
  { printed lines with exit := 1, errors := f.report }

/-! ### Commands -/

variable {m : Type → Type} [Monad m]

def Subject.load (files : Files m) (content : Text) :
    Subject → m (Except Failure Text)
  | .template t => return .ok t
  | .description id solved => do
    match ← Content.load files content with
    | .error e => return .error (.loading e)
    | .ok c =>
      match c.description? id with
      | none => return .error (.unknownDescription id)
      | some d => return .ok (d.template solved)

/-- The context of a rendering: the sample context, if there is one, with values over
    it. -/
def contextWith (files : Files m) (context : Option Text) (values : List (Text × Value)) :
    m (Except LoadError Context) := do
  let loaded ← match context with
    | none => pure (.ok Dictionary.empty)
    | some file => Context.load files file
  return loaded.map fun ctx => ctx.merge (Dictionary.ofList values)

def runRender (files : Files m) (c : Configuration) (subject : Subject)
    (values : List (Text × Value)) : m Outcome := do
  match ← contextWith files c.context values with
  | .error e => return failed (.loading e) []
  | .ok ctx =>
    match ← subject.load files c.content with
    | .error f => return failed f []
    | .ok template =>
      match render template ctx with
      | .error e => return failed (.rendering e) []
      | .ok t => return printed [Layout.fill c.width t]

/-- A change to a template: what comes of it, or why nothing does and the template as
    it was. -/
def showChange (template : Text) (change : ListChange) : Outcome :=
  let note := match change with
    | .unchanged reason => ("unchanged: " ++ reason.message ++ "\n").toList
    | .changed _ => []
  { printed [change.templateOr template] with errors := note }

/-- Changes a list of a description, the plain template of which is meant. -/
def runChange (files : Files m) (c : Configuration) (container item : Text)
    (quantity : Quantity) (change : Text → Item → Except MarkupError ListChange)
    (failure : MarkupError → Failure) : m Outcome := do
  match ← Content.load files c.content with
  | .error e => return failed (.loading e) []
  | .ok content =>
    match content.description? container, content.item? item with
    | none, _ => return failed (.unknownDescription container) []
    | _, none => return failed (.unknownItem item) []
    | some d, some i =>
      match change d.text (i.toItem quantity) with
      | .error e => return failed (failure e) []
      | .ok change => return showChange d.text change

/-- The outcome of a check. -/
def showIssues (issues : List LintIssue) : Outcome :=
  if issues.isEmpty then printed ["content is clean".toList]
  else
    failed (.lint issues.length)
      ((toString issues.length ++ " issue(s)").toList ::
        issues.map fun i => ("  " ++ i.message).toList)

def runCheck (files : Files m) (c : Configuration) : m Outcome := do
  match ← Content.loadUnchecked files c.content with
  | .error e => return failed (.loading e) []
  | .ok content =>
    match c.context with
    | none => return showIssues (content.lint none)
    | some file =>
      match ← Context.load files file with
      | .error e => return failed (.loading e) []
      | .ok ctx => return showIssues (content.lint (some ctx))

/-- The configuration of a request. -/
def Request.settle (files : Files m) (r : Request) : m Configuration := do
  let file ← match r.configuration with
    | some file => pure file
    | none => Configuration.defaultFile files
  let c ← Configuration.load files file
  return { c with content := r.content.getD c.content, context := r.context.or c.context }

def Request.run (files : Files m) (r : Request) : m Outcome := do
  let c ← r.settle files
  match r.command with
  | .render subject values => runRender files c subject values
  | .addItem container item quantity list =>
    runChange files c container item quantity (ListChange.add · · list) .adding
  | .removeItem container item quantity list =>
    runChange files c container item quantity (ListChange.remove · · list) .removing
  | .check => runCheck files c

def run (files : Files m) (args : List Text) : m Outcome :=
  match read args with
  | .request r => r.run files
  | .help none => return printed [programHelp.toList]
  | .help (some f) => return printed [f.help.toList]
  | .version => return printed [programVersion.toList]
  | .usage => return { exit := 2, errors := (usageLine ++ "\n").toList }

end Scenery.CommandLine
