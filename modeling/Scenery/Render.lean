/-
  Scenery/Render.lean
  ===================
  **Rendering**: the text of a template in a context.  Sentences are trimmed and
  joined by single spaces.  A sentence with a list that has no members is left out,
  and text outside of sentences makes units of its own.
-/
import Scenery.Condition.Evaluation
import Scenery.Markup.Tree
import Scenery.Prose.Enumeration

namespace Scenery

/-- Why a template has no text in a context. -/
inductive RenderError where
  | markup (e : MarkupError)
  | eval (e : EvalError)
  deriving DecidableEq, Repr

def RenderError.message : RenderError → String
  | .markup e => e.message
  | .eval e => e.message

namespace Render

/-- Members found so far, and the text since the last entry. -/
structure Gathered where
  members : List Text := []
  loose : Text := []

namespace Gathered

/-- The members with the phrases of the text since the last entry. -/
def all (g : Gathered) : List Text := g.members ++ Prose.split g.loose

/-- Takes an entry, which ends the text before it.  A blank entry is no member. -/
def entry (g : Gathered) (t : Text) : Gathered :=
  ⟨g.all ++ (Text.trimmed? t).toList, []⟩

def text (g : Gathered) (t : Text) : Gathered := { g with loose := g.loose ++ t }

end Gathered

mutual
/-- Gathers the members of one node of a list. -/
def gather (ctx : Context) (g : Gathered) : Node → Except EvalError Gathered
  | .element kind _ children =>
    match kind with
    | .conditional c =>
      match c.eval ctx with
      | .error e => .error e
      | .ok true => gatherAll ctx g children
      | .ok false => .ok g
    | _ => .ok g
  | .entry t _ => .ok (g.entry t)
  | .text raw _ => .ok (g.text raw)
  | .var _ _ => .ok g

def gatherAll (ctx : Context) (g : Gathered) : List Node → Except EvalError Gathered
  | [] => .ok g
  | n :: ns =>
    match gather ctx g n with
    | .error e => .error e
    | .ok g => gatherAll ctx g ns
end

def listMembers (ctx : Context) (children : List Node) : Except EvalError (List Text) :=
  match gatherAll ctx {} children with
  | .error e => .error e
  | .ok g => .ok g.all

/-- The text of nodes inside a sentence, and whether every list in it has members. -/
structure Inline where
  text : Text := []
  keep : Bool := true

/-- One text after the other; both have to be kept. -/
def Inline.append (a b : Inline) : Inline := ⟨a.text ++ b.text, a.keep && b.keep⟩

mutual
def inline (ctx : Context) : Node → Except EvalError Inline
  | .element kind _ children =>
    match kind with
    | .conditional c =>
      match c.eval ctx with
      | .error e => .error e
      | .ok true => inlineAll ctx children
      | .ok false => .ok {}
    | .list _ =>
      match listMembers ctx children with
      | .error e => .error e
      | .ok [] => .ok ⟨[], false⟩
      | .ok members => .ok ⟨Prose.join members, true⟩
    | .wrapper => inlineAll ctx children
    | .sentence => inlineAll ctx children
  | .entry t _ => .ok ⟨t, true⟩
  | .var path _ =>
    match ctx.get? path with
    | some v => .ok ⟨v.display, true⟩
    | none => .error (.unknownPath path)
  | .text raw _ => .ok ⟨raw, true⟩

def inlineAll (ctx : Context) : List Node → Except EvalError Inline
  | [] => .ok {}
  | n :: ns =>
    match inline ctx n with
    | .error e => .error e
    | .ok a =>
      match inlineAll ctx ns with
      | .error e => .error e
      | .ok b => .ok (a.append b)
end

/-- Units of output: the finished ones, and the text outside of sentences since. -/
structure Units where
  finished : List Text := []
  pending : Text := []

namespace Units

/-- The units with the pending text as one more, if it is more than blanks. -/
def all (u : Units) : List Text := u.finished ++ (Text.trimmed? u.pending).toList

/-- Takes a sentence.  One that is left out still ends the text before it. -/
def sentence (u : Units) (s : Inline) : Units :=
  ⟨u.all ++ (if s.keep then Text.trimmed? s.text else none).toList, []⟩

/-- Takes what stands outside of sentences. -/
def outside (u : Units) (s : Inline) : Units :=
  if s.keep then { u with pending := u.pending ++ s.text } else u

end Units

mutual
/-- Takes one node outside of sentences. -/
def collect (ctx : Context) (u : Units) : Node → Except EvalError Units
  | .element kind place children =>
    match kind with
    | .wrapper => collectAll ctx u children
    | .conditional c =>
      match c.eval ctx with
      | .error e => .error e
      | .ok true => collectAll ctx u children
      | .ok false => .ok u
    | .sentence => (inlineAll ctx children).map u.sentence
    | .list name => (inline ctx (.element (.list name) place children)).map u.outside
  | .entry t p => (inline ctx (.entry t p)).map u.outside
  | .var p s => (inline ctx (.var p s)).map u.outside
  | .text t s => (inline ctx (.text t s)).map u.outside

def collectAll (ctx : Context) (u : Units) : List Node → Except EvalError Units
  | [] => .ok u
  | n :: ns =>
    match collect ctx u n with
    | .error e => .error e
    | .ok u => collectAll ctx u ns
end

def units (ctx : Context) (root : Node) : Except EvalError (List Text) :=
  (collect ctx {} root).map Units.all

def tree (ctx : Context) (root : Node) : Except EvalError Text :=
  (units ctx root).map fun us => [' '].intercalate us

end Render

def render (template : Text) (ctx : Context) : Except RenderError Text :=
  match Node.parse template with
  | .error e => .error (.markup e)
  | .ok root =>
    match Render.tree ctx root with
    | .error e => .error (.eval e)
    | .ok t => .ok t

def evaluate (expr : Text) (ctx : Context) : Except RenderError Bool :=
  match Condition.read expr with
  | .error e => .error (.markup (.condition 0 e))
  | .ok c =>
    match c.eval ctx with
    | .error e => .error (.eval e)
    | .ok b => .ok b

end Scenery
