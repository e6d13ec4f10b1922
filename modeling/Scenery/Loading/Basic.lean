/-
  Scenery/Loading/Basic.lean
  ==========================
  **Loading contexts and content** from files.  An error names the file and what was
  done with it; what lies behind it is its cause.
-/
import Scenery.Content.OfRon
import Scenery.Content.Validation
import Scenery.Document.Tree
import Scenery.Storage.Files

namespace Scenery

/-- What a file is loaded for. -/
inductive LoadError.Kind where
  | context
  | content
  | configuration
  deriving DecidableEq, Repr

/-- Why something cannot be loaded. -/
inductive LoadError where
  | unreadable (kind : LoadError.Kind) (file : Text) (cause : FileError)
  | malformed (kind : LoadError.Kind) (file : Text) (cause : Option DocumentError)
  | unknownFormat (file : Text)
  | invalid (errors : List ContentError)
  deriving DecidableEq, Repr

namespace LoadError

/-- What is read from a file. -/
def Kind.name : Kind → String
  | .context => "context"
  | .content => "content"
  | .configuration => "configuration"

/-- What a file is parsed as. -/
def Kind.document : Kind → String
  | .context => "context"
  | .content => "content RON"
  | .configuration => "configuration"

def message : LoadError → String
  | .unreadable kind file _ => "reading " ++ kind.name ++ " from '" ++ file.toStr ++ "'"
  | .malformed kind file _ => "parsing " ++ kind.document ++ " from '" ++ file.toStr ++ "'"
  | .unknownFormat file => "context file '" ++ file.toStr ++ "' must end in .json or .toml"
  | .invalid errors =>
    "content validation failed:\n" ++ "\n".intercalate (errors.map fun e => "- " ++ e.message)

/-- The messages of what lies behind the error. -/
def causes : LoadError → List String
  | .unreadable _ _ cause => [cause.message]
  | .malformed _ _ cause => (cause.map DocumentError.message).toList
  | .unknownFormat _ => []
  | .invalid _ => []

end LoadError

variable {m : Type → Type} [Monad m]

/-- The text of a file that is loaded. -/
def Files.load (files : Files m) (kind : LoadError.Kind) (file : Text) :
    m (Except LoadError Text) := do
  match ← files.read file with
  | .error e => return .error (.unreadable kind file e)
  | .ok t => return .ok t

namespace Context

/-- The context in a file's text, whose format the file's extension tells. -/
def ofFile (file t : Text) : Except LoadError Context :=
  let read? : Option (Text → Except DocumentError Context) :=
    match (Location.extension? file).map Text.toStr with
    | some "json" => some ofJson
    | some "toml" => some ofToml
    | _ => none
  match read? with
  | none => .error (.unknownFormat file)
  | some read => (read t).mapError fun e => .malformed .context file (some e)

def load (files : Files m) (file : Text) : m (Except LoadError Context) := do
  return (← files.load .context file).bind (ofFile file)

end Context

namespace Content

def loadUnchecked (files : Files m) (file : Text) : m (Except LoadError Content) := do
  return (← files.load .content file).bind fun t =>
    match read? t with
    | none => .error (.malformed .content file none)
    | some c => .ok c

def load (files : Files m) (file : Text) : m (Except LoadError Content) := do
  return (← loadUnchecked files file).bind fun c =>
    if c.validate.isEmpty then .ok c else .error (.invalid c.validate)

end Content

end Scenery
