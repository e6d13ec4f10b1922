/-
  Scenery/Document/Tree.lean
  ==========================
  **Context documents.**  Whatever its format, a document is a tree of tables with
  values at the leaves.  Flattening it gives every leaf the path of the keys that
  lead to it.  Only arrays cannot be flattened.
-/
import Scenery.Context
import Scenery.Document.Json
import Scenery.Document.Toml.Reading

namespace Scenery

/-- A document as a context sees it. -/
inductive Tree where
  | nothing
  | leaf (v : Value)
  | array
  | table (members : List (Text × Tree))
  deriving Repr

/-- Why a document makes no context. -/
inductive DocumentError where
  | json
  | toml
  | notATable
  | unsupportedArray (path : Text)
  deriving DecidableEq, Repr

def DocumentError.message : DocumentError → String
  | .json => "invalid JSON context"
  | .toml => "invalid TOML context"
  | .notATable => "context root must be a table/object"
  | .unsupportedArray path => "unsupported array value at '" ++ path.toStr ++ "'"

namespace Tree

mutual
/-- Adds the leaves of a tree that stands at a path. -/
def flattenInto (ctx : Context) (path : Text) : Tree → Except DocumentError Context
  | .nothing => .ok ctx
  | .leaf v => .ok (ctx.insert path v)
  | .array => .error (.unsupportedArray path)
  | .table members => flattenMembers ctx (path ++ ['.']) members

/-- Adds the leaves of the members of a table, `stem` being what comes before their
    keys. -/
def flattenMembers (ctx : Context) (stem : Text) :
    List (Text × Tree) → Except DocumentError Context
  | [] => .ok ctx
  | (key, t) :: members =>
    match flattenInto ctx (stem ++ key) t with
    | .error e => .error e
    | .ok ctx => flattenMembers ctx stem members
end

def toContext : Tree → Except DocumentError Context
  | .table members => flattenMembers Dictionary.empty [] members
  | _ => .error .notATable

end Tree

namespace Json

mutual
/-- A JSON value as a tree. -/
def toTree : Json → Tree
  | .null => .nothing
  | .boolean b => .leaf (.boolean b)
  | .number n => .leaf (.number n.toNumber)
  | .string t => .leaf (.text t)
  | .array _ => .array
  | .object members => .table (membersToTree members)

def membersToTree : List (Text × Json) → List (Text × Tree)
  | [] => []
  | (key, v) :: members => (key, toTree v) :: membersToTree members
end

end Json

namespace Toml

mutual
/-- A TOML value as a tree; a moment is its text. -/
def toTree : Toml → Tree
  | .boolean b => .leaf (.boolean b)
  | .integer i => .leaf (.number (Number.ofInt i))
  | .real n => .leaf (.number n)
  | .string t => .leaf (.text t)
  | .moment m => .leaf (.text m.text)
  | .array _ => .array
  | .table members => .table (membersToTree members)

def membersToTree : List (Text × Toml) → List (Text × Tree)
  | [] => []
  | (key, v) :: members => (key, toTree v) :: membersToTree members
end

end Toml

namespace Context

def ofJson (t : Text) : Except DocumentError Context :=
  match Json.read? t with
  | none => .error .json
  | some v => v.toTree.toContext

def ofToml (t : Text) : Except DocumentError Context :=
  match Toml.read? t with
  | none => .error .toml
  | some members => (Toml.table members).toTree.toContext

end Context

end Scenery
