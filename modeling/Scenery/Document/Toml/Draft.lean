/-
  Scenery/Document/Toml/Draft.lean
  ================================
  **Tables in the making.**  Headers and keys may add to a table long after it was
  begun, but not to every table: what may be added depends on how the table came
  about.  A draft remembers that (`Origin`); `Members.define`, `Members.openTable`
  and `Members.appendTable` are the three ways to add to a draft.
-/
import Scenery.Dictionary
import Scenery.Document.Toml.Basic

namespace Scenery.Toml

/-- How a table came about. -/
inductive Origin where
  /-- It has a header, or is the document or an inline table. -/
  | header
  /-- A header below it mentions it. -/
  | mentioned
  /-- Dotted keys define it. -/
  | dotted
  deriving DecidableEq, Repr

/-- What a key of a table in the making stands for. -/
inductive Draft where
  | value (v : Toml)
  | table (origin : Origin) (members : List (Text × Draft))
  /-- An array of tables, the last of which can still be added to. -/
  | tables (last : List (Text × Draft)) (earlier : List (List (Text × Draft)))

/-- The members of a table in the making, in ascending order of their keys. -/
abbrev Members := List (Text × Draft)

namespace Members

def put (key : Text) (d : Draft) (members : Members) : Members :=
  Dictionary.insertInto key d members

/-- Changes the table that a path leads to; of an array of tables the path takes the
    last.  Tables that are missing on the way are made with the origin `made`.
    Dotted keys do not lead into tables with a header. -/
def change (made : Origin) (f : Origin → Members → Option Members) :
    List Text → Origin → Members → Option Members
  | [], origin, members => f origin members
  | key :: path, _, members =>
    match members.lookup key with
    | none => (change made f path made []).map fun inner => put key (.table made inner) members
    | some (.value _) => none
    | some (.table origin inner) =>
      if made = .dotted ∧ origin = .header then none
      else (change made f path origin inner).map fun inner =>
        put key (.table origin inner) members
    | some (.tables last earlier) =>
      (change made f path .header last).map fun last => put key (.tables last earlier) members

/-- Changes the table that contains the end of a path. -/
def changeParent (made : Origin) (f : List Text → Text → Origin → Members → Option Members)
    (path : List Text) (origin : Origin) (members : Members) : Option Members :=
  match path.getLast? with
  | none => none
  | some key => change made (f path.dropLast key) path.dropLast origin members

/-- Gives a value to a key, which a table has only once.  The table is defined by
    dotted keys if and only if the key is dotted itself. -/
def defineKey (v : Toml) (path : List Text) (key : Text) (origin : Origin)
    (members : Members) : Option Members :=
  if path = [] ↔ origin = .dotted then none
  else if (members.lookup key).isSome then none
  else some (put key (.value v) members)

/-- Gives a value to a dotted key. -/
def define (path : List Text) (v : Toml) (origin : Origin) (members : Members) :
    Option Members :=
  changeParent .dotted (defineKey v) path origin members

/-- Begins a table with a header, which it must not have yet. -/
def openTable (path : List Text) (members : Members) : Option Members :=
  changeParent .mentioned (fun _ key _ members =>
    match members.lookup key with
    | none => some (put key (.table .header []) members)
    | some (.table .mentioned inner) => some (put key (.table .header inner) members)
    | some _ => none) path .header members

/-- Begins one more table of an array. -/
def appendTable (path : List Text) (members : Members) : Option Members :=
  changeParent .mentioned (fun _ key _ members =>
    match members.lookup key with
    | none => some (put key (.tables [] []) members)
    | some (.tables last earlier) => some (put key (.tables [] (last :: earlier)) members)
    | some _ => none) path .header members

end Members

mutual
/-- The finished value of a draft. -/
def Draft.toToml : Draft → Toml
  | .value v => v
  | .table _ members => .table (membersToToml members)
  | .tables last earlier =>
    .array ((tablesToToml earlier).reverse ++ [.table (membersToToml last)])

def membersToToml : List (Text × Draft) → List (Text × Toml)
  | [] => []
  | (key, d) :: members => (key, d.toToml) :: membersToToml members

def tablesToToml : List (List (Text × Draft)) → List Toml
  | [] => []
  | members :: tables => .table (membersToToml members) :: tablesToToml tables
end

end Scenery.Toml
