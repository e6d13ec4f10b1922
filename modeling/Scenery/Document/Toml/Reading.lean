/-
  Scenery/Document/Toml/Reading.lean
  ==================================
  **TOML documents.**  A document is a run of statements, one a line: headers and
  keys with values.  They are read first and then carried out on a draft of the
  document.  Arrays and inline tables can be nested so many levels deep, and so
  many keys joined to one dotted key, as `nestingLimit` says.
-/
import Scenery.Document.Toml.Draft
import Scenery.Document.Toml.Scalar

namespace Scenery.Toml

/-- Fewer levels and fewer keys than this are allowed. -/
def nestingLimit : Nat := 80

/-! ### Keys -/

/-- Characters of a key without quotes. -/
def isBare (c : Char) : Bool := c.isAlphanum || c == '-' || c == '_'

/-- One key of a dotted key. -/
def readKey? : Text → Option (Text × Text)
  | '"' :: t => readQuoted? t
  | '\'' :: t => readLiteral? t
  | t =>
    let key := t.takeWhile isBare
    if key.isEmpty then none else some (key, t.dropWhile isBare)

/-- A dotted key, with gaps around its keys. -/
def readKeys? (t : Text) : Option (List Text × Text) :=
  match readKey? (t.dropWhile isGap) with
  | none => none
  | some (key, rest) =>
    match rest.dropWhile isGap with
    | '.' :: rest =>
      if rest.length < t.length then (readKeys? rest).map fun (keys, rest) => (key :: keys, rest)
      else none
    | rest => some ([key], rest)
termination_by t.length

/-- A dotted key of allowed length. -/
def readPath? (t : Text) : Option (List Text × Text) :=
  match readKeys? t with
  | some (keys, rest) => if keys.length < nestingLimit then some (keys, rest) else none
  | none => none

/-! ### Values -/

/-- A text without the gaps, line ends and comments at its start.  A comment has to
    be followed by a line end. -/
def skipLines? (t : Text) : Option Text :=
  match t.dropWhile isGap with
  | '#' :: s =>
    match afterNewline? (s.dropWhile isPrintable) with
    | none => none
    | some rest => if rest.length < t.length then skipLines? rest else none
  | s =>
    match afterNewline? s with
    | none => some s
    | some rest => if rest.length < t.length then skipLines? rest else none
termination_by t.length

/-- The items of an array, behind its bracket. -/
def readItems? (item : Text → Option (Toml × Text)) (t : Text) : Option (List Toml × Text) :=
  match skipLines? t with
  | none => none
  | some (']' :: rest) => some ([], rest)
  | some s =>
    match item s with
    | none => none
    | some (v, rest) =>
      match skipLines? rest with
      | some (']' :: rest) => some ([v], rest)
      | some (',' :: rest) =>
        if rest.length < t.length then
          (readItems? item rest).map fun (items, rest) => (v :: items, rest)
        else none
      | _ => none
termination_by t.length

/-- A key, the equals sign and a value. -/
def readPair? (value : Text → Option (Toml × Text)) (t : Text) :
    Option ((List Text × Toml) × Text) :=
  match readPath? t with
  | some (path, '=' :: t) => (value (t.dropWhile isGap)).map fun (v, rest) => ((path, v), rest)
  | _ => none

/-- The members of an inline table, of which there has to be one. -/
def readPairs? (value : Text → Option (Toml × Text)) (t : Text) :
    Option (List (List Text × Toml) × Text) :=
  match readPair? value t with
  | none => none
  | some (pair, rest) =>
    match rest.dropWhile isGap with
    | '\x7d' :: rest => some ([pair], rest)
    | ',' :: rest =>
      if rest.length < t.length then
        (readPairs? value rest).map fun (pairs, rest) => (pair :: pairs, rest)
      else none
    | _ => none
termination_by t.length

/-- An inline table, behind its brace. -/
def readInlineTable? (value : Text → Option (Toml × Text)) (t : Text) : Option (Toml × Text) :=
  match t.dropWhile isGap with
  | '\x7d' :: rest => some (.table [], rest)
  | t => do
    let (pairs, rest) ← readPairs? value t
    let members ← pairs.foldlM (fun members (path, v) => Members.define path v .header members) []
    return (.table (membersToToml members), rest)

/-- A value in which arrays and inline tables are nested at most so many levels deep. -/
def readValue? : Nat → Text → Option (Toml × Text)
  | 0, '[' :: _ => none
  | 0, '\x7b' :: _ => none
  | levels + 1, '[' :: t =>
    (readItems? (readValue? levels) t).map fun (items, rest) => (.array items, rest)
  | levels + 1, '\x7b' :: t => readInlineTable? (readValue? levels) t
  | _, t => readScalar? t

/-! ### Statements -/

/-- What a line says. -/
inductive Statement where
  | nothing
  | table (path : List Text)
  | appended (path : List Text)
  | member (path : List Text) (v : Toml)

/-- A line up to its comment. -/
def readStatement? (t : Text) : Option (Statement × Text) :=
  match t.dropWhile isGap with
  | '[' :: '[' :: t =>
    match readPath? t with
    | some (path, ']' :: ']' :: rest) => some (.appended path, rest)
    | _ => none
  | '[' :: t =>
    match readPath? t with
    | some (path, ']' :: rest) => some (.table path, rest)
    | _ => none
  | [] => some (.nothing, [])
  | c :: t =>
    if c = '#' ∨ c = '\n' ∨ c = '\r' then some (.nothing, c :: t)
    else (readPair? (readValue? (nestingLimit - 1)) (c :: t)).map fun ((path, v), rest) =>
      (.member path v, rest)

/-- What follows the end of a line: only gaps and a comment may be left on it. -/
def afterLine? (t : Text) : Option Text :=
  let t := match t.dropWhile isGap with
    | '#' :: t => t.dropWhile isPrintable
    | t => t
  if t.isEmpty then some [] else afterNewline? t

/-- The statements of a text. -/
def readStatements? (t : Text) : Option (List Statement) :=
  if t.isEmpty then some []
  else
    match readStatement? t with
    | none => none
    | some (statement, rest) =>
      match afterLine? rest with
      | none => none
      | some rest =>
        if rest.length < t.length then (readStatements? rest).map (statement :: ·) else none
termination_by t.length

/-! ### Documents -/

/-- A document in the making, and the header that its keys stand under. -/
structure Document where
  members : Members := []
  header : List Text := []

def Document.next? (d : Document) : Statement → Option Document
  | .nothing => some d
  | .table path => (Members.openTable path d.members).map (⟨·, path⟩)
  | .appended path => (Members.appendTable path d.members).map (⟨·, path⟩)
  | .member path v =>
    (Members.change .mentioned (Members.define path v) d.header .header d.members).map
      (⟨·, d.header⟩)

/-- Reads a whole text as a document; a byte order mark may stand before it. -/
def read? (t : Text) : Option (List (Text × Toml)) := do
  let t := match t with
    | '\uFEFF' :: t => t
    | t => t
  let d ← (← readStatements? t).foldlM Document.next? {}
  return membersToToml d.members

end Scenery.Toml
