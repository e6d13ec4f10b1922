/-
  Scenery/Document/Ron/Reading.lean
  =================================
  **RON documents.**  A document is one value, before which it can turn on
  extensions of the format.  Arrays, maps, tuples and records cost two steps of depth
  and options one; `depthLimit` says how many there are.
-/
import Scenery.Document.Ron.Scalar

namespace Scenery.Ron

/-- Steps of depth that a document has. -/
def depthLimit : Nat := 128

/-! ### Series -/

/-- What stands between commas up to a closing character; a comma may come last. -/
def readSeries? {α : Type} (close : Char) (item : Text → Option (α × Text)) (t : Text) :
    Option (List α × Text) :=
  match skipGap? t with
  | none => none
  | some [] => none
  | some (c :: s) =>
    if c = close then some ([], s)
    else
      match item (c :: s) with
      | none => none
      | some (v, rest) =>
        match skipGap? rest with
        | some (d :: rest) =>
          if d = close then some ([v], rest)
          else if d = ',' ∧ rest.length < t.length then
            (readSeries? close item rest).map fun (items, rest) => (v :: items, rest)
          else none
        | _ => none
termination_by t.length

def readAfterColon? (value : Text → Option (Ron × Text)) (t : Text) : Option (Ron × Text) := do
  let t ← after? [':'] (← skipGap? t)
  value (← skipGap? t)

def readField? (value : Text → Option (Ron × Text)) (t : Text) : Option ((Text × Ron) × Text) := do
  let (key, t) ← readName? t
  let (v, t) ← readAfterColon? value t
  return ((key, v), t)

def readKeyed? (value : Text → Option (Ron × Text)) (t : Text) : Option ((Ron × Ron) × Text) := do
  let (key, t) ← value t
  let (v, t) ← readAfterColon? value t
  return ((key, v), t)

/-- A name with a colon behind it comes next, so what follows a parenthesis are
    fields. -/
def startsField (t : Text) : Bool :=
  ((do
    let (_, t) ← readName? (← skipGap? t)
    after? [':'] (← skipGap? t)) : Option Text).isSome

/-- A tuple or record behind its parenthesis. -/
def readGroup? (value : Text → Option (Ron × Text)) (name : Option Text) (t : Text) :
    Option (Ron × Text) :=
  if startsField t then
    (readSeries? ')' (readField? value) t).map fun (fields, rest) => (.record name fields, rest)
  else
    (readSeries? ')' value t).map fun (items, rest) => (.tuple name items, rest)

/-! ### Values -/

/-- The words that are values, in the order in which they are tried. -/
def words : List (Text × Ron) :=
  [("true", .boolean true), ("false", .boolean false), ("None", .absent)].map fun (word, v) =>
    (word.toList, v)

/-- A value that contains no other values. -/
def readScalar? (t : Text) : Option (Ron × Text) :=
  match words.findSome? fun (word, v) => (afterWord? word t).map (v, ·) with
  | some r => some r
  | none =>
    match readSpecial? t with
    | some r => some r
    | none =>
      match readName? t with
      | some (name, rest) => some (.identifier name, rest)
      | none =>
        match t with
        | [] => none
        | '"' :: _ | 'r' :: _ => (readString? t).map fun (s, rest) => (.string s, rest)
        | '\'' :: _ => (readCharacter? t).map fun (c, rest) => (.character c, rest)
        | 'b' :: '\'' :: _ =>
          (readByte? t).map fun (b, rest) => (.integer (some ['u', '8']) b.toNat, rest)
        | 'b' :: _ => (readBytes? t).map fun (content, rest) => (.bytes content, rest)
        | c :: _ =>
          if c.isDigit ∨ c = '+' ∨ c = '-' ∨ c = '.' then readNumber? t else none

/-- The value of an option, behind its word.  It stands in parentheses, which can be
    left out where every value can stand for an option with that value. -/
def readPresent? (implicitSome : Bool) (value : Text → Option (Ron × Text)) (t : Text) :
    Option (Ron × Text) :=
  match skipGap? t with
  | some ('(' :: t) => do
    let (v, t) ← value (← skipGap? t)
    let t ← skipGap? t
    let t ← skipGap? ((after? [','] t).getD t)
    return (.present v, ← after? [')'] t)
  | some t =>
    if implicitSome then (value t).map fun (v, rest) => (.present v, rest) else none
  | none => none

/-- A value with so many steps of depth left, and one more. -/
def readValue? (implicitSome : Bool) : Nat → Text → Option (Ron × Text)
  | 0, _ => none
  | 1, t => readScalar? t
  | depth + 2, t =>
    let inner := readValue? implicitSome depth
    match t with
    | '(' :: t => readGroup? inner none t
    | '[' :: t => (readSeries? ']' inner t).map fun (items, rest) => (.list items, rest)
    | '\x7b' :: t =>
      (readSeries? '\x7d' (readKeyed? inner) t).map fun (entries, rest) => (.map entries, rest)
    | t =>
      match afterWord? ['S', 'o', 'm', 'e'] t with
      | some t => readPresent? implicitSome (readValue? implicitSome (depth + 1)) t
      | none =>
        match readScalar? t with
        | some (.identifier name, rest) =>
          match skipGap? rest with
          | some ('(' :: rest) => readGroup? inner (some name) rest
          | _ => some (.identifier name, rest)
        | r => r

/-! ### Documents -/

/-- Extensions of the format that a document can turn on. -/
inductive Extension where
  /-- The value of a newtype can stand for the newtype. -/
  | unwrapNewtypes
  /-- Every value can stand for an option with that value. -/
  | implicitSome
  /-- The fields of a newtype variant can stand for its value. -/
  | unwrapVariantNewtypes
  /-- Records have to give their names. -/
  | explicitStructNames
  deriving DecidableEq, Repr

def Extension.ofName? (t : Text) : Option Extension :=
  [("unwrap_newtypes", Extension.unwrapNewtypes), ("implicit_some", .implicitSome),
   ("unwrap_variant_newtypes", .unwrapVariantNewtypes),
   ("explicit_struct_names", .explicitStructNames)].findSome? fun (name, e) =>
    if name.toList = t then some e else none

/-- A document: its extensions and its value. -/
structure Document where
  extensions : List Extension
  root : Ron

/-- What follows the given marks, with gaps behind each of them. -/
def afterMarks? (marks : List Text) (t : Text) : Option Text :=
  marks.foldlM (fun t mark => (after? mark t).bind skipGap?) t

/-- The extensions that one attribute turns on, behind its first character. -/
def readAttribute? (t : Text) : Option (List Extension × Text) := do
  let t ← afterMarks? (["!", "[", "enable", "("].map String.toList) (← skipGap? t)
  let (names, t) ← readSeries? ')' readName? t
  if names.isEmpty then none
  let t ← afterMarks? [[']']] (← skipGap? t)
  return (← names.mapM Extension.ofName?, t)

/-- The extensions that the attributes of a document turn on. -/
def readAttributes? (t : Text) : Option (List Extension × Text) :=
  match t with
  | '#' :: s =>
    match readAttribute? s with
    | none => none
    | some (extensions, rest) =>
      if rest.length ≤ s.length then
        (readAttributes? rest).map fun (more, rest) => (extensions ++ more, rest)
      else none
  | t => some ([], t)
termination_by t.length

def read? (t : Text) : Option Document := do
  let (extensions, t) ← readAttributes? (← skipGap? t)
  let (root, rest) ← readValue? (extensions.contains .implicitSome) (depthLimit + 1) t
  if (← skipGap? rest).isEmpty then return ⟨extensions, root⟩ else none

end Scenery.Ron
