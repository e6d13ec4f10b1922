/-
  Scenery/Storage/Files.lean
  ==========================
  **Files to read from.**  What the program does with files depends on nothing but
  what reading them gives, in whatever monad that happens.  `FileTree.files` reads
  from files that are given by their contents.
-/
import Scenery.Storage.Location

namespace Scenery

/-- Why a file cannot be read. -/
inductive FileError where
  | notFound
  | notADirectory
  | isADirectory
  | notUtf8
  | other (message : String)
  deriving DecidableEq, Repr

def FileError.message : FileError → String
  | .notFound => "No such file or directory (os error 2)"
  | .notADirectory => "Not a directory (os error 20)"
  | .isADirectory => "Is a directory (os error 21)"
  | .notUtf8 => "stream did not contain valid UTF-8"
  | .other message => message

/-- A way to read files and to see whether they are there. -/
structure Files (m : Type → Type) where
  read : Text → m (Except FileError Text)
  isFile : Text → m Bool

/-- Files by the segments of their locations, with their contents. -/
abbrev FileTree := List (List Text × Text)

namespace FileTree

/-- The segment that leads to the directory above. -/
def up : Text := ['.', '.']

/-- The place, a list of segments, is a directory: a file is below it, or it is not
    inside the tree. -/
def isDirectory (tree : FileTree) (place : List Text) : Bool :=
  place.all (· = up) ||
    tree.any fun (file, _) => place.isPrefixOf file && place.length < file.length

/-- The place where one segment leads from another place. -/
def step (tree : FileTree) (place : List Text) (segment : Text) :
    Except FileError (List Text) :=
  if (tree.lookup place).isSome then .error .notADirectory
  else if !tree.isDirectory place then .error .notFound
  else if segment = [] ∨ segment = ['.'] then .ok place
  else if segment = up ∧ !place.all (· = up) then .ok place.dropLast
  else .ok (place ++ [segment])

/-- The place of a location.  Absolute locations lead out of the tree. -/
def place (tree : FileTree) (p : Text) : Except FileError (List Text) :=
  (p.splitOn '/').foldlM tree.step (if Location.isAbsolute p then [up] else [])

def read (tree : FileTree) (p : Text) : Except FileError Text :=
  if p.isEmpty then .error .notFound
  else
    match tree.place p with
    | .error e => .error e
    | .ok place =>
      match tree.lookup place with
      | some content => .ok content
      | none => .error (if tree.isDirectory place then .isADirectory else .notFound)

/-- Files that are given by their contents. -/
def files (tree : FileTree) : Files Id :=
  ⟨tree.read, fun p => (tree.read p).isOk⟩

/-- The tree of files with their locations. -/
def ofList (entries : List (Text × Text)) : FileTree :=
  entries.map fun (p, content) => ((p.splitOn '/').filter (· ≠ []), content)

end FileTree

end Scenery
