/-
  Scenery/Storage/Location.lean
  =============================
  **Locations of files**: segments with slashes between them.  A location is kept as
  it is written, and only taken apart where a part of it is needed.
-/
import Scenery.Number.Reading

namespace Scenery.Location

/-- The location does not depend on where one is. -/
def isAbsolute (p : Text) : Bool := p.head? == some '/'

/-- A location relative to a directory. -/
def join (directory p : Text) : Text :=
  if isAbsolute p ∨ directory.isEmpty then p
  else if directory.getLast? = some '/' then directory ++ p
  else directory ++ '/' :: p

/-- What is behind the last slash. -/
def lastSegment (p : Text) : Text := (p.reverse.takeWhile (· ≠ '/')).reverse

/-- A directory, written backwards, without slashes and segments that stay where they
    are at its end.  The root remains. -/
def trimBackwards : Text → Text
  | [] => []
  | '/' :: [] => ['/']
  | '/' :: t => trimBackwards t
  | '.' :: '/' :: t => trimBackwards ('/' :: t)
  | t => t

/-- The directory that a file is in; the place where one is has the empty name. -/
def directory (p : Text) : Text := (trimBackwards (p.reverse.dropWhile (· ≠ '/'))).reverse

/-- What is behind the last point of a file's name, in lower case.  A point that
    comes first starts a name without an extension. -/
def extension? (p : Text) : Option Text :=
  let name := lastSegment p
  let behind := name.reverse.takeWhile (· ≠ '.')
  match name.reverse.dropWhile (· ≠ '.') with
  | _ :: _ :: _ => if name = ['.', '.'] then none else some (Text.asciiLower behind.reverse)
  | _ => none

end Scenery.Location
