/-
  Scenery/Main.lean
  =================
  **The program**: it reads real files, prints, and exits.
-/
import Scenery.CommandLine.Run

namespace Scenery

/-- Why the system refuses to read a file.  The code 20, of either sign, tells that a
    part of the location is no directory. -/
def FileError.ofSystem : IO.Error → FileError
  | .noFileOrDirectory .. => .notFound
  | .inappropriateType _ code _ =>
    if code = 20 ∨ code + 20 = 0 then .notADirectory else .isADirectory
  | e => .other (toString e)

/-- A file of the system.  A directory can be opened, but not read. -/
def readSystemFile (p : Text) : IO (Except FileError Text) := do
  try
    let content ← IO.FS.readBinFile p.toStr
    match String.fromUTF8? content with
    | some s => return .ok s.toList
    | none => return .error .notUtf8
  catch e => return .error (.ofSystem e)

def systemFiles : Files IO where
  read := readSystemFile
  isFile p := do
    match ← readSystemFile p with
    | .ok _ | .error .notUtf8 => return true
    | .error _ => return false

end Scenery

def main (args : List String) : IO UInt32 := do
  let outcome ← Scenery.CommandLine.run Scenery.systemFiles (args.map String.toList)
  (← IO.getStdout).putStr (String.ofList outcome.output)
  (← IO.getStderr).putStr (String.ofList outcome.errors)
  return outcome.exit.toUInt32
