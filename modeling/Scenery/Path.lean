/-
  Scenery/Path.lean
  =================
  **Context paths**: identifiers joined by points, such as `player.intelligence`.
  `isPath` says it of a whole text; `readPath?` takes the longest path that a text
  starts with.
-/
import Scenery.Text.Basic

namespace Scenery.Path

/-- ASCII letters and the underscore can start an identifier. -/
def isIdentStart (c : Char) : Bool := c.isAlpha || c == '_'

/-- Digits can follow. -/
def isIdentPart (c : Char) : Bool := c.isAlphanum || c == '_'

def isIdent : Text → Bool
  | [] => false
  | c :: t => isIdentStart c && t.all isIdentPart

/-- The text is a dotted path: every segment between the points is an identifier. -/
def isPath (t : Text) : Bool := (t.splitOn '.').all isIdent

/-- The longest continuation of a path at the start of a text, and what follows it.
    A point belongs to the path only if an identifier follows it. -/
def readTail : Text → Text × Text
  | [] => ([], [])
  | [c] => if isIdentPart c then ([c], []) else ([], [c])
  | c :: d :: t =>
    if isIdentPart c then
      let (path, rest) := readTail (d :: t)
      (c :: path, rest)
    else if c = '.' ∧ isIdentStart d then
      let (path, rest) := readTail t
      (c :: d :: path, rest)
    else ([], c :: d :: t)

/-- The longest path at the start of a text, and what follows it. -/
def readPath? : Text → Option (Text × Text)
  | [] => none
  | c :: t =>
    if isIdentStart c then
      let (path, rest) := readTail t
      some (c :: path, rest)
    else none

theorem readTail_append (t : Text) : (readTail t).1 ++ (readTail t).2 = t := by
  fun_induction readTail t <;> simp_all

/-- Reading a path loses nothing. -/
theorem append_of_readPath? {t path rest : Text} (h : readPath? t = some (path, rest)) :
    path ++ rest = t := by
  cases t with
  | nil => simp [readPath?] at h
  | cons c t =>
    simp only [readPath?] at h
    split at h
    · simp only [Option.some.injEq, Prod.mk.injEq] at h
      obtain ⟨rfl, rfl⟩ := h
      simp [readTail_append]
    · cases h

end Scenery.Path
