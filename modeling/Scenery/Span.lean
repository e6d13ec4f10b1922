/-
  Scenery/Span.lean
  =================
  **Byte ranges of a text**, and the edits that replace them.  A list of edits is
  applied from the last range to the first, so that the place of every range still
  to be replaced stays what it was in the unedited text.
-/
import Scenery.Text.Basic

namespace Scenery

/-- The bytes from `start` up to, and without, `stop`. -/
structure Span where
  start : Nat
  stop : Nat
  deriving DecidableEq, Repr, Inhabited

namespace Span

def emptyAt (n : Nat) : Span := ⟨n, n⟩

/-- The part of a text that a range covers. -/
def slice (s : Span) (t : Text) : Text :=
  Text.takeBytes (s.stop - s.start) (Text.dropBytes s.start t)

/-- A range that covers no byte. -/
def isEmpty (s : Span) : Bool := s.stop ≤ s.start

/-- The text with the range replaced. -/
def replace (s : Span) (new t : Text) : Text :=
  Text.takeBytes s.start t ++ new ++ Text.dropBytes s.stop t

end Span

/-- One replacement: the text to put in place of a range. -/
structure Edit where
  span : Span
  new : Text
  deriving DecidableEq, Repr

namespace Edit

def apply (e : Edit) (t : Text) : Text := e.span.replace e.new t

/-- Carries out replacements of disjoint ranges, from the back, so that the places
    of earlier ranges still hold. -/
def applyAll (edits : List Edit) (t : Text) : Text :=
  (edits.mergeSort fun a b => b.span.start ≤ a.span.start).foldl (fun t e => e.apply t) t

end Edit

end Scenery
