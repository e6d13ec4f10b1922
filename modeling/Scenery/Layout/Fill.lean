/-
  Scenery/Layout/Fill.lean
  ========================
  **Filling lines**: a text is broken into lines of a width, so that the gaps at the
  ends of the lines are small over the whole paragraph.  Every line costs something,
  a line that is too wide costs much, and every other line but the last costs the
  square of its gap.
-/
import Scenery.Layout.Fragment
import Scenery.Layout.Minima

namespace Scenery.Layout

/-- What makes a choice of lines bad. -/
structure Penalties where
  /-- For each line. -/
  line : Nat
  /-- For each column beyond the width. -/
  overflow : Nat
  /-- A last line shorter than this part of the width is short. -/
  shortFraction : Nat
  /-- For a short last line with a single fragment. -/
  shortLast : Nat

/-- The usual penalties. -/
def penalties : Penalties := ⟨1000, 2500, 4, 25⟩

/-- The columns before each fragment, and after the last one. -/
def offsets (fragments : List Fragment) : Array Nat :=
  fragments.foldl (fun ws f => ws.push (ws.back?.getD 0 + (f.width + f.spaces))) #[0]

/-- The cost of the lines up to fragment `j`, the last one starting at fragment `i`,
    if the lines up to fragment `i` are the best ones. -/
def lineCost (p : Penalties) (target : Nat) (fragments : Array Fragment) (before : Array Nat)
    (best : Array (Nat × Nat)) (i j : Nat) : Nat :=
  let spaces := ((fragments[j - 1]?).map (·.spaces)).getD 0
  let columns := before.getD j 0 - before.getD i 0 - spaces
  let cost := (best.getD i (0, 0)).2 + p.line
  if target < columns then cost + (columns - target) * p.overflow
  else if j < fragments.size then cost + (target - columns) * (target - columns)
  else if i + 1 = j ∧ p.shortFraction * columns < target then cost + p.shortLast
  else cost

/-- The lines that end at fragment `stop`, last first, by where each starts. -/
def lineStarts (best : Array (Nat × Nat)) (stop : Nat) : List Nat :=
  let start := (best.getD stop (0, 0)).1
  if start = 0 then [0]
  else if _h : start < stop then start :: lineStarts best start else [start]
termination_by stop
decreasing_by exact _h

/-- Cuts a list before the places given, in ascending order and counted from `place`. -/
def cutBefore {α : Type} (place : Nat) : List Nat → List α → List (List α)
  | [], l => [l]
  | n :: ns, l => l.take (n - place) :: cutBefore n ns (l.drop (n - place))

/-- The best lines of fragments. -/
def bestLines (width : Nat) (fragments : List Fragment) : List (List Fragment) :=
  let cost := lineCost penalties (max width 1) fragments.toArray (offsets fragments)
  let starts := lineStarts (Minima.all cost (fragments.length + 1)) fragments.length
  cutBefore 0 starts.reverse.tail fragments

/-- The text of a line: its fragments without the spaces behind the last one. -/
def lineText (fragments : List Fragment) : Text :=
  fragments.dropLast.flatMap Fragment.text ++ ((fragments.getLast?).map (·.word)).getD []

/-- A text without trailing spaces. -/
def trimSpaces (t : Text) : Text := (t.reverse.dropWhile (· == ' ')).reverse

/-- The lines into which one line of a text is broken. -/
def breakLine (width : Nat) (line : Text) : List Text :=
  if Text.bytes line < width then [trimSpaces line]
  else (bestLines width (Fragment.ofLine width line)).map lineText

/-- The widest terminal that is written to. -/
def terminalWidth : Nat := 80

/-- A text in lines of a width, but not wider than the terminal.  The width 0 leaves
    it as it is. -/
def fill (width : Nat) (t : Text) : Text :=
  if width = 0 then t
  else ['\n'].intercalate ((t.splitOn '\n').flatMap (breakLine (min width terminalWidth)))

end Scenery.Layout
