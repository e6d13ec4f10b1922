/-
  Scenery/Layout/Minima.lean
  ==========================
  **Column minima of a cost matrix.**  For every column the search finds a row above
  the diagonal with least cost, where a cost may depend on the minima of earlier
  columns.  It looks at few entries only, which is right as long as the matrix is
  monotone: once a lower row is better, it stays better in all later columns.  Where
  costs are not quite monotone, the rows that this search finds are the ones that
  count.
-/

namespace Scenery.Layout.Minima

/-- Every second element, from the second one. -/
def everySecond {α : Type} : List α → List α
  | _ :: b :: t => b :: everySecond t
  | _ => []

theorem length_everySecond_le {α : Type} :
    ∀ l : List α, (everySecond l).length ≤ l.length
  | [] => by simp [everySecond]
  | [_] => by simp [everySecond]
  | _ :: _ :: t => by
    have := length_everySecond_le t
    simp only [everySecond, List.length_cons]
    omega

theorem length_everySecond_lt {α : Type} (a : α) (l : List α) :
    (everySecond (a :: l)).length < (a :: l).length := by
  cases l with
  | nil => simp [everySecond]
  | cons b t =>
    have := length_everySecond_le t
    simp only [everySecond, List.length_cons]
    omega

/-- Takes rows from a stack, the latest first, as long as a new row is better in the
    column of their height. -/
def dropWorse (cost : Nat → Nat → Nat) (cols : Array Nat) (row : Nat) :
    List Nat → List Nat
  | [] => []
  | top :: stack =>
    let col := cols.getD stack.length 0
    if cost row col < cost top col then dropWorse cost cols row stack else top :: stack

/-- The rows that can be best in some column, at most one for each column. -/
def reduce (cost : Nat → Nat → Nat) (cols : Array Nat) (rows : List Nat) : List Nat :=
  (rows.foldl (fun stack row =>
    let stack := dropWorse cost cols row stack
    if stack.length = cols.size then stack else row :: stack) []).reverse

/-- Looks for the best row of a column from the first of `rows` up to `last`, the
    earlier of two equal ones, and gives back the rows from `last` on. -/
def scan (cost : Nat → Nat → Nat) (col last : Nat) (best : Nat × Nat) :
    List Nat → Nat × List Nat
  | [] => (best.2, [])
  | row :: rows =>
    let value := cost row col
    let best := if value < best.1 ∨ (value = best.1 ∧ row < best.2) then (value, row) else best
    if row = last then (best.2, row :: rows) else scan cost col last best rows

/-- Fills in the columns between those that are known: the best row of a column lies
    between the best rows of its neighbours. -/
def interpolate (cost : Nat → Nat → Nat) (minima : Array Nat) :
    List Nat → List Nat → Array Nat
  | row :: rows, col :: more =>
    let last := match more with
      | [] => (row :: rows).getLastD 0
      | next :: _ => minima.getD next 0
    let (best, rows) := scan cost col last (cost row col, row) (row :: rows)
    let minima := minima.setIfInBounds col best
    match more with
    | [] => minima
    | _ :: cols => interpolate cost minima rows cols
  | _, _ => minima

/-- The best of some rows for each of some columns. -/
def search (cost : Nat → Nat → Nat) (rows cols : List Nat) (minima : Array Nat) :
    Array Nat :=
  match cols with
  | [] => minima
  | col :: more =>
    let rows := reduce cost (col :: more).toArray rows
    interpolate cost (search cost rows (everySecond (col :: more)) minima) rows (col :: more)
termination_by cols.length
decreasing_by exact length_everySecond_lt col more

/-- The best row and its cost for each column that has been looked at; the columns up
    to `tentative` have been, and no row before `base` can be better in any later
    one. -/
structure State where
  results : Array (Nat × Nat)
  base : Nat
  tentative : Nat

/-- Numbers from `first` up to, and without, `stop`. -/
def range (first stop : Nat) : List Nat := (List.range (stop - first)).map (first + ·)

/-- Enters a best row if it is better than the one that is known. -/
def enter (results : Array (Nat × Nat)) (col : Nat) (row cost : Nat) : Array (Nat × Nat) :=
  match results[col]? with
  | none => results.push (row, cost)
  | some known => if cost < known.2 then results.set! col (row, cost) else results

/-- Settles the column behind the `finished` one.  `cost` takes the results so far,
    the row and the column. -/
def settle (cost : Array (Nat × Nat) → Nat → Nat → Nat) (size finished : Nat) (s : State) :
    State :=
  let col := finished + 1
  if s.tentative < col then
    let rows := range s.base col
    let tentative := min (finished + rows.length) (size - 1)
    let cols := range col (tentative + 1)
    let minima := search (cost s.results) rows cols (Array.replicate (tentative + 1) 0)
    let results := cols.foldl (fun results c =>
      let row := minima.getD c 0
      enter results c row (cost s.results row c)) s.results
    { s with results, tentative }
  else
    let diagonal := cost s.results finished col
    if diagonal < (s.results.getD col (0, 0)).2 then
      { results := s.results.set! col (finished, diagonal), base := finished, tentative := col }
    else if (s.results.getD s.tentative (0, 0)).2 ≤ cost s.results finished s.tentative then s
    else { s with base := finished, tentative := col }

/-- The best row above the diagonal and its cost for each column; the first column
    has no cost. -/
def all (cost : Array (Nat × Nat) → Nat → Nat → Nat) (size : Nat) : Array (Nat × Nat) :=
  ((List.range (size - 1)).foldl (fun s finished => settle cost size finished s)
    ⟨#[(0, 0)], 0, 0⟩).results

end Scenery.Layout.Minima
