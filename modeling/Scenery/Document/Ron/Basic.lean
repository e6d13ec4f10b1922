/-
  Scenery/Document/Ron/Basic.lean
  ===============================
  **Values of a RON document**, and the gaps between its tokens: blanks, comments to
  the end of a line and comments in brackets, which nest.
-/
import Scenery.Text.Basic

namespace Scenery

/-- A RON value.  Integers keep the type that is written behind them, other numbers
    their whole text. -/
inductive Ron where
  | boolean (b : Bool)
  | integer (type : Option Text) (i : Int)
  | real (t : Text)
  | character (c : Char)
  | string (t : Text)
  | bytes (content : List UInt8)
  /-- An option without a value. -/
  | absent
  /-- An option with a value. -/
  | present (v : Ron)
  /-- A name alone. -/
  | identifier (t : Text)
  | tuple (name : Option Text) (items : List Ron)
  | record (name : Option Text) (fields : List (Text × Ron))
  | list (items : List Ron)
  | map (entries : List (Ron × Ron))
  deriving Repr

namespace Ron

/-! ### Gaps -/

/-- Characters with the property Pattern_White_Space. -/
def isBlank (c : Char) : Bool :=
  let n := c.toNat
  (0x9 ≤ n && n ≤ 0xD) || n == 0x20 || n == 0x85 || n == 0x200E || n == 0x200F ||
  n == 0x2028 || n == 0x2029

/-- Every character but the line feed. -/
def isLinePart (c : Char) : Bool := c != '\n'

/-- What follows the end of a comment in which so many brackets are open. -/
def afterComment? : Nat → Text → Option Text
  | _, [] => none
  | depth, '/' :: '*' :: t => afterComment? (depth + 1) t
  | depth, '*' :: '/' :: t => if depth ≤ 1 then some t else afterComment? (depth - 1) t
  | depth, _ :: t => afterComment? depth t

theorem afterComment?_le {depth : Nat} {t rest : Text} (h : afterComment? depth t = some rest) :
    rest.length ≤ t.length := by
  fun_induction afterComment? depth t <;> simp_all <;> omega

theorem length_lt_of_dropWhile {p : Char → Bool} {t s : Text} {a b : Char}
    (h : t.dropWhile p = a :: b :: s) : s.length < t.length := by
  have := Text.length_dropWhile_le p t
  rw [h] at this
  simp only [List.length_cons] at this
  omega

/-- A text without the gap at its start.  A comment in brackets has to be closed, and
    a slash has to start a comment. -/
def skipGap? (t : Text) : Option Text :=
  match h : t.dropWhile isBlank with
  | '/' :: '/' :: s =>
    have := length_lt_of_dropWhile h
    have := Text.length_dropWhile_le isLinePart s
    skipGap? (s.dropWhile isLinePart)
  | '/' :: '*' :: s =>
    have := length_lt_of_dropWhile h
    match h : afterComment? 1 s with
    | none => none
    | some rest =>
      have := afterComment?_le h
      skipGap? rest
  | '/' :: _ => none
  | s => some s
termination_by t.length

end Ron

end Scenery
