/-
  Scenery/Prose/Enumeration.lean
  ==============================
  **Enumerations**: `A`, `A and B`, `A, B, and C`.  `join` writes one, `split` finds
  the phrases of one that an author wrote.  Only commas and the word `and` with
  blanks or ends around it separate phrases.
-/
import Scenery.Text.Blank

namespace Scenery.Prose

/-- Phrases as an enumeration. -/
def join : List Text → Text
  | [] => []
  | [a] => a
  | [a, b] => a ++ " and ".toList ++ b
  | a :: b :: c :: more =>
    let phrases := a :: b :: c :: more
    [',', ' '].intercalate phrases.dropLast ++ ", and ".toList ++ (phrases.getLastD [])

/-- What follows the word `and` with the blanks behind it, if a text starts with that
    word. -/
def afterAnd? : Text → Option Text
  | 'a' :: 'n' :: 'd' :: t =>
    match t with
    | [] => some []
    | c :: r => if Text.isBlank c then some (Text.trimLeft (c :: r)) else none
  | _ => none

def consFirst (c : Char) : List Text → List Text
  | [] => [[c]]
  | phrase :: phrases => (c :: phrase) :: phrases

theorem length_le_of_afterAnd? {t rest : Text} (h : afterAnd? t = some rest) :
    rest.length ≤ t.length := by
  unfold afterAnd? at h
  split at h
  · next t =>
    split at h
    · cases h; simp
    · next c r =>
      split at h
      · cases h
        have := (List.dropWhile_sublist Text.isBlank (l := c :: r)).length_le
        simp only [Text.trimLeft, List.length_cons] at *
        omega
      · cases h
  · cases h

/-- Cuts a text at every `and` that has blanks before it. -/
def splitInner : Text → List Text
  | [] => [[]]
  | c :: t =>
    match _h : if Text.isBlank c then afterAnd? (Text.trimLeft t) else none with
    | some rest => [] :: splitInner rest
    | none => consFirst c (splitInner t)
termination_by t => t.length
decreasing_by
  · split at _h
    · have h1 := length_le_of_afterAnd? _h
      have h2 := (List.dropWhile_sublist Text.isBlank (l := t)).length_le
      simp only [Text.trimLeft, List.length_cons] at *
      omega
    · cases _h
  · simp

/-- Cuts a text without commas at every standing `and`, also at one that it starts
    with. -/
def splitAnd (t : Text) : List Text :=
  match afterAnd? t with
  | some rest => [] :: splitInner rest
  | none => splitInner t

/-- The phrases of an enumeration, trimmed; connectors alone make no phrase. -/
def split (t : Text) : List Text :=
  ((t.splitOn ',').flatMap splitAnd).filterMap Text.trimmed?

end Scenery.Prose
