/-
  Scenery/Prose/Copula.lean
  =========================
  **The copula**: `is` or `are` next to a list.  It is the last word of the text
  before, or else the first word of the text behind, with only blanks between it and
  the list.
-/
import Scenery.Prose.Quantity
import Scenery.Text.WordChar

namespace Scenery.Prose

/-- The forms of the copula. -/
def copulas : List Text := [['i', 's'], ['a', 'r', 'e']]

/-- A word in a text, by the bytes before it. -/
structure WordAt where
  offset : Nat
  word : Text
  deriving DecidableEq, Repr

/-- The copula that a text ends with, before blanks. -/
def copulaAtEnd? (t : Text) : Option WordAt :=
  let body := Text.trimRight t
  if Text.trailingBlanks t = [] then none
  else
    copulas.findSome? fun copula =>
      let n := body.length - copula.length
      let before := body.take n
      let word := body.drop n
      if Text.afterFolded? copula word = some [] ∧ Text.endsApart before then
        some ⟨Text.bytes before, word⟩
      else none

/-- The copula that a text starts with, behind blanks. -/
def copulaAtStart? (t : Text) : Option WordAt :=
  let blanks := Text.leadingBlanks t
  let body := Text.trimLeft t
  if blanks = [] then none
  else
    copulas.findSome? fun copula =>
      match Text.afterFolded? copula body with
      | some rest =>
        if Text.startsApart rest then some ⟨Text.bytes blanks, body.take copula.length⟩ else none
      | none => none

/-- The form of the copula for one or for several, in the capitals of the word that
    it replaces. -/
def agree (word : Text) (plural : Bool) : Text :=
  let target := if plural then ['a', 'r', 'e'] else ['i', 's']
  if word.all Text.isCapital ∧ 1 < word.length then target.map Char.toUpper
  else if (word.head?.map Text.isCapital).getD false then capitalize target
  else target

end Scenery.Prose
