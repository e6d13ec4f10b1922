/-
  Scenery/Prose/Quantity.lean
  ===========================
  **Quantity phrases**: how a number of items is put into words, how such words are
  changed for another number, and the capital that a sentence starts with.
-/
import Scenery.Item
import Scenery.Text.Case

namespace Scenery.Prose

def numeral (n : Nat) : Text := Nat.toDigits 10 n

/-- A text of ASCII digits only. -/
def isNumeral (t : Text) : Bool := !t.isEmpty && t.all Char.isDigit

def numeralValue (t : Text) : Nat := t.foldl (fun n c => 10 * n + (c.toNat - '0'.toNat)) 0

/-- The words for a number of an item: its singular phrase for one, else the number
    and what follows a count. -/
def quantityPhrase (item : Item) (count : Nat) : Text :=
  if count = 1 then item.singular else numeral count ++ ' ' :: item.pluralOrName

/-- A word such as `A`, `Hung` or `Two`: a capital with no other capital behind it. -/
def isTitleWord : Text → Bool
  | [] => false
  | c :: t => Text.isCapital c && !t.any Text.isCapital

/-- Puts the first character behind leading blanks into upper case. -/
def capitalize (t : Text) : Text :=
  match Text.trimLeft t with
  | [] => t
  | c :: rest => Text.leadingBlanks t ++ Text.upper c ++ rest

/-- Takes the capital from a first word such as `A`.  Words all in capitals stay, and
    so does the pronoun `I`. -/
def decapitalize (t : Text) : Text :=
  let first := Text.firstWord t
  if first = ['I'] ∨ !isTitleWord first then t
  else
    match Text.trimLeft t with
    | [] => t
    | c :: rest => Text.leadingBlanks t ++ Text.lower c ++ rest

/-- The words of an entry for another number.  A leading numeral is replaced where it
    stands, anything else gives way to a fresh phrase; blanks around the entry and the
    capital of its first word stay. -/
def requantify (entry : Text) (item : Item) (count : Nat) : Text :=
  let body := Text.trim entry
  let first := Text.firstWord body
  let phrase :=
    if 1 < count ∧ isNumeral first then numeral count ++ Text.afterFirstWord body
    else quantityPhrase item count
  Text.leadingBlanks entry ++ (if isTitleWord first then capitalize phrase else phrase) ++
    Text.trailingBlanks entry

/-- The largest numeral that is read as a number of things. -/
def numeralLimit : Nat := Nat.pow 2 64

/-- A phrase for more than one thing: it starts with a number above one, `several`,
    `many` or `a few`, in any case. -/
def isPluralPhrase (t : Text) : Bool :=
  let first := Text.lowercase (Text.firstWord t)
  if isNumeral first then
    let n := numeralValue first
    decide (1 < n ∧ n < numeralLimit)
  else if first = "several".toList ∨ first = "many".toList then true
  else if first = ['a'] then
    Text.lowercase (Text.firstWord (Text.afterFirstWord t)) = "few".toList
  else false

end Scenery.Prose
