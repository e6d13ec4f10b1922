/-
  Scenery/Item.lean
  =================
  **Items and quantities**: what enters or leaves a list, and how many of it there
  are then.
-/
import Scenery.Number.Basic
import Scenery.Text.Blank

namespace Scenery

/-- A total number of an item.  Items that are not counted are never itemized. -/
inductive Quantity where
  | count (n : Nat)
  | uncountable
  deriving DecidableEq, Repr

namespace Quantity

/-- The largest count. -/
def maxCount : Nat := 4294967295

/-- The quantity that a number stands for: a count if it is a whole number in range,
    else uncountable. -/
def ofNumber (n : Number) : Quantity :=
  match n.toNat? with
  | some k => if k ≤ maxCount then .count k else .uncountable
  | none => .uncountable

def count? : Quantity → Option Nat
  | .count n => some n
  | .uncountable => none

end Quantity

/-- An item with the phrases for one and for several of it. -/
structure Item where
  name : Text
  quantity : Quantity
  singular : Text
  plural : Option Text := none
  deriving DecidableEq, Repr

namespace Item

/-- What follows a count: the plural phrase, or the name if that is missing or blank. -/
def pluralOrName (item : Item) : Text :=
  match item.plural with
  | some p => if Text.isAllBlank p then item.name else p
  | none => item.name

/-- The words by which a text can mention the item: its name and its plural phrase,
    trimmed, unless they are blank. -/
def mentions (item : Item) : List Text :=
  ([some item.name, item.plural].filterMap id).filterMap Text.trimmed?

end Item

end Scenery
