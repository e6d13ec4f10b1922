/-
  Scenery/Content/Basic.lean
  ==========================
  **Content**: the descriptions, items and placements that an author has written.
-/
import Scenery.Item

namespace Scenery

/-- What a description describes. -/
inductive EntityKind where
  | room
  | object
  | puzzle
  | item
  deriving DecidableEq, Repr

def EntityKind.name : EntityKind → String
  | .room => "room"
  | .object => "object"
  | .puzzle => "puzzle"
  | .item => "item"

/-- A description and its templates: one, and for a solved puzzle another. -/
structure Description where
  id : Text
  kind : EntityKind
  text : Text
  solvedText : Option Text := none
  deriving DecidableEq, Repr

namespace Description

/-- The template for a state; where no other is given, the plain one. -/
def template (d : Description) (solved : Bool) : Text :=
  match d.solvedText, solved with
  | some t, true => t
  | _, _ => d.text

/-- The templates that are given, each with the state that it is for. -/
def templates (d : Description) : List (Bool × Text) :=
  (false, d.text) :: (d.solvedText.map fun t => (true, t)).toList

end Description

/-- An item that content knows, with the phrases for it. -/
structure ItemDefinition where
  id : Text
  name : Text
  singular : Text
  plural : Option Text := none
  deriving DecidableEq, Repr

/-- A number of the item. -/
def ItemDefinition.toItem (d : ItemDefinition) (quantity : Quantity) : Item :=
  ⟨d.name, quantity, d.singular, d.plural⟩

/-- An item that an author puts into a list of a description. -/
structure Placement where
  item : Text
  container : Text
  list : Option Text := none
  quantity : Quantity := .count 1
  deriving DecidableEq, Repr

/-- All that an author has written. -/
structure Content where
  descriptions : List Description := []
  items : List ItemDefinition := []
  placements : List Placement := []
  deriving DecidableEq, Repr

namespace Content

def description? (c : Content) (id : Text) : Option Description :=
  c.descriptions.find? fun d => d.id = id

def item? (c : Content) (id : Text) : Option ItemDefinition :=
  c.items.find? fun i => i.id = id

end Content

end Scenery
