/-
  Scenery/Content/Validation.lean
  ===============================
  **Validating content**: ids are unique, references lead somewhere, required texts
  are not blank, only puzzles can be solved, and nothing is placed zero times.
  Templates are not looked into.
-/
import Scenery.Content.Basic

namespace Scenery

/-- What has ids. -/
inductive IdKind where
  | description
  | item
  deriving DecidableEq, Repr

def IdKind.name : IdKind → String
  | .description => "description"
  | .item => "item"

/-- What can lack a text. -/
inductive Owner where
  | description (kind : EntityKind) (id : Text)
  | item (id : Text)
  | placement (index : Nat) (p : Placement)
  deriving DecidableEq, Repr

def Owner.label : Owner → String
  | .description kind id => kind.name ++ " '" ++ id.toStr ++ "'"
  | .item id => "item '" ++ id.toStr ++ "'"
  | .placement index p =>
    "placement #" ++ toString index ++ " of '" ++ p.item.toStr ++ "' in '" ++
      p.container.toStr ++ "'"

/-- The texts that must not be blank. -/
inductive Field where
  | description
  | solvedDescription
  | name
  | singular
  | plural
  | listName
  deriving DecidableEq, Repr

def Field.label : Field → String
  | .description => "description"
  | .solvedDescription => "solved description"
  | .name => "name"
  | .singular => "singular phrase"
  | .plural => "plural phrase"
  | .listName => "list name"

/-- What can be wrong with content. -/
inductive ContentError where
  | duplicateId (kind : IdKind) (id : Text)
  | missingReference (kind : IdKind) (id : Text) (index : Nat) (p : Placement)
  | emptyField (owner : Owner) (field : Field)
  | solvedTextOutsidePuzzle (id : Text)
  | zeroPlacement (index : Nat) (p : Placement)
  deriving DecidableEq, Repr

def ContentError.message : ContentError → String
  | .duplicateId kind id => "duplicate " ++ kind.name ++ " id '" ++ id.toStr ++ "'"
  | .missingReference kind id index p =>
    (Owner.placement index p).label ++ " refers to unknown " ++ kind.name ++ " '" ++
      id.toStr ++ "'"
  | .emptyField owner field => owner.label ++ " has an empty " ++ field.label
  | .solvedTextOutsidePuzzle id =>
    "'" ++ id.toStr ++ "' has a solved description but is not a puzzle"
  | .zeroPlacement index p => (Owner.placement index p).label ++ " places zero items"

namespace Content

/-- The ids that have occurred before, one for each further occurrence. -/
def repeats (seen : List Text) : List Text → List Text
  | [] => []
  | id :: ids =>
    if seen.contains id then id :: repeats seen ids else repeats (id :: seen) ids

/-- An error if a text is blank. -/
def checkBlank (owner : Owner) (field : Field) (t : Text) : List ContentError :=
  if Text.isAllBlank t then [.emptyField owner field] else []

def descriptionErrors (d : Description) : List ContentError :=
  let owner := Owner.description d.kind d.id
  checkBlank owner .description d.text ++
    match d.solvedText with
    | none => []
    | some solved =>
      if d.kind ≠ .puzzle then [.solvedTextOutsidePuzzle d.id]
      else checkBlank owner .solvedDescription solved

def itemErrors (i : ItemDefinition) : List ContentError :=
  let owner := Owner.item i.id
  checkBlank owner .name i.name ++ checkBlank owner .singular i.singular ++
    match i.plural with
    | none => []
    | some p => checkBlank owner .plural p

def placementErrors (c : Content) (index : Nat) (p : Placement) : List ContentError :=
  (if (c.items.map (·.id)).contains p.item then []
    else [.missingReference .item p.item index p]) ++
  (if (c.descriptions.map (·.id)).contains p.container then []
    else [.missingReference .description p.container index p]) ++
  (if p.quantity = .count 0 then [.zeroPlacement index p] else []) ++
    match p.list with
    | none => []
    | some l => checkBlank (.placement index p) .listName l

/-- Everything that is wrong with content: ids first, then descriptions, items and
    placements in their order. -/
def validate (c : Content) : List ContentError :=
  (repeats [] (c.descriptions.map (·.id))).map (.duplicateId .description) ++
  (repeats [] (c.items.map (·.id))).map (.duplicateId .item) ++
  c.descriptions.flatMap descriptionErrors ++
  c.items.flatMap itemErrors ++
  (c.placements.mapIdx (placementErrors c)).flatten

end Content

end Scenery
