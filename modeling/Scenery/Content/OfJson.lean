/-
  Scenery/Content/OfJson.lean
  ===========================
  **Content as JSON.**  A record is an object with its fields, or an array with them
  in their order.  Unknown fields are ignored, optional ones may be missing or null.
-/
import Scenery.Content.Basic
import Scenery.Document.Json

namespace Scenery

namespace Json

/-- The values of a record's fields, in the order of their names. -/
def fields? (names : List Text) : Json → Option (List (Option Json))
  | .object members => some (names.map fun name => members.lookup name)
  | .array items =>
    if items.length ≤ names.length then
      some (items.map some ++ List.replicate (names.length - items.length) none)
    else none
  | _ => none

/-- A field that has to be a string. -/
def text? : Option Json → Option Text
  | some (.string t) => some t
  | _ => none

/-- A field that is a string, null or missing. -/
def optionalText? : Option Json → Option (Option Text)
  | none => some none
  | some .null => some none
  | some (.string t) => some (some t)
  | some _ => none

/-- A field that is an array or missing. -/
def list? {α : Type} (read : Json → Option α) : Option Json → Option (List α)
  | none => some []
  | some (.array items) => items.mapM read
  | some _ => none

/-- The name of a choice without content: a string, or an object that gives it null. -/
def choice? : Json → Option Text
  | .string t => some t
  | .object [(name, .null)] => some name
  | _ => none

end Json

namespace EntityKind

def ofName? (t : Text) : Option EntityKind :=
  [room, object, puzzle, item].find? fun k => k.name.toList = t

end EntityKind

namespace Quantity

def ofJson? : Json → Option Quantity
  | .object [(['c', 'o', 'u', 'n', 't'], .number (.integer i))] =>
    if 0 ≤ i ∧ i ≤ maxCount then some (.count i.toNat) else none
  | j => if Json.choice? j = some "uncountable".toList then some .uncountable else none

end Quantity

namespace Content

def descriptionOfJson? (j : Json) : Option Description :=
  match Json.fields? (["id", "kind", "text", "solved_text"].map String.toList) j with
  | some [id, kind, text, solved] => do
    return ⟨← Json.text? id, ← EntityKind.ofName? (← Json.choice? (← kind)), ← Json.text? text,
      ← Json.optionalText? solved⟩
  | _ => none

def itemOfJson? (j : Json) : Option ItemDefinition :=
  match Json.fields? (["id", "name", "singular", "plural"].map String.toList) j with
  | some [id, name, singular, plural] => do
    return ⟨← Json.text? id, ← Json.text? name, ← Json.text? singular,
      ← Json.optionalText? plural⟩
  | _ => none

def placementOfJson? (j : Json) : Option Placement :=
  match Json.fields? (["item", "container", "list", "quantity"].map String.toList) j with
  | some [item, container, list, quantity] => do
    let quantity ← match quantity with
      | none => some (.count 1)
      | some q => Quantity.ofJson? q
    return ⟨← Json.text? item, ← Json.text? container, ← Json.optionalText? list, quantity⟩
  | _ => none

def ofJson? (j : Json) : Option Content :=
  match Json.fields? (["descriptions", "items", "placements"].map String.toList) j with
  | some [descriptions, items, placements] => do
    return ⟨← Json.list? descriptionOfJson? descriptions, ← Json.list? itemOfJson? items,
      ← Json.list? placementOfJson? placements⟩
  | _ => none

end Content

end Scenery
