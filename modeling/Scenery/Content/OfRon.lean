/-
  Scenery/Content/OfRon.lean
  ==========================
  **Content as RON**, the format that authors write.  A record may give its name, and
  has to if the document says so; unknown fields are ignored, optional ones may be
  missing, but no field may come twice.
-/
import Scenery.Content.OfJson
import Scenery.Document.Ron.Reading

namespace Scenery

namespace Ron

/-- A name that a record gives fits, or it gives none where it need not. -/
def nameFits (extensions : List Extension) (expected : Text) : Option Text → Bool
  | none => !extensions.contains .explicitStructNames
  | some name => name = expected

/-- The values of a record's fields, in the order of their names. -/
def fields? (extensions : List Extension) (expected : Text) (names : List Text) :
    Ron → Option (List (Option Ron))
  | .tuple name [] =>
    if nameFits extensions expected name then some (names.map fun _ => none) else none
  | .record name fields =>
    if nameFits extensions expected name then
      names.mapM fun key =>
        match fields.filter (·.1 = key) with
        | [] => some none
        | [(_, v)] => some (some v)
        | _ => none
    else none
  | _ => none

/-- A field that has to be a string. -/
def text? : Option Ron → Option Text
  | some (.string t) => some t
  | _ => none

/-- A field that is an option of a string, or missing. -/
def optionalText? (extensions : List Extension) : Option Ron → Option (Option Text)
  | none => some none
  | some .absent => some none
  | some (.present (.string t)) => some (some t)
  | some (.string t) => if extensions.contains .implicitSome then some (some t) else none
  | some _ => none

/-- A field that is a list or missing. -/
def list? {α : Type} (read : Ron → Option α) : Option Ron → Option (List α)
  | none => some []
  | some (.list items) => items.mapM read
  | some _ => none

end Ron

namespace EntityKind

def ofRon? : Ron → Option EntityKind
  | .identifier t => ofName? t
  | _ => none

end EntityKind

namespace Quantity

/-- The type that can be written behind a count. -/
def countType : Text := ['u', '3', '2']

def ofRon? : Ron → Option Quantity
  | .identifier t => if t = "uncountable".toList then some .uncountable else none
  | .tuple (some name) [.integer type i] =>
    if name = "count".toList ∧ (type.all (· = countType)) ∧ 0 ≤ i ∧ i ≤ maxCount then
      some (.count i.toNat)
    else none
  | _ => none

end Quantity

namespace Content

/-- Reads the fields of a description, in the order of their names. -/
def descriptionOfRon? (extensions : List Ron.Extension) (v : Ron) : Option Description :=
  match Ron.fields? extensions "DescriptionDef".toList
    (["id", "kind", "text", "solved_text"].map String.toList) v with
  | some [id, kind, text, solved] => do
    return ⟨← Ron.text? id, ← EntityKind.ofRon? (← kind), ← Ron.text? text,
      ← Ron.optionalText? extensions solved⟩
  | _ => none

def itemOfRon? (extensions : List Ron.Extension) (v : Ron) : Option ItemDefinition :=
  match Ron.fields? extensions "ItemDef".toList
    (["id", "name", "singular", "plural"].map String.toList) v with
  | some [id, name, singular, plural] => do
    return ⟨← Ron.text? id, ← Ron.text? name, ← Ron.text? singular,
      ← Ron.optionalText? extensions plural⟩
  | _ => none

def placementOfRon? (extensions : List Ron.Extension) (v : Ron) : Option Placement :=
  match Ron.fields? extensions "PlacementDef".toList
    (["item", "container", "list", "quantity"].map String.toList) v with
  | some [item, container, list, quantity] => do
    let quantity ← match quantity with
      | none => some (.count 1)
      | some q => Quantity.ofRon? q
    return ⟨← Ron.text? item, ← Ron.text? container, ← Ron.optionalText? extensions list,
      quantity⟩
  | _ => none

/-- The content of a RON document. -/
def ofRon? (d : Ron.Document) : Option Content :=
  match Ron.fields? d.extensions "ContentDef".toList
    (["descriptions", "items", "placements"].map String.toList) d.root with
  | some [descriptions, items, placements] => do
    return ⟨← Ron.list? (descriptionOfRon? d.extensions) descriptions,
      ← Ron.list? (itemOfRon? d.extensions) items,
      ← Ron.list? (placementOfRon? d.extensions) placements⟩
  | _ => none

/-- Reads a whole text as content. -/
def read? (t : Text) : Option Content := (Ron.read? t).bind ofRon?

end Content

end Scenery
