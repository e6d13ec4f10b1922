/-
  Scenery/ItemList/Change.lean
  ============================
  **Changing item lists.**  An item that enters a list becomes its first member, an
  item that leaves is struck out, and an entry that stays gets its number changed.
  With the members the connectors between them are written anew, the first word of a
  sentence keeps its capital, and an adjacent `is` or `are` follows the number of
  members.  Everything else in the template stays as it is.
-/
import Scenery.ItemList.Members
import Scenery.ItemList.Site
import Scenery.Markup.Tree
import Scenery.Prose.Copula

namespace Scenery

/-- Why a change leaves the template alone. -/
inductive ListChange.Reason where
  | noList
  | uncountable
  | noMatchingEntry
  | zeroQuantity
  | conditionalList
  deriving DecidableEq, Repr

def ListChange.Reason.message : ListChange.Reason → String
  | .noList => "no matching item list"
  | .uncountable => "item quantity is uncountable"
  | .noMatchingEntry => "no entry mentions the item"
  | .zeroQuantity => "nothing to add"
  | .conditionalList => "list contains conditional members"

/-- What a change comes to. -/
inductive ListChange where
  | changed (template : Text)
  | unchanged (reason : ListChange.Reason)
  deriving DecidableEq, Repr

namespace ListChange

/-- The template after the change. -/
def templateOr (template : Text) : ListChange → Text
  | .changed t => t
  | .unchanged _ => template

/-- The edit of a list's content.  A list that closes itself is opened up for it. -/
def contentEdit (template : Text) (s : ListSite) (content : Text) : Edit :=
  let whole := s.place.span.slice template
  if s.place.inner.isEmpty ∧ ['/', '>'].isSuffixOf whole then
    let tag := Text.trimRight (whole.take (whole.length - 2))
    ⟨s.place.span, tag ++ '>' :: content ++ "</il>".toList⟩
  else ⟨s.place.inner, content⟩

/-- The text of a node next to a list, and the byte where it starts. -/
def neighbourText? : Option Node → Option (Text × Nat)
  | some (.text raw span) => some (raw, span.start)
  | _ => none

/-- The copula next to a list, by its place in the template. -/
def adjacentCopula? (s : ListSite) : Option Prose.WordAt :=
  let placed (found : Text → Option Prose.WordAt) (n : Option Node) : Option Prose.WordAt :=
    (neighbourText? n).bind fun (raw, start) =>
      (found raw).map fun w => ⟨start + w.offset, w.word⟩
  match placed Prose.copulaAtEnd? s.previous with
  | some w => some w
  | none => placed Prose.copulaAtStart? s.next

/-- The edit that makes the copula next to a list agree with it. -/
def copulaEdit? (s : ListSite) (plural : Bool) : Option Edit :=
  (adjacentCopula? s).map fun w =>
    ⟨⟨w.offset, w.offset + Text.bytes w.word⟩, Prose.agree w.word plural⟩

/-- Members that take a plural verb: several, or one that is a plural phrase. -/
def isPlural (members : List Member) : Bool :=
  2 ≤ members.length || members.any fun m => Prose.isPluralPhrase m.text

/-- The edits that write new members into a list that had `before` members.  The
    copula changes only when the list crosses between one member and several. -/
def memberEdits (template : Text) (s : ListSite) (members : List Member) (before : Nat) :
    List Edit :=
  let content := contentEdit template s (Member.joined members)
  let crosses := members ≠ [] ∧ (decide (2 ≤ before) ≠ decide (2 ≤ members.length))
  if crosses then content :: (copulaEdit? s (isPlural members)).toList else [content]

def withMembers (template : Text) (s : ListSite) (members : List Member) (before : Nat) :
    ListChange :=
  .changed (Edit.applyAll (memberEdits template s members before) template)

def withQuantity (template : Text) (e : ListSite.Entry) (item : Item) (count : Nat) :
    ListChange :=
  let words := Prose.requantify (e.place.inner.slice template) item count
  .changed (Edit.applyAll [⟨e.place.inner, words⟩] template)

/-- Changes the text of the first member. -/
def mapFirst (f : Text → Text) : List Member → List Member
  | [] => []
  | m :: ms => { m with text := f m.text } :: ms

/-- Members with a new one in front.  In front of a sentence the capital moves to the
    new member. -/
def inserted (s : ListSite) (phrase : Text) (members : List Member) : List Member :=
  if s.opensSentence then
    ⟨Prose.capitalize phrase, true, none⟩ :: mapFirst Prose.decapitalize members
  else ⟨phrase, true, none⟩ :: members

/-- Members without one of them.  In front of a sentence the capital moves to the
    member that comes first then. -/
def deleted (s : ListSite) (index : Nat) (members : List Member) : List Member :=
  let rest := members.eraseIdx index
  if s.opensSentence ∧ index = 0 then mapFirst Prose.capitalize rest else rest

/-- Adds an item to a list, `item.quantity` being the total after that. -/
def add (template : Text) (item : Item) (list : Option Text) :
    Except MarkupError ListChange :=
  match item.quantity with
  | .uncountable => .ok (.unchanged .uncountable)
  | .count count =>
    match Node.parse template with
    | .error e => .error e
    | .ok root =>
      match ListSite.find? root list with
      | none => .ok (.unchanged .noList)
      | some s =>
        if count = 0 then .ok (.unchanged .zeroQuantity)
        else
          match s.findEntry? item with
          | some e => .ok (withQuantity template e item count)
          | none =>
            if s.isConditional then .ok (.unchanged .conditionalList)
            else
              let members := Member.ofNodes s.children
              let phrase := Prose.quantityPhrase item count
              .ok (withMembers template s (inserted s phrase members) members.length)

/-- Removes an item from a list, `item.quantity` being the total after that. -/
def remove (template : Text) (item : Item) (list : Option Text) :
    Except MarkupError ListChange :=
  match item.quantity with
  | .uncountable => .ok (.unchanged .uncountable)
  | .count count =>
    match Node.parse template with
    | .error e => .error e
    | .ok root =>
      match ListSite.find? root list with
      | none => .ok (.unchanged .noList)
      | some s =>
        match s.findEntry? item with
        | none => .ok (.unchanged .noMatchingEntry)
        | some e =>
          if 0 < count then .ok (withQuantity template e item count)
          else if s.isConditional then .ok (.unchanged .conditionalList)
          else
            let members := Member.ofNodes s.children
            match members.findIdx? fun m => m.source == some e.place.span with
            | none => .ok (.unchanged .noMatchingEntry)
            | some index => .ok (withMembers template s (deleted s index members) members.length)

end ListChange

end Scenery
