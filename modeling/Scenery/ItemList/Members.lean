/-
  Scenery/ItemList/Members.lean
  =============================
  **The members of a list**: its entries, and the phrases of the text between them.
-/
import Scenery.Markup.Node
import Scenery.Prose.Enumeration

namespace Scenery

/-- A member of a list as it is written, and the entry it comes from. -/
structure Member where
  text : Text
  tagged : Bool
  source : Option Span := none
  deriving DecidableEq, Repr

namespace Member

/-- A member with its tags. -/
def markup (m : Member) : Text :=
  if m.tagged then "<item>".toList ++ m.text ++ "</item>".toList else m.text

def ofNode : Node → List Member
  | .entry t p => [⟨t, true, some p.span⟩]
  | .text raw _ => (Prose.split raw).map fun phrase => ⟨phrase, false, none⟩
  | _ => []

/-- The members of a list without conditions, in order. -/
def ofNodes (children : List Node) : List Member := children.flatMap ofNode

/-- The markup of members in a list. -/
def joined (members : List Member) : Text := Prose.join (members.map markup)

end Member

end Scenery
