/-
  Scenery/ItemList/Site.lean
  ==========================
  **Item lists where they stand**: a list with its neighbours, and whether it opens
  its sentence.  `ListSite.find?` looks a list up by name, `findEntry?` an entry of
  it by the item it mentions.
-/
import Scenery.Markup.Node
import Scenery.Number.Reading
import Scenery.Prose.Mention

namespace Scenery

/-- An item list and what is next to it. -/
structure ListSite where
  name : Option Text
  place : Place
  children : List Node
  previous : Option Node
  next : Option Node
  opensSentence : Bool

namespace ListSite

/-- The list has members that depend on a condition. -/
def isConditional (s : ListSite) : Bool := s.children.any Node.isConditional

mutual
/-- The lists at and below a node that stands between others; `opens` says whether
    the node comes first in a sentence. -/
def ofNode (opens : Bool) (previous next : Option Node) : Node → List ListSite
  | .element kind place children =>
    match kind with
    | .list name => [⟨name, place, children, previous, next, opens⟩]
    | .sentence => ofNodes true none children
    | .conditional _ => ofNodes opens none children
    | .wrapper => ofNodes false none children
  | .entry _ _ => []
  | .var _ _ => []
  | .text _ _ => []

/-- The lists at and below the nodes that follow `previous`; `opens` says whether
    they have nothing but blanks before them in a sentence. -/
def ofNodes (opens : Bool) (previous : Option Node) : List Node → List ListSite
  | [] => []
  | n :: ns =>
    ofNode opens previous ns.head? n ++ ofNodes (opens && n.isBlankText) (some n) ns
end

/-- The lists of a tree in the order of the template. -/
def all (root : Node) : List ListSite :=
  let opens := match root with
    | .element .sentence _ _ => true
    | _ => false
  ofNodes opens none root.children

/-- Names are compared without regard to the case of ASCII letters. -/
def hasName (wanted : Text) (s : ListSite) : Bool :=
  match s.name with
  | some name => Text.asciiLower name == Text.asciiLower wanted
  | none => false

/-- The first list with a name, or the first list at all if no name is given. -/
def find? (root : Node) (name : Option Text) : Option ListSite :=
  match name.bind Text.trimmed? with
  | none => (all root).head?
  | some wanted => (all root).find? (hasName wanted)

/-- An entry of a list: its text and its place. -/
structure Entry where
  text : Text
  place : Place
  deriving DecidableEq, Repr

def entryOf? : Node → Option Entry
  | .entry t p => some ⟨t, p⟩
  | _ => none

/-- All entries of a list, also the ones under conditions, in the order of the
    template. -/
def entries (s : ListSite) : List Entry :=
  (Node.descendantsOfAll s.children).filterMap entryOf?

/-- The first entry that mentions an item. -/
def findEntry? (s : ListSite) (item : Item) : Option Entry :=
  s.entries.find? fun e => Prose.mentionsItem item e.text

end ListSite

end Scenery
