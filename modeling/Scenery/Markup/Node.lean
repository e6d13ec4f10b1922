/-
  Scenery/Markup/Node.lean
  ========================
  **The tree of a template.**  Elements hold nodes; entries, variables and texts are
  leaves.  Every node knows its place in the template.
-/
import Scenery.Markup.Tag
import Scenery.Text.Blank

namespace Scenery

/-- Where an element stands: with its tags, and what is between them. -/
structure Place where
  span : Span
  inner : Span
  deriving DecidableEq, Repr

/-- The elements that hold other nodes. -/
inductive Element where
  | wrapper
  | sentence
  | conditional (condition : Condition)
  | list (name : Option Text)
  deriving DecidableEq, Repr

/-- A part of a template. -/
inductive Node where
  | element (kind : Element) (place : Place) (children : List Node)
  | entry (text : Text) (place : Place)
  | var (path : Text) (span : Span)
  | text (raw : Text) (span : Span)
  deriving Repr

namespace Element

/-- The tag that writes an element. -/
def tag : Element → Tag
  | .wrapper => .desc
  | .sentence => .sentence
  | .conditional _ => .conditional
  | .list _ => .list

end Element

namespace Node

/-- The bytes that a node takes up, with its tags. -/
def span : Node → Span
  | .element _ p _ => p.span
  | .entry _ p => p.span
  | .var _ s => s
  | .text _ s => s

/-- The bytes between the tags of a node.  A text is all content, a variable has
    none. -/
def inner : Node → Span
  | .element _ p _ => p.inner
  | .entry _ p => p.inner
  | .var _ s => Span.emptyAt s.stop
  | .text _ s => s

def children : Node → List Node
  | .element _ _ children => children
  | _ => []

/-- A text with nothing but blanks. -/
def isBlankText : Node → Bool
  | .text raw _ => Text.isAllBlank raw
  | _ => false

def isConditional : Node → Bool
  | .element (.conditional _) _ _ => true
  | _ => false

mutual
/-- A node and everything below it, in the order of the template. -/
def descendants : Node → List Node
  | .element kind place children =>
    .element kind place children :: descendantsOfAll children
  | .entry t p => [.entry t p]
  | .var p s => [.var p s]
  | .text t s => [.text t s]

/-- The nodes of a list and everything below them. -/
def descendantsOfAll : List Node → List Node
  | [] => []
  | n :: ns => descendants n ++ descendantsOfAll ns
end

/-- The path that a node itself reads, in its condition or as a variable. -/
def ownPath? : Node → Option Text
  | .element (.conditional c) _ _ => some c.path
  | .var path _ => some path
  | _ => none

/-- Every path that a tree reads, in the order of the template. -/
def paths (n : Node) : List Text := n.descendants.filterMap ownPath?

def listName? : Node → Option Text
  | .element (.list name) _ _ => name
  | _ => none

def isList : Node → Bool
  | .element (.list _) _ _ => true
  | _ => false

def lists (n : Node) : List Node := n.descendants.filter isList

def listNames (n : Node) : List Text := n.lists.filterMap listName?

end Node

end Scenery
