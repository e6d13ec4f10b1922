/-
  Scenery/Markup/Tree.lean
  ========================
  **From tokens to the tree.**  The tokens are taken one by one.  The elements that
  are still open form a stack of frames, innermost first; each keeps the nodes that
  stand before it, so that closing it continues its parent where that was left.

  What may stand inside what is decided when a tag opens, against everything open
  around it (`Tag.forbids`).
-/
import Scenery.Markup.Token
import Scenery.Markup.Node

namespace Scenery

/-- Nothing may stand in an item; no sentence or description in a sentence; no list,
    sentence, description or variable in a list. -/
def Tag.forbids : Tag → Tag → Bool
  | .item, _ => true
  | .sentence, .sentence | .sentence, .desc => true
  | .list, .list | .list, .sentence | .list, .desc | .list, .var => true
  | _, _ => false

/-- What an opening tag leaves to be completed when it is closed. -/
inductive Opened where
  | element (kind : Element)
  | entry
  deriving DecidableEq, Repr

def Opened.tag : Opened → Tag
  | .element kind => kind.tag
  | .entry => .item

/-- What an opening tag comes to: an element with content, or a node without. -/
inductive Opening where
  | content (opened : Opened)
  | leaf (node : Node)

/-- An open element: its opening tag's place, and the nodes before it, last first. -/
structure Frame where
  opened : Opened
  span : Span
  before : List Node

/-- A tree under construction: the open elements, innermost first, and the nodes of
    the innermost one, last first. -/
structure Builder where
  frames : List Frame := []
  nodes : List Node := []

namespace Node

/-- The children that are more than blank text. -/
def significant (nodes : List Node) : List Node := nodes.filter (!·.isBlankText)

/-- The content of a wrapper.  If that is a single wrapper with blanks around it, the
    content of that one. -/
def unwrapped (nodes : List Node) : List Node :=
  match significant nodes with
  | [.element .wrapper _ children] => children
  | _ => nodes

def rawText : Node → Text
  | .text raw _ => raw
  | _ => []

def ofOpened (opened : Opened) (place : Place) (children : List Node) : Node :=
  match opened with
  | .element .wrapper => .element .wrapper place (unwrapped children)
  | .element kind => .element kind place children
  | .entry => .entry (children.flatMap rawText) place

end Node

namespace Attribute

/-- The value of the first attribute with one of some keys. -/
def find? (attributes : List Attribute) (keys : List Text) : Option Text :=
  (attributes.find? fun a => keys.contains a.key).map (·.value)

end Attribute

namespace Builder

/-- The tags of the open elements, innermost first. -/
def openTags (b : Builder) : List Tag := b.frames.map (·.opened.tag)

def push (b : Builder) (n : Node) : Builder := { b with nodes := n :: b.nodes }

/-- Whether a tag may stand here; if not, inside which open element it may not.  An
    item has to be in a list. -/
def misplacedIn? (b : Builder) (tag : Tag) : Option Tag :=
  match b.openTags.find? (·.forbids tag) with
  | some parent => some parent
  | none =>
    if tag = .item ∧ !b.openTags.contains .list then some (b.openTags.head?.getD .desc)
    else none

def variableNode (attributes : List Attribute) (span : Span) : Except MarkupError Node :=
  match Attribute.find? attributes [['v'], ['v', 'a', 'l', 'u', 'e']] with
  | none => .error (.missingAttribute .var ['v'] span.start)
  | some value =>
    if Path.isPath (Text.trim value) then .ok (.var (Text.trim value) span)
    else .error (.malformedTag .var span.start .notAPath)

def conditionalElement (attributes : List Attribute) (offset : Nat) : Except MarkupError Element :=
  match Attribute.find? attributes [['c', 'o', 'n', 'd'], "condition".toList] with
  | none => .error (.missingAttribute .conditional ['c', 'o', 'n', 'd'] offset)
  | some expr =>
    match Condition.read expr with
    | .ok c => .ok (.conditional c)
    | .error e => .error (.condition offset e)

/-- The name that an opening tag gives to a list; a blank name is none. -/
def listName? (attributes : List Attribute) : Option Text :=
  (Attribute.find? attributes [['n', 'a', 'm', 'e']]).bind Text.trimmed?

/-- What an opening tag with its attributes comes to. -/
def opening (tag : Tag) (attributes : List Attribute) (span : Span) :
    Except MarkupError Opening :=
  match tag with
  | .desc => .ok (.content (.element .wrapper))
  | .sentence => .ok (.content (.element .sentence))
  | .list => .ok (.content (.element (.list (listName? attributes))))
  | .item => .ok (.content .entry)
  | .conditional => (conditionalElement attributes span.start).map fun e => .content (.element e)
  | .var => (variableNode attributes span).map .leaf

def open_ (b : Builder) (tag : Tag) (attributes : List Attribute) (selfClosing : Bool)
    (span : Span) : Except MarkupError Builder :=
  match b.misplacedIn? tag with
  | some parent => .error (.misplaced tag parent span.start)
  | none =>
    match opening tag attributes span with
    | .error e => .error e
    | .ok (.leaf n) => .ok (b.push n)
    | .ok (.content o) =>
      if selfClosing then .ok (b.push (.ofOpened o ⟨span, Span.emptyAt span.stop⟩ []))
      else .ok ⟨⟨o, span, b.nodes⟩ :: b.frames, []⟩

/-- Takes a closing tag, which has to close the innermost open element. -/
def close (b : Builder) (tag : Tag) (span : Span) : Except MarkupError Builder :=
  match b.frames with
  | [] => .error (.unexpectedClose tag span.start)
  | frame :: outer =>
    if frame.opened.tag = tag then
      let place : Place := ⟨⟨frame.span.start, span.stop⟩, ⟨frame.span.stop, span.start⟩⟩
      .ok ⟨outer, .ofOpened frame.opened place b.nodes.reverse :: frame.before⟩
    else if tag.isVoid ∨ !b.openTags.contains tag then .error (.unexpectedClose tag span.start)
    else .error (.mismatchedClose frame.opened.tag tag span.start)

def add (b : Builder) : Token → Except MarkupError Builder
  | .text t s => .ok (b.push (.text t s))
  | .opening tag attributes selfClosing s => b.open_ tag attributes selfClosing s
  | .closing tag s => b.close tag s

def addAll (b : Builder) : List Token → Except MarkupError Builder
  | [] => .ok b
  | t :: ts =>
    match b.add t with
    | .error e => .error e
    | .ok b => b.addAll ts

end Builder

namespace Node

/-- The root of a tree: the single wrapper with blanks around it, if the template is
    that, else a wrapper of everything. -/
def root (size : Nat) (nodes : List Node) : Node :=
  match significant nodes with
  | [.element .wrapper place children] => .element .wrapper place children
  | _ => .element .wrapper ⟨⟨0, size⟩, ⟨0, size⟩⟩ nodes

/-- The tree of a template's tokens, `size` being the template's length in bytes. -/
def ofTokens (size : Nat) (tokens : List Token) : Except MarkupError Node :=
  match Builder.addAll {} tokens with
  | .error e => .error e
  | .ok b =>
    match b.frames with
    | frame :: _ => .error (.unclosed frame.opened.tag frame.span.start)
    | [] => .ok (root size b.nodes.reverse)

def parse (template : Text) : Except MarkupError Node :=
  match Token.scan template with
  | .error e => .error e
  | .ok tokens => ofTokens (Text.bytes template) tokens

end Node

end Scenery
