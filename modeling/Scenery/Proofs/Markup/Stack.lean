/-
  Scenery/Proofs/Markup/Stack.lean
  ================================
  **Building a tree on one stack.**  A builder keeps what stands outside of all elements
  apart from the elements that are open, so there is always a place for the next node.
  All of it can be kept on one stack whose lowest level is the root.  Then a stack may
  have no level at all, and whatever takes its top has to say what it does in that case.

  The case does not occur, whatever the tokens are (`build_eq`): each builder is a stack
  with the root at its bottom (`Builder.stack`), and every token does to the stack what
  it does to the builder (`add_stack`), for only a level that a tag has opened is ever
  taken off.
-/
import Scenery.Markup.Tree

namespace Scenery

/-- An open element with its opening tag's place and its nodes so far, last first; or the
    root, which no tag has opened. -/
structure Level where
  opened? : Option Opened
  span : Span
  nodes : List Node

def Level.tag? (l : Level) : Option Tag := l.opened?.map Opened.tag

/-- Why building stops. -/
inductive Halt where
  | fault (error : MarkupError)
  /-- There is no level where one is needed. -/
  | unreachable
  deriving DecidableEq, Repr

/-- The open elements, innermost first, and the root. -/
abbrev Stack := List Level

namespace Stack

/-- The tags of the open elements, innermost first. -/
def openTags (stack : Stack) : List Tag := stack.filterMap Level.tag?

/-- The root alone. -/
def start : Stack := [⟨none, ⟨0, 0⟩, []⟩]

/-- Adds a node to the innermost element. -/
def push : Stack → Node → Except Halt Stack
  | [], _ => .error .unreachable
  | top :: below, n => .ok ({ top with nodes := n :: top.nodes } :: below)

/-- Inside which open element a tag may not stand here. -/
def misplacedIn? (stack : Stack) (tag : Tag) : Option Tag :=
  match stack.openTags.find? (·.forbids tag) with
  | some parent => some parent
  | none =>
    if tag = .item ∧ !stack.openTags.contains .list then some (stack.openTags.head?.getD .desc)
    else none

def open_ (stack : Stack) (tag : Tag) (attributes : List Attribute) (selfClosing : Bool)
    (span : Span) : Except Halt Stack :=
  match stack.misplacedIn? tag with
  | some parent => .error (.fault (.misplaced tag parent span.start))
  | none =>
    match Builder.opening tag attributes span with
    | .error e => .error (.fault e)
    | .ok (.leaf n) => stack.push n
    | .ok (.content o) =>
      if selfClosing then stack.push (.ofOpened o ⟨span, Span.emptyAt span.stop⟩ [])
      else .ok (⟨some o, span, []⟩ :: stack)

/-- Takes the innermost element off the stack and adds its node to the one around it, if the
    closing tag is that of the innermost element. -/
def close (stack : Stack) (tag : Tag) (span : Span) : Except Halt Stack :=
  match stack.head?.bind Level.opened? with
  | none => .error (.fault (.unexpectedClose tag span.start))
  | some o =>
    if o.tag = tag then
      match stack with
      | [] => .error .unreachable
      | top :: below =>
        let place : Place := ⟨⟨top.span.start, span.stop⟩, ⟨top.span.stop, span.start⟩⟩
        push below (.ofOpened o place top.nodes.reverse)
    else if tag.isVoid ∨ !stack.openTags.contains tag then
      .error (.fault (.unexpectedClose tag span.start))
    else .error (.fault (.mismatchedClose o.tag tag span.start))

def add (stack : Stack) : Token → Except Halt Stack
  | .text t s => stack.push (.text t s)
  | .opening tag attributes selfClosing s => stack.open_ tag attributes selfClosing s
  | .closing tag s => stack.close tag s

def addAll (stack : Stack) : List Token → Except Halt Stack
  | [] => .ok stack
  | t :: ts =>
    match stack.add t with
    | .error h => .error h
    | .ok stack => stack.addAll ts

/-- The tree, once only the root is left. -/
def finish (size : Nat) : Stack → Except Halt Node
  | [] => .error .unreachable
  | [root] => .ok (Node.root size root.nodes.reverse)
  | top :: _ :: _ => .error (.fault (.unclosed (top.tag?.getD .desc) top.span.start))

def build (size : Nat) (tokens : List Token) : Except Halt Node :=
  match start.addAll tokens with
  | .error h => .error h
  | .ok stack => stack.finish size

/-- The levels of nodes in open elements, innermost first, with the root below them. -/
def ofFrames : List Node → List Frame → Stack
  | nodes, [] => [⟨none, ⟨0, 0⟩, nodes⟩]
  | nodes, frame :: outer => ⟨some frame.opened, frame.span, nodes⟩ :: ofFrames frame.before outer

end Stack

/-- A builder as a stack. -/
def Builder.stack (b : Builder) : Stack := Stack.ofFrames b.nodes b.frames

/-- The stack of a builder that has taken a token, or its fault. -/
def Halt.ofBuilder : Except MarkupError Builder → Except Halt Stack
  | .error e => .error (.fault e)
  | .ok b => .ok b.stack

namespace Stack

variable (b : Builder)

theorem openTags_stack : b.stack.openTags = b.openTags := by
  obtain ⟨frames, nodes⟩ := b
  rw [Builder.stack, Builder.openTags]
  induction frames generalizing nodes with
  | nil => rfl
  | cons frame outer ih =>
    have htag : Level.tag? ⟨some frame.opened, frame.span, nodes⟩ = some frame.opened.tag := rfl
    have houter := ih frame.before
    rw [openTags] at houter ⊢
    rw [ofFrames, List.filterMap_cons_some htag, houter, List.map_cons]

theorem misplacedIn?_stack (tag : Tag) : b.stack.misplacedIn? tag = b.misplacedIn? tag := by
  rw [misplacedIn?, openTags_stack]
  rfl

theorem push_stack (n : Node) : b.stack.push n = .ok (b.push n).stack := by
  obtain ⟨frames, nodes⟩ := b
  cases frames with
  | nil => rfl
  | cons frame outer => rfl

theorem open_stack (tag : Tag) (attributes : List Attribute) (sc : Bool) (span : Span) :
    b.stack.open_ tag attributes sc span = Halt.ofBuilder (b.open_ tag attributes sc span) := by
  rw [open_, misplacedIn?_stack, Builder.open_]
  rcases b.misplacedIn? tag with _ | parent
  · rcases Builder.opening tag attributes span with e | (o | n)
    · rfl
    · cases sc with
      | true => exact push_stack b _
      | false => rfl
    · exact push_stack b n
  · rfl

/-- Only a level that a tag has opened is taken off, and the root is below it. -/
theorem close_stack (tag : Tag) (span : Span) :
    b.stack.close tag span = Halt.ofBuilder (b.close tag span) := by
  have htags := openTags_stack b
  obtain ⟨frames, nodes⟩ := b
  cases frames with
  | nil => rfl
  | cons frame outer =>
    have hopened : (Builder.stack ⟨frame :: outer, nodes⟩).head?.bind Level.opened? =
        some frame.opened := rfl
    rw [close, hopened, Builder.close, htags]
    by_cases htag : frame.opened.tag = tag
    · simp only [if_pos htag]
      exact push_stack ⟨outer, frame.before⟩ _
    · simp only [if_neg htag]
      split
      · rfl
      · rfl

theorem add_stack (t : Token) : b.stack.add t = Halt.ofBuilder (b.add t) := by
  cases t with
  | text raw span => exact push_stack b _
  | opening tag attributes sc span => exact open_stack b tag attributes sc span
  | closing tag span => exact close_stack b tag span

theorem addAll_stack (ts : List Token) : b.stack.addAll ts = Halt.ofBuilder (b.addAll ts) := by
  induction ts generalizing b with
  | nil => rfl
  | cons t ts ih =>
    rw [addAll, add_stack, Builder.addAll]
    rcases b.add t with e | b'
    · rfl
    · exact ih b'

/-- **One stack builds what the builder builds**, and is nowhere without a level. -/
theorem build_eq (size : Nat) (tokens : List Token) :
    build size tokens = (Node.ofTokens size tokens).mapError Halt.fault := by
  have hstart : start = Builder.stack {} := rfl
  rw [build, hstart, addAll_stack, Node.ofTokens]
  rcases Builder.addAll {} tokens with e | ⟨_ | ⟨frame, _ | ⟨outer, frames⟩⟩, nodes⟩
  · rfl
  · rfl
  · rfl
  · rfl

end Stack

end Scenery
