/-
  Scenery/Markup/Tag.lean
  =======================
  **The tags of description markup**, and the faults that reading markup can find.
-/
import Scenery.Condition.Reading
import Scenery.Span

namespace Scenery

/-- The six tags. -/
inductive Tag where
  | desc
  | sentence
  | conditional
  | list
  | item
  | var
  deriving DecidableEq, Repr

namespace Tag

def all : List Tag := [.desc, .sentence, .conditional, .list, .item, .var]

def name : Tag → Text
  | .desc => ['d', 'e', 's', 'c']
  | .sentence => ['s']
  | .conditional => ['i', 'f']
  | .list => ['i', 'l']
  | .item => ['i', 't', 'e', 'm']
  | .var => ['v', 'a', 'r']

/-- The tag with a name, whatever its case. -/
def ofName? (t : Text) : Option Tag := all.find? fun tag => tag.name = Text.asciiLower t

/-- A variable has no content and is never closed. -/
def isVoid (t : Tag) : Bool := t == .var

end Tag

/-- What can be wrong inside one tag. -/
inductive Malformation where
  | closingWithAttributes
  | slashWithoutEnd
  | noAttributeName
  | noAttributeValue
  | unquotedValue
  | notAPath
  deriving DecidableEq, Repr

def Malformation.message : Malformation → String
  | .closingWithAttributes => "closing tags take no attributes"
  | .slashWithoutEnd => "expected '>' after '/'"
  | .noAttributeName => "expected an attribute name"
  | .noAttributeValue => "attributes need a quoted value"
  | .unquotedValue => "attribute values must be quoted"
  | .notAPath => "variable path must be dotted identifiers"

/-- What can be wrong with marked-up text.  Every error names the byte at which the
    offending tag starts. -/
inductive MarkupError where
  | unterminatedTag (tag : Tag) (offset : Nat)
  | malformedTag (tag : Tag) (offset : Nat) (reason : Malformation)
  | missingAttribute (tag : Tag) (key : Text) (offset : Nat)
  | unclosed (tag : Tag) (offset : Nat)
  | mismatchedClose (expected found : Tag) (offset : Nat)
  | unexpectedClose (tag : Tag) (offset : Nat)
  | misplaced (tag parent : Tag) (offset : Nat)
  | condition (offset : Nat) (error : Condition.SyntaxError)
  deriving DecidableEq, Repr

namespace MarkupError

/-- The tag that an error is about. -/
def tag : MarkupError → Tag
  | .unterminatedTag t _ | .malformedTag t _ _ | .missingAttribute t _ _ | .unclosed t _
  | .mismatchedClose _ t _ | .unexpectedClose t _ | .misplaced t _ _ => t
  | .condition _ _ => .conditional

/-- The byte at which that tag starts. -/
def offset : MarkupError → Nat
  | .unterminatedTag _ n | .malformedTag _ n _ | .missingAttribute _ _ n | .unclosed _ n
  | .mismatchedClose _ _ n | .unexpectedClose _ n | .misplaced _ _ n | .condition n _ => n

def message : MarkupError → String
  | .unterminatedTag t n =>
    "unterminated <" ++ t.name.toStr ++ "> tag starting at byte " ++ toString n
  | .malformedTag t n reason =>
    "malformed <" ++ t.name.toStr ++ "> tag at byte " ++ toString n ++ ": " ++ reason.message
  | .missingAttribute t a n =>
    "<" ++ t.name.toStr ++ "> tag at byte " ++ toString n ++ " is missing its '" ++
      a.toStr ++ "' attribute"
  | .unclosed t n =>
    "<" ++ t.name.toStr ++ "> opened at byte " ++ toString n ++ " is never closed"
  | .mismatchedClose expected found n =>
    "</" ++ found.name.toStr ++ "> at byte " ++ toString n ++ " does not close the open <" ++
      expected.name.toStr ++ ">"
  | .unexpectedClose t n =>
    "</" ++ t.name.toStr ++ "> at byte " ++ toString n ++ " has no matching open tag"
  | .misplaced t parent n =>
    "<" ++ t.name.toStr ++ "> at byte " ++ toString n ++ " is not allowed inside <" ++
      parent.name.toStr ++ ">"
  | .condition n e => "invalid condition in <if> at byte " ++ toString n ++ ": " ++ e.message

end MarkupError

end Scenery
