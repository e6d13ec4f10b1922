/-
  Scenery/Layout/LineBreak.lean
  =============================
  **Where a line may be broken**, by the Unicode line breaking rules.  The text is
  read once from left to right; `Before` keeps what the rules need to know of the
  text before the next character.
-/
import Scenery.Layout.LineClass

namespace Scenery.Layout

/-- The text before a place, as far as the rules look at it. -/
structure Before where
  /-- The class of the last character that is no space and no mark. -/
  last : LineClass
  /-- Spaces follow it. -/
  spaced : Bool := false
  /-- The very last character is a joiner. -/
  joined : Bool := false
  /-- It ends an odd number of regional indicators. -/
  oddRegional : Bool := false
  /-- It is a hyphen behind a Hebrew letter. -/
  hebrewHyphen : Bool := false

namespace LineClass

/-- Characters that force a line end. -/
def isForced : LineClass → Bool
  | .lineEnd | .carriageReturn | .lineFeed | .nextLine => true
  | _ => false

/-- Characters that carry no marks. -/
def isBare (c : LineClass) : Bool := c.isForced || c == .space || c == .zeroWidthSpace

def isMark (c : LineClass) : Bool := c == .combining || c == .zeroWidthJoiner

def isLetter (c : LineClass) : Bool := c == .alphabetic || c == .hebrew

def isPicture (c : LineClass) : Bool := c == .ideograph || c == .emojiBase || c == .emojiModifier

def isHangul (c : LineClass) : Bool :=
  [jamoL, jamoV, jamoT, hangulLV, hangulLVT].contains c

/-- Two characters that make up a number or an amount. -/
def inNumber (a b : LineClass) : Bool :=
  [(closing, numericPost), (closingParenthesis, numericPost), (closing, numericPre),
    (closingParenthesis, numericPre), (numeric, numericPost), (numeric, numericPre),
    (numericPost, opening), (numericPost, numeric), (numericPre, opening),
    (numericPre, numeric), (hyphen, numeric), (infixSeparator, numeric), (numeric, numeric),
    (symbol, numeric)].contains (a, b)

/-- Two characters that make up a Hangul syllable. -/
def inSyllable (a b : LineClass) : Bool :=
  [(jamoL, jamoL), (jamoL, jamoV), (jamoL, hangulLV), (jamoL, hangulLVT), (jamoV, jamoV),
    (jamoV, jamoT), (hangulLV, jamoV), (hangulLV, jamoT), (jamoT, jamoT),
    (hangulLVT, jamoT)].contains (a, b)

/-- Two characters that stay together as parts of words, numbers or amounts. -/
def inWord (a b : LineClass) : Bool :=
  (a.isLetter && b == .numeric) || (a == .numeric && b.isLetter) ||
  (a == .numericPre && b.isPicture) || (a.isPicture && b == .numericPost) ||
  ((a == .numericPre || a == .numericPost) && b.isLetter) ||
  (a.isLetter && (b == .numericPre || b == .numericPost)) ||
  inNumber a b || inSyllable a b ||
  (a.isHangul && b == .numericPost) || (a == .numericPre && b.isHangul) ||
  (a.isLetter && b.isLetter) || (a == .infixSeparator && b.isLetter)

end LineClass

namespace Before

/-- The text has no character yet.  What is asked before the first character does not
    matter. -/
def start : Before := { last := .space, spaced := true }

/-- Whether spaces or a bare character come last, so that a mark stands alone. -/
def refusesMark (b : Before) : Bool := b.spaced || b.last.isBare

/-- Whether a line can be broken between the text and a character that is no mark of
    the character before it; `wide` says that it is an East Asian opening bracket. -/
def allows (b : Before) (c : LineClass) (wide : Bool) : Bool :=
  let a := b.last
  if !b.spaced && a.isForced then !(a == .carriageReturn && c == .lineFeed)
  else if c.isForced || c == .space || c == .zeroWidthSpace then false
  else if a == .zeroWidthSpace then true
  else if b.joined then false
  else if c == .wordJoiner || (!b.spaced && (a == .wordJoiner || a == .glue)) then false
  else if c == .glue && !b.spaced && a != .breakAfter && a != .hyphen then false
  else if [.closing, .closingParenthesis, .exclamation, .infixSeparator, .symbol].contains c then
    false
  else if a == .opening then false
  else if a == .quotation && c == .opening then false
  else if (a == .closing || a == .closingParenthesis) && c == .nonStarter then false
  else if a == .breakBoth && c == .breakBoth then false
  else if b.spaced then true
  else if c == .quotation || a == .quotation then false
  else if c == .contingent || a == .contingent then true
  else if c == .breakAfter || c == .hyphen || c == .nonStarter || a == .breakBefore then false
  else if b.hebrewHyphen then false
  else if a == .symbol && c == .hebrew then false
  else if c == .inseparable then false
  else if LineClass.inWord a c then false
  else if (a.isLetter || a == .numeric) && c == .opening && !wide then false
  else if a == .closingParenthesis && (c.isLetter || c == .numeric) then false
  else if a == .regional && c == .regional && b.oddRegional then false
  else if a == .emojiBase && c == .emojiModifier then false
  else true

/-- The text with one character more, which is no mark of the character before it. -/
def extend (b : Before) (c : LineClass) : Before :=
  if c == .space then
    if b.last.isForced && !b.spaced then { last := .space, spaced := true }
    else { last := b.last, spaced := true }
  else
    { last := c
      oddRegional := c == .regional && !(b.last == .regional && !b.spaced && b.oddRegional)
      hebrewHyphen := b.last == .hebrew && !b.spaced && (c == .hyphen || c == .breakAfter) }

/-- Whether a line can be broken before the next character, and the text with it. -/
def next (b : Before) (c : Char) : Bool × Before :=
  let cls := LineClass.of c
  let joined := cls == .zeroWidthJoiner
  if cls.isMark then
    if b.refusesMark then
      (b.allows .alphabetic false, { b.extend .alphabetic with joined := joined })
    else (false, { b with joined := joined })
  else
    (b.allows cls (LineClass.isWideOpening c), b.extend cls)

end Before

end Scenery.Layout
