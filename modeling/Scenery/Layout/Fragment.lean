/-
  Scenery/Layout/Fragment.lean
  ============================
  **Fragments**: the pieces of a line that are never broken.  A line is cut where the
  line breaking rules allow it, words with hyphens are cut behind these, and what is
  still wider than a line is cut anywhere.  Nothing is lost: the fragments with their
  spaces make up the line.
-/
import Scenery.Layout.Alphanumeric
import Scenery.Layout.LineBreak
import Scenery.Layout.Width

namespace Scenery.Layout

/-- A piece of a line, its columns, and the number of spaces behind it. -/
structure Fragment where
  word : Text
  width : Nat
  spaces : Nat
  deriving DecidableEq, Repr

namespace Fragment

/-- The fragment of a piece of text: its trailing spaces are set apart. -/
def ofText (t : Text) : Fragment :=
  let word := (t.reverse.dropWhile (· == ' ')).reverse
  ⟨word, Layout.width word, t.length - word.length⟩

def text (f : Fragment) : Text := f.word ++ List.replicate f.spaces ' '

/-- Hyphens and soft hyphens are no places to break a line by themselves. -/
def endsInHyphen : Option Char → Bool
  | some c => c == '-' || c == '\u00ad'
  | none => true

/-- Whether a glyph is an escape sequence. -/
def isEscape (glyph : Text) : Bool := glyph.head? == some '\x1b'

/-- Cuts glyphs where a line can be broken.  `previous` is the last character seen,
    `hidden` the escape sequences since then, which go with the next character, and
    `piece` what has been read of the current piece. -/
def cut (b : Before) (previous : Option Char) (piece hidden : Text) :
    List (Text × Nat) → List Text
  | [] => if piece ++ hidden = [] then [] else [piece ++ hidden]
  | (glyph, _) :: glyphs =>
    if isEscape glyph then cut b previous piece (hidden ++ glyph) glyphs
    else
      match glyph.head? with
      | none => cut b previous piece hidden glyphs
      | some c =>
        let (breaks, b) := b.next c
        if breaks && !endsInHyphen previous then
          piece :: cut b (some c) (hidden ++ glyph) [] glyphs
        else cut b (some c) (piece ++ hidden ++ glyph) [] glyphs

/-- The pieces of a line. -/
def pieces (line : Text) : List Text := cut Before.start none [] [] (glyphs line)

/-- Cuts a word behind every hyphen that stands between letters or numbers.
    `previous` says whether one stands before the text. -/
def cutAtHyphens (previous : Bool) : Text → List Text
  | [] => [[]]
  | [c] => [[c]]
  | c :: d :: t =>
    match cutAtHyphens (isAlphanumeric c) (d :: t) with
    | [] => [[c]]
    | part :: parts =>
      if c == '-' && previous && isAlphanumeric d then [c] :: part :: parts
      else (c :: part) :: parts

/-- The parts of a fragment between its hyphens; the last one keeps the spaces. -/
def splitAtHyphens (f : Fragment) : List Fragment :=
  let parts := cutAtHyphens false f.word
  parts.dropLast.map (fun part => ⟨part, Layout.width part, 0⟩) ++
    (parts.getLast?.map fun part => ⟨part, Layout.width part, f.spaces⟩).toList

/-- Cuts glyphs into parts of at most `limit` columns, or of one glyph if that is
    wider. -/
def cutAtWidth (limit : Nat) (part : Text) (width : Nat) :
    List (Text × Nat) → List (Text × Nat)
  | [] => if part = [] then [] else [(part, width)]
  | (glyph, w) :: glyphs =>
    if !isEscape glyph && decide (0 < width) && decide (limit < width + w) then
      (part, width) :: cutAtWidth limit glyph w glyphs
    else cutAtWidth limit (part ++ glyph) (width + w) glyphs

/-- The fragment if it fits a line, else its parts that do; the last one keeps the
    spaces. -/
def splitAtWidth (limit : Nat) (f : Fragment) : List Fragment :=
  if limit < f.width then
    let parts := cutAtWidth limit [] 0 (glyphs f.word)
    parts.dropLast.map (fun part => ⟨part.1, part.2, 0⟩) ++
      (parts.getLast?.map fun part => ⟨part.1, part.2, f.spaces⟩).toList
  else [f]

/-- The fragments of a line for a width. -/
def ofLine (limit : Nat) (line : Text) : List Fragment :=
  ((pieces line).map ofText).flatMap fun f => f.splitAtHyphens.flatMap (splitAtWidth limit)

end Fragment

end Scenery.Layout
