/-
  Scenery/Text/Blank.lean
  =======================
  **Blank characters and words.**  Two notions of blank are in use: the wide one
  (every character with the Unicode property White_Space) decides what is trimmed
  and where words end, the narrow one (five ASCII characters) separates the parts
  of a tag.
-/
import Scenery.Text.Basic

namespace Scenery.Text

/-- Characters with the property White_Space. -/
def isBlank (c : Char) : Bool :=
  let n := c.toNat
  (0x9 ≤ n && n ≤ 0xD) || n == 0x20 || n == 0x85 || n == 0xA0 || n == 0x1680 ||
  (0x2000 ≤ n && n ≤ 0x200A) || n == 0x2028 || n == 0x2029 || n == 0x202F ||
  n == 0x205F || n == 0x3000

/-- Space, tab, line feed, form feed and carriage return. -/
def isTagBlank (c : Char) : Bool :=
  c == ' ' || c == '\t' || c == '\n' || c == '\x0c' || c == '\r'

def trimLeft (t : Text) : Text := t.dropWhile isBlank

def trimRight (t : Text) : Text := (t.reverse.dropWhile isBlank).reverse

def trim (t : Text) : Text := trimRight (trimLeft t)

def leadingBlanks (t : Text) : Text := t.takeWhile isBlank

def trailingBlanks (t : Text) : Text := (t.reverse.takeWhile isBlank).reverse

/-- A text with nothing but blanks. -/
def isAllBlank (t : Text) : Bool := t.all isBlank

/-- The first word of a text: its first run of characters that are not blank. -/
def firstWord (t : Text) : Text := (trimLeft t).takeWhile (!isBlank ·)

def afterFirstWord (t : Text) : Text := (trimLeft t).dropWhile (!isBlank ·)

/-- The text if it is more than blanks, trimmed. -/
def trimmed? (t : Text) : Option Text :=
  let t := trim t
  if t.isEmpty then none else some t

theorem isBlank_of_isTagBlank {c : Char} (h : isTagBlank c) : isBlank c := by
  simp only [isTagBlank, Bool.or_eq_true, beq_iff_eq] at h
  rcases h with (((rfl | rfl) | rfl) | rfl) | rfl <;> decide

/-- The leading blanks and the trimmed text make up the text. -/
theorem leadingBlanks_append_trimLeft (t : Text) : leadingBlanks t ++ trimLeft t = t :=
  List.takeWhile_append_dropWhile

/-- The text trimmed at its end and its trailing blanks make up the text. -/
theorem trimRight_append_trailingBlanks (t : Text) : trimRight t ++ trailingBlanks t = t := by
  rw [trimRight, trailingBlanks, ← List.reverse_append, List.takeWhile_append_dropWhile,
    List.reverse_reverse]

end Scenery.Text
