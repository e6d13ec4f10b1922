/-
  Scenery/Document/Ron/Scalar.lean
  ================================
  **Names, strings and numbers of a RON document.**  Strings are put together byte by
  byte, since an escape can give a single byte; the whole has to be valid UTF-8.
-/
import Scenery.Document.Ron.Basic
import Scenery.Number.Reading
import Scenery.Text.Identifier

namespace Scenery.Ron

/-- What follows the given characters. -/
def after? (start : Text) (t : Text) : Option Text :=
  if start.isPrefixOf t then some (t.drop start.length) else none

/-- What follows the given word, which no identifier continues. -/
def afterWord? (word : Text) (t : Text) : Option Text :=
  match after? word t with
  | none => none
  | some rest => if (rest.head?).any Text.isIdentifierPart then none else some rest

/-! ### Names -/

/-- Raw names have points and signs too. -/
def isRawPart (c : Char) : Bool :=
  c == '.' || c == '+' || c == '-' || Text.isIdentifierPart c

/-- Names start like identifiers or with an underscore. -/
def isNameStart (c : Char) : Bool := c == '_' || Text.isIdentifierStart c

/-- Beginnings that look like a name but start a string or byte. -/
def literalStarts : List Text :=
  ["b\"", "b'", "br#", "br\"", "r\"", "r#\"", "r##"].map String.toList

/-- A name at the start of a text. -/
def readName? (t : Text) : Option (Text × Text) :=
  if literalStarts.any (·.isPrefixOf t) then none
  else
    match t with
    | 'r' :: '#' :: s =>
      let name := s.takeWhile isRawPart
      if name.isEmpty then none else some (name, s.dropWhile isRawPart)
    | c :: s =>
      if isNameStart c then
        some (c :: s.takeWhile Text.isIdentifierPart, s.dropWhile Text.isIdentifierPart)
      else none
    | [] => none

/-! ### Strings -/

/-- A character as UTF-8. -/
def encoded (c : Char) : List UInt8 := String.utf8EncodeChar c

/-- The text of UTF-8 bytes. -/
def decode? (content : List UInt8) : Option Text :=
  (String.fromUTF8? ⟨content.toArray⟩).map String.toList

/-- What an escape stands for. -/
inductive Escape where
  | byte (b : UInt8)
  | character (c : Char)

def Escape.bytes : Escape → List UInt8
  | .byte b => [b]
  | .character c => encoded c

/-- A character number in braces: one to six hexadecimal digits. -/
def readNumbered? (t : Text) : Option (Char × Text) :=
  let digits := (t.take 6).takeWhile (· ≠ '\x7d')
  if digits.isEmpty then none
  else
    match t.drop digits.length with
    | '\x7d' :: rest => (Text.hexChar? digits).map (·, rest)
    | _ => none

/-- The escape behind a backslash. -/
def readEscape? : Text → Option (Escape × Text)
  | '\'' :: t => some (.byte 0x27, t)
  | '"' :: t => some (.byte 0x22, t)
  | '\\' :: t => some (.byte 0x5C, t)
  | 'n' :: t => some (.byte 0x0A, t)
  | 'r' :: t => some (.byte 0x0D, t)
  | 't' :: t => some (.byte 0x09, t)
  | '0' :: t => some (.byte 0x00, t)
  | 'x' :: a :: b :: t => (Text.valueIn? 16 [a, b]).map fun n => (.byte n.toUInt8, t)
  | 'u' :: '\x7b' :: t => (readNumbered? t).map fun (c, rest) => (.character c, rest)
  | _ => none

theorem readNumbered?_le {t rest : Text} {c : Char} (h : readNumbered? t = some (c, rest)) :
    rest.length ≤ t.length := by
  simp only [readNumbered?] at h
  split at h
  · cases h
  · split at h
    · next hd =>
      obtain ⟨d, _, hd'⟩ := Option.map_eq_some_iff.1 h
      cases hd'
      have := congrArg List.length hd
      simp only [List.length_drop, List.length_cons] at this
      omega
    · cases h

theorem readEscape?_le {t rest : Text} {e : Escape} (h : readEscape? t = some (e, rest)) :
    rest.length ≤ t.length := by
  unfold readEscape? at h
  split at h
  case h_8 =>
    obtain ⟨n, _, hn⟩ := Option.map_eq_some_iff.1 h
    cases hn
    simp
    omega
  case h_9 =>
    obtain ⟨⟨c, r⟩, hc, hn⟩ := Option.map_eq_some_iff.1 h
    cases hn
    have := readNumbered?_le hc
    simp
    omega
  case h_10 => cases h
  all_goals cases h; simp

/-- The bytes of a string, behind its quote. -/
def readQuoted? (t : Text) : Option (List UInt8 × Text) :=
  match t with
  | [] => none
  | '"' :: t => some ([], t)
  | '\\' :: t =>
    match h : readEscape? t with
    | none => none
    | some (e, rest) =>
      have := readEscape?_le h
      (readQuoted? rest).map fun (content, rest) => (e.bytes ++ content, rest)
  | c :: t => (readQuoted? t).map fun (content, rest) => (encoded c ++ content, rest)
termination_by t.length
decreasing_by all_goals (simp only [List.length_cons]; omega)

/-- The rest of a raw string, which a quote with the given marks behind it closes. -/
def readRawRest? (marks : Text) : Text → Option (Text × Text)
  | [] => none
  | c :: t =>
    if c = '"' ∧ marks.isPrefixOf t then some ([], t.drop marks.length)
    else (readRawRest? marks t).map fun (s, rest) => (c :: s, rest)

/-- A raw string behind its letter. -/
def readRaw? (t : Text) : Option (Text × Text) :=
  match t.dropWhile (· == '#') with
  | '"' :: rest => readRawRest? (t.takeWhile (· == '#')) rest
  | _ => none

def readString? : Text → Option (Text × Text)
  | '"' :: t => do
    let (content, rest) ← readQuoted? t
    return (← decode? content, rest)
  | 'r' :: t => readRaw? t
  | _ => none

def readBytes? : Text → Option (List UInt8 × Text)
  | 'b' :: '"' :: t => readQuoted? t
  | 'b' :: 'r' :: t => (readRaw? t).map fun (s, rest) => (s.flatMap encoded, rest)
  | _ => none

def readCharacter? : Text → Option (Char × Text)
  | '\'' :: '\\' :: t => do
    let (e, t) ← readEscape? t
    let rest ← after? ['\''] t
    match e with
    | .byte b => return (Char.ofNat b.toNat, rest)
    | .character c => return (c, rest)
  | '\'' :: c :: '\'' :: rest => some (c, rest)
  | _ => none

/-- A byte in apostrophes: an ASCII character or an escape for a byte. -/
def readByte? : Text → Option (UInt8 × Text)
  | 'b' :: '\'' :: '\\' :: t => do
    let (e, t) ← readEscape? t
    let rest ← after? ['\''] t
    match e with
    | .byte b => return (b, rest)
    | .character _ => none
  | 'b' :: '\'' :: c :: '\'' :: rest => if c.toNat < 0x80 then some (c.toUInt8, rest) else none
  | _ => none

/-! ### Numbers -/

/-- Characters of integers to any radix. -/
def isIntegerPart (c : Char) : Bool := Text.isDigitIn 16 c || c == '_'

/-- Characters of other numbers. -/
def isRealPart (c : Char) : Bool :=
  c.isDigit || c == 'e' || c == 'E' || c == '.' || c == '+' || c == '-' || c == '_'

/-- The types that can be written behind an integer, and the bits of their values. -/
def integerTypes : List (Text × Bool × Nat) :=
  [("i8", true, 7), ("i16", true, 15), ("i32", true, 31), ("i64", true, 63),
   ("u8", false, 8), ("u16", false, 16), ("u32", false, 32), ("u64", false, 64)].map
    fun (word, type) => (word.toList, type)

/-- The integer is a value of a type. -/
def fits (signed : Bool) (bits : Nat) (i : Int) : Bool :=
  let bound : Int := Nat.pow 2 bits
  (if signed then -bound else 0) ≤ i && i < bound

/-- The integer of a run of digits, in which underscores do not count but must not
    come first. -/
def integerOf? (radix : Nat) (digits : Text) : Option Nat :=
  if digits.isEmpty ∨ digits.head? = some '_' then none
  else Text.valueIn? radix (digits.filter (· ≠ '_'))

/-- An integer to a radix, behind its mark. -/
def readInRadix? (radix : Nat) (negative : Bool) (t : Text) : Option (Ron × Text) := do
  let n ← integerOf? radix (t.takeWhile isIntegerPart)
  let i : Int := if negative then -n else n
  if fits true 63 i ∨ fits false 64 i then return (.integer none i, t.dropWhile isIntegerPart)
  else none

/-- A decimal integer, with a type behind it if one is written. -/
def readDecimal? (negative : Bool) (t : Text) : Option (Ron × Text) := do
  let n ← integerOf? 10 (t.takeWhile isIntegerPart)
  let i : Int := if negative then -n else n
  let rest := t.dropWhile isIntegerPart
  match integerTypes.findSome? fun (word, type) => (afterWord? word rest).map (word, type, ·) with
  | none => return (.integer none i, rest)
  | some (word, (signed, bits), rest) =>
    if fits signed bits i then return (.integer (some word) i, rest) else none

/-- An integer behind its sign. -/
def readInteger? (negative : Bool) : Text → Option (Ron × Text)
  | '0' :: 'x' :: t => readInRadix? 16 negative t
  | '0' :: 'b' :: t => readInRadix? 2 negative t
  | '0' :: 'o' :: t => readInRadix? 8 negative t
  | t => readDecimal? negative t

/-- A numeral without its underscores, which may only stand behind digits and in
    exponents. -/
def plain? (allowed : Bool) : Text → Option Text
  | [] => some []
  | c :: t =>
    if c = '_' then if allowed then plain? allowed t else none
    else
      let allowed := c.isDigit || c == 'e' || c == 'E' || (c != '.' && allowed)
      (plain? allowed t).map (c :: ·)

/-- What follows a word that may have the type of a float behind it. -/
def afterFloatWord? (word : Text) (t : Text) : Option Text :=
  [word, word ++ ['f', '3', '2'], word ++ ['f', '6', '4']].findSome? (afterWord? · t)

/-- A number with a point or an exponent. -/
def readReal? (t : Text) : Option (Ron × Text) :=
  let text := t.takeWhile isRealPart
  if ((plain? false text).bind Decimal.read?).isSome then
    let rest := t.dropWhile isRealPart
    some (.real text, (afterFloatWord? [] rest).getD rest)
  else none

/-- Infinity or not-a-number behind a sign. -/
def readSpecial? (t : Text) : Option (Ron × Text) :=
  ["inf", "NaN"].findSome? fun word =>
    (afterFloatWord? word.toList t).map (.real word.toList, ·)

/-- A number.  If what could be an integer is none, it may still be a real number. -/
def readNumber? (t : Text) : Option (Ron × Text) :=
  let (negative, s) := Text.readSign t
  if (s.takeWhile isIntegerPart).length < (s.takeWhile isRealPart).length then readReal? t
  else (readInteger? negative s).or ((readReal? t).or (readSpecial? s))

end Scenery.Ron
