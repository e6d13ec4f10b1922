/-
  Scenery/Document/Toml/Scalar.lean
  =================================
  **Strings, numbers and moments of a TOML document.**  Every reader takes what a
  text starts with and gives back what follows it, which is never longer
  (`readEscape?_le`).
-/
import Scenery.Document.Toml.Basic
import Scenery.Number.Reading

namespace Scenery.Toml

/-! ### Characters -/

/-- Space and tab. -/
def isGap (c : Char) : Bool := c == ' ' || c == '\t'

/-- Characters that can stand for themselves on a line: no control characters except
    the tab. -/
def isPrintable (c : Char) : Bool := c == '\t' || (' ' ≤ c && c != '\x7f')

/-- What follows a line end: a line feed, with or without a carriage return. -/
def afterNewline? : Text → Option Text
  | '\n' :: t => some t
  | '\r' :: '\n' :: t => some t
  | _ => none

theorem afterNewline?_lt {t rest : Text} (h : afterNewline? t = some rest) :
    rest.length < t.length := by
  unfold afterNewline? at h
  split at h
  · cases h; exact Nat.lt_succ_self _
  · cases h; exact Nat.lt_succ_of_le (Nat.le_succ _)
  · cases h

/-- A text without a line end at its start. -/
def skipNewline (t : Text) : Text := (afterNewline? t).getD t

/-- A text without the gaps and line ends at its start. -/
def skipBlank : Text → Text
  | '\r' :: '\n' :: t => skipBlank t
  | c :: t => if isGap c || c == '\n' then skipBlank t else c :: t
  | [] => []

theorem skipBlank_le (t : Text) : (skipBlank t).length ≤ t.length := by
  fun_induction skipBlank t <;> simp_all <;> omega

/-! ### Strings -/

/-- A character number of a fixed count of hexadecimal digits. -/
def readHexEscape? (digits : Nat) (t : Text) : Option (Char × Text) :=
  if digits ≤ t.length then (Text.hexChar? (t.take digits)).map (·, t.drop digits) else none

/-- The escape behind a backslash. -/
def readEscape? : Text → Option (Char × Text)
  | '"' :: t => some ('"', t)
  | '\\' :: t => some ('\\', t)
  | 'b' :: t => some ('\x08', t)
  | 'f' :: t => some ('\x0c', t)
  | 'n' :: t => some ('\n', t)
  | 'r' :: t => some ('\r', t)
  | 't' :: t => some ('\t', t)
  | 'u' :: t => readHexEscape? 4 t
  | 'U' :: t => readHexEscape? 8 t
  | _ => none

theorem readHexEscape?_le {n : Nat} {t rest : Text} {c : Char}
    (h : readHexEscape? n t = some (c, rest)) : rest.length ≤ t.length := by
  unfold readHexEscape? at h
  split at h
  · obtain ⟨d, _, hd⟩ := Option.map_eq_some_iff.1 h
    cases hd
    simp
  · cases h

theorem readEscape?_le {t rest : Text} {c : Char} (h : readEscape? t = some (c, rest)) :
    rest.length ≤ t.length := by
  unfold readEscape? at h
  split at h
  case h_8 => have := readHexEscape?_le h; simp; omega
  case h_9 => have := readHexEscape?_le h; simp; omega
  case h_10 => cases h
  all_goals cases h; simp

/-- The rest of a string on one line, behind its quote. -/
def readQuoted? (t : Text) : Option (Text × Text) :=
  match t with
  | [] => none
  | '"' :: t => some ([], t)
  | '\\' :: t =>
    match h : readEscape? t with
    | none => none
    | some (c, rest) =>
      have := readEscape?_le h
      (readQuoted? rest).map fun (s, rest) => (c :: s, rest)
  | c :: t => if isPrintable c then (readQuoted? t).map fun (s, rest) => (c :: s, rest) else none
termination_by t.length
decreasing_by all_goals (simp only [List.length_cons]; omega)

/-- The rest of a literal string on one line, behind its apostrophe. -/
def readLiteral? : Text → Option (Text × Text)
  | [] => none
  | '\'' :: t => some ([], t)
  | c :: t => if isPrintable c then (readLiteral? t).map fun (s, rest) => (c :: s, rest) else none

/-- Behind the three quotes that close a string on several lines: up to two more
    belong to the string. -/
def closingQuotes (quote : Char) : Text → Text × Text
  | a :: b :: t =>
    if a = quote ∧ b = quote then ([a, b], t)
    else if a = quote then ([a], b :: t)
    else ([], a :: b :: t)
  | [a] => if a = quote then ([a], []) else ([], [a])
  | [] => ([], [])

/-- What follows an escaped line end, which swallows the blanks behind it. -/
def afterEscapedNewline? (t : Text) : Option Text :=
  (afterNewline? (t.dropWhile isGap)).map skipBlank

theorem afterEscapedNewline?_le {t rest : Text} (h : afterEscapedNewline? t = some rest) :
    rest.length ≤ t.length := by
  obtain ⟨s, hs, rfl⟩ := Option.map_eq_some_iff.1 h
  have h1 := skipBlank_le s
  have h2 := afterNewline?_lt hs
  have h3 := Text.length_dropWhile_le isGap t
  omega

/-- The rest of a string on several lines, behind its quotes. -/
def readQuotedLines? (t : Text) : Option (Text × Text) :=
  match t with
  | [] => none
  | '"' :: '"' :: '"' :: t => some (closingQuotes '"' t)
  | '\\' :: t =>
    match h : afterEscapedNewline? t with
    | some rest =>
      have := afterEscapedNewline?_le h
      readQuotedLines? rest
    | none =>
      match h : readEscape? t with
      | none => none
      | some (c, rest) =>
        have := readEscape?_le h
        (readQuotedLines? rest).map fun (s, rest) => (c :: s, rest)
  | '\r' :: '\n' :: t => (readQuotedLines? t).map fun (s, rest) => ('\n' :: s, rest)
  | c :: t =>
    if c = '\n' ∨ isPrintable c then (readQuotedLines? t).map fun (s, rest) => (c :: s, rest)
    else none
termination_by t.length
decreasing_by all_goals (simp only [List.length_cons]; omega)

/-- The rest of a literal string on several lines, behind its apostrophes. -/
def readLiteralLines? : Text → Option (Text × Text)
  | [] => none
  | '\'' :: '\'' :: '\'' :: t => some (closingQuotes '\'' t)
  | '\r' :: '\n' :: t => (readLiteralLines? t).map fun (s, rest) => ('\n' :: s, rest)
  | c :: t =>
    if c = '\n' ∨ isPrintable c then (readLiteralLines? t).map fun (s, rest) => (c :: s, rest)
    else none

/-- A string.  A line end right behind the opening quotes of one on several lines
    does not count. -/
def readString? : Text → Option (Text × Text)
  | '"' :: '"' :: '"' :: t => readQuotedLines? (skipNewline t)
  | '"' :: t => readQuoted? t
  | '\'' :: '\'' :: '\'' :: t => readLiteralLines? (skipNewline t)
  | '\'' :: t => readLiteral? t
  | _ => none

/-! ### Numbers -/

/-- More digits, each of which one underscore may precede. -/
def readMoreDigits? (isDigit : Char → Bool) : Text → Option (Text × Text)
  | [] => some ([], [])
  | ['_'] => none
  | '_' :: c :: t =>
    if isDigit c then (readMoreDigits? isDigit t).map fun (ds, rest) => (c :: ds, rest) else none
  | c :: t =>
    if isDigit c then (readMoreDigits? isDigit t).map fun (ds, rest) => (c :: ds, rest)
    else some ([], c :: t)

/-- Digits, with single underscores between them. -/
def readDigits? (isDigit : Char → Bool) : Text → Option (Text × Text)
  | [] => none
  | c :: t =>
    if isDigit c then (readMoreDigits? isDigit t).map fun (ds, rest) => (c :: ds, rest) else none

/-- The digits of a whole number: a leading zero stands alone. -/
def readWhole? : Text → Option (Text × Text)
  | '0' :: t => some (['0'], t)
  | t => readDigits? Char.isDigit t

/-- Digits behind a point, if one follows. -/
def readFraction? : Text → Option (Option Text × Text)
  | '.' :: t => (readDigits? Char.isDigit t).map fun (ds, rest) => (some ds, rest)
  | t => some (none, t)

/-- A power of ten, if one follows. -/
def readPower? : Text → Option (Option Int × Text)
  | c :: t =>
    if c = 'e' ∨ c = 'E' then
      let (negative, t) := Text.readSign t
      (readDigits? Char.isDigit t).map fun (ds, rest) =>
        let n : Int := Text.digitsValue ds
        (some (if negative then -n else n), rest)
    else some (none, c :: t)
  | [] => some (none, [])

/-- An integer that fits 64 bits. -/
def integer? (i : Int) : Option Toml :=
  let bound : Int := Nat.pow 2 63
  if -bound ≤ i ∧ i < bound then some (.integer i) else none

/-- A numeral with a point or a power of ten; one that rounds to infinity is refused
    unless it is negative. -/
def real? (d : Decimal) : Option Toml :=
  if !d.negative && d.rank = Rank.infinity then none else some (.real d.toNumber)

def readUnsigned? (negative : Bool) (t : Text) : Option (Toml × Text) := do
  let (whole, t) ← readWhole? t
  let (fraction, t) ← readFraction? t
  let (power, t) ← readPower? t
  let digits := Text.digitsValue (whole ++ fraction.getD [])
  if fraction.isNone ∧ power.isNone then
    return (← integer? (if negative then -(digits : Int) else digits), t)
  return (← real? ⟨negative, digits, power.getD 0 - (fraction.getD []).length⟩, t)

/-- An integer to a radix, behind its mark. -/
def readInRadix? (radix : Nat) (t : Text) : Option (Toml × Text) := do
  let (digits, t) ← readDigits? (Text.isDigitIn radix) t
  return (← integer? (← Text.valueIn? radix digits), t)

def readNumber? : Text → Option (Toml × Text)
  | '0' :: 'x' :: t => readInRadix? 16 t
  | '0' :: 'o' :: t => readInRadix? 8 t
  | '0' :: 'b' :: t => readInRadix? 2 t
  | t =>
    match Text.readSign t with
    | (negative, 'i' :: 'n' :: 'f' :: t) => some (.real (.real negative Rank.infinity), t)
    | (_, 'n' :: 'a' :: 'n' :: t) => some (.real .nan, t)
    | (negative, t) => readUnsigned? negative t

/-! ### Moments -/

/-- A number of a fixed count of digits. -/
def readFixed? (digits : Nat) (t : Text) : Option (Nat × Text) :=
  let ds := t.take digits
  if ds.length = digits ∧ ds.all Char.isDigit then some (Text.digitsValue ds, t.drop digits)
  else none

/-- What follows a given character. -/
def after? (c : Char) : Text → Option Text
  | [] => none
  | d :: t => if d = c then some t else none

def readDate? (t : Text) : Option (Date × Text) := do
  let (year, t) ← readFixed? 4 t
  let (month, t) ← readFixed? 2 (← after? '-' t)
  let (day, t) ← readFixed? 2 (← after? '-' t)
  let d : Date := ⟨year, month, day⟩
  if d.IsValid then return (d, t) else none

/-- A fraction of a second in nanoseconds, if one follows; digits behind the ninth do
    not count. -/
def readNanoseconds (t : Text) : Nat × Text :=
  match t with
  | '.' :: r =>
    let ds := r.takeWhile Char.isDigit
    let counted := ds.take 9
    if ds.isEmpty then (0, t)
    else (Text.digitsValue counted * Nat.pow 10 (9 - counted.length), r.dropWhile Char.isDigit)
  | _ => (0, t)

def readClock? (t : Text) : Option (Clock × Text) := do
  let (hour, t) ← readFixed? 2 t
  let (minute, t) ← readFixed? 2 (← after? ':' t)
  let (second, t) ← readFixed? 2 (← after? ':' t)
  let (nanosecond, t) := readNanoseconds t
  let c : Clock := ⟨hour, minute, second, nanosecond⟩
  if c.IsValid then return (c, t) else none

/-- An offset, if one follows. -/
def readOffset? : Text → Option (Option Offset × Text)
  | [] => some (none, [])
  | c :: t =>
    if c = 'Z' ∨ c = 'z' then some (some .utc, t)
    else if c = '+' ∨ c = '-' then do
      let (hours, t) ← readFixed? 2 t
      let (minutes, t) ← readFixed? 2 (← after? ':' t)
      if hours ≤ 23 ∧ minutes ≤ 59 then
        return (some (.minutes (c = '-') (60 * hours + minutes)), t)
      else none
    else some (none, c :: t)

/-- A date with a time of day behind it, if there is one, or a time of day alone. -/
def readMoment? (t : Text) : Option (Moment × Text) :=
  match readDate? t with
  | none => (readClock? t).map fun (c, rest) => (.clock c, rest)
  | some (d, rest) =>
    match rest with
    | [] => some (.date d, [])
    | c :: s =>
      match if c = 'T' ∨ c = 't' ∨ c = ' ' then readClock? s else none with
      | none => some (.date d, c :: s)
      | some (clock, s) => (readOffset? s).map fun (offset, s) => (.both d clock offset, s)

def readScalar? : Text → Option (Toml × Text)
  | 't' :: 'r' :: 'u' :: 'e' :: t => some (.boolean true, t)
  | 'f' :: 'a' :: 'l' :: 's' :: 'e' :: t => some (.boolean false, t)
  | c :: t =>
    if c = '"' ∨ c = '\'' then
      (readString? (c :: t)).map fun (s, rest) => (.string s, rest)
    else
      match readMoment? (c :: t) with
      | some (m, rest) => some (.moment m, rest)
      | none => readNumber? (c :: t)
  | [] => none

end Scenery.Toml
