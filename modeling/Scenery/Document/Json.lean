/-
  Scenery/Document/Json.lean
  ==========================
  **JSON documents.**  A text is cut into tokens, and the tokens are taken one by
  one, the arrays and objects that are still open forming a stack.  Objects keep
  their members in ascending order of the keys; of two members with one key the
  later counts.

  Numbers without fraction and exponent that fit 64 bits stay integers.  All others
  are made from at most 64 bits of digits and one power of ten, by one rounded
  multiplication or division, so the last bit of a long numeral is not always the
  nearest.
-/
import Scenery.Dictionary
import Scenery.Number.Reading

namespace Scenery

/-- A number of a JSON document. -/
inductive Json.Numeral where
  | integer (i : Int)
  | real (n : Number)
  deriving DecidableEq, Repr

/-- A JSON value. -/
inductive Json where
  | null
  | boolean (b : Bool)
  | number (n : Json.Numeral)
  | string (t : Text)
  | array (items : List Json)
  | object (members : List (Text × Json))
  deriving Repr

namespace Json

def Numeral.toNumber : Numeral → Number
  | .integer i => Number.ofInt i
  | .real n => n

/-! ### Numbers -/

/-- Digits are gathered as long as they fit 64 bits. -/
def digitLimit : Nat := Nat.pow 2 64

/-- Adds digits to a significand while it stays below the limit, and gives back the
    digits that are left. -/
def gather (significand : Nat) : Text → Nat × Text
  | [] => (significand, [])
  | c :: t =>
    let more := 10 * significand + (c.toNat - '0'.toNat)
    if more < digitLimit then gather more t else (significand, c :: t)

def powerOfTen (n : Nat) : Rank := Rank.ofRatio (Nat.pow 10 n) 1

/-- Divides by a power of ten, in steps of at most 10^308. -/
def scaleDown (r : Rank) (n : Nat) : Rank :=
  if n ≤ 308 then Rank.div r (powerOfTen n)
  else if r = Rank.zero then r
  else scaleDown (Rank.div r (powerOfTen 308)) (n - 308)
termination_by n

/-- `significand · 10^exponent`, in double precision arithmetic.  Nothing if that is
    infinite. -/
def scale? (significand : Nat) (exponent : Int) : Option Rank :=
  let r := Rank.ofRatio significand 1
  match exponent with
  | .ofNat n =>
    if n ≤ 308 then
      let product := Rank.mul r (powerOfTen n)
      if product = Rank.infinity then none else some product
    else if r = Rank.zero then some r else none
  | .negSucc n => some (scaleDown r (n + 1))

/-- The parts of a numeral: sign, digits before and behind the point, and the signed
    digits of the exponent. -/
structure NumeralText where
  negative : Bool
  whole : Text
  fraction : Option Text
  exponent : Option (Bool × Text)

/-- Exponents are gathered as long as they fit 32 bits. -/
def exponentLimit : Nat := Nat.pow 2 31

/-- The number of a numeral, nothing if it is out of range. -/
def NumeralText.toNumeral? (t : NumeralText) : Option Numeral :=
  let (significand, dropped) := gather 0 t.whole
  let fraction := t.fraction.getD []
  let (all, ignored) := gather significand fraction
  let shift : Int := (dropped.length : Int) - (fraction.length - ignored.length : Nat)
  let real (r : Rank) : Numeral := .real (.real t.negative r)
  match t.fraction, t.exponent with
  | none, none =>
    if dropped ≠ [] then (scale? significand shift).map real
    else if !t.negative then some (.integer significand)
    else if significand = 0 ∨ Nat.pow 2 63 < significand then
      some (real (Rank.ofRatio significand 1))
    else some (.integer (-significand))
  | _, none => (scale? all shift).map real
  | _, some (below, digits) =>
    let e := Text.digitsValue digits
    if e < exponentLimit then (scale? all (if below then shift - e else shift + e)).map real
    else if all = 0 ∨ below then some (real Rank.zero)
    else none

/-- Digits, of which there has to be one. -/
def readDigits? (t : Text) : Option (Text × Text) :=
  let digits := t.takeWhile Char.isDigit
  if digits = [] then none else some (digits, t.dropWhile Char.isDigit)

/-- The digits before the point: a leading zero stands alone. -/
def readWhole? (t : Text) : Option (Text × Text) :=
  match readDigits? t with
  | some ('0' :: _ :: _, _) => none
  | r => r

def readNumeral? (t : Text) : Option (Numeral × Text) :=
  let (negative, t) :=
    match t with
    | '-' :: r => (true, r)
    | r => (false, r)
  match readWhole? t with
  | none => none
  | some (whole, t) =>
    let fraction? : Option (Option Text × Text) :=
      match t with
      | '.' :: r => (readDigits? r).map fun (digits, r) => (some digits, r)
      | r => some (none, r)
    match fraction? with
    | none => none
    | some (fraction, t) =>
      let exponent? : Option (Option (Bool × Text) × Text) :=
        match t with
        | c :: r =>
          if c = 'e' ∨ c = 'E' then
            let (below, r) := Text.readSign r
            (readDigits? r).map fun (digits, r) => (some (below, digits), r)
          else some (none, c :: r)
        | [] => some (none, [])
      match exponent? with
      | none => none
      | some (exponent, t) =>
        (NumeralText.toNumeral? ⟨negative, whole, fraction, exponent⟩).map (·, t)

/-! ### Strings -/

/-- The character that a one-letter escape stands for. -/
def escaped? : Char → Option Char
  | '"' => some '"'
  | '\\' => some '\\'
  | '/' => some '/'
  | 'b' => some '\x08'
  | 'f' => some '\x0c'
  | 'n' => some '\n'
  | 'r' => some '\r'
  | 't' => some '\t'
  | _ => none

/-- The character of two halves of a surrogate pair. -/
def surrogatePair (high low : Nat) : Char :=
  Char.ofNat (0x10000 + (high - 0xD800) * 0x400 + (low - 0xDC00))

/-- The rest of a string behind its opening quote.  Control characters and halves of
    surrogate pairs are refused. -/
def readString? : Text → Option (Text × Text)
  | [] => none
  | '"' :: t => some ([], t)
  | '\\' :: 'u' :: a :: b :: c :: d :: t =>
    match Text.valueIn? 16 [a, b, c, d] with
    | none => none
    | some n =>
      if 0xDC00 ≤ n ∧ n ≤ 0xDFFF then none
      else if 0xD800 ≤ n ∧ n ≤ 0xDBFF then
        match t with
        | '\\' :: 'u' :: a' :: b' :: c' :: d' :: t' =>
          match Text.valueIn? 16 [a', b', c', d'] with
          | none => none
          | some m =>
            if 0xDC00 ≤ m ∧ m ≤ 0xDFFF then
              (readString? t').map fun (s, rest) => (surrogatePair n m :: s, rest)
            else none
        | _ => none
      else (readString? t).map fun (s, rest) => (Char.ofNat n :: s, rest)
  | '\\' :: c :: t =>
    match escaped? c with
    | none => none
    | some c => (readString? t).map fun (s, rest) => (c :: s, rest)
  | c :: t =>
    if c.toNat < 0x20 ∨ c = '\\' then none
    else (readString? t).map fun (s, rest) => (c :: s, rest)

/-! ### Tokens -/

/-- The pieces that a document is cut into. -/
inductive Token where
  | mark (c : Char)
  | scalar (v : Json)

/-- Space, tab, line feed and carriage return. -/
def isGap (c : Char) : Bool := c == ' ' || c == '\t' || c == '\n' || c == '\r'

def readToken? : Text → Option (Token × Text)
  | 'n' :: 'u' :: 'l' :: 'l' :: t => some (.scalar .null, t)
  | 't' :: 'r' :: 'u' :: 'e' :: t => some (.scalar (.boolean true), t)
  | 'f' :: 'a' :: 'l' :: 's' :: 'e' :: t => some (.scalar (.boolean false), t)
  | '"' :: t => (readString? t).map fun (s, rest) => (.scalar (.string s), rest)
  | c :: t =>
    if c ∈ ['[', ']', '\x7b', '\x7d', ',', ':'] then some (.mark c, t)
    else (readNumeral? (c :: t)).map fun (n, rest) => (.scalar (.number n), rest)
  | [] => none

def tokens? (t : Text) : Option (List Token) :=
  match t.dropWhile isGap with
  | [] => some []
  | c :: s =>
    match readToken? (c :: s) with
    | none => none
    | some (token, rest) =>
      if rest.length < t.length then (tokens? rest).map (token :: ·) else none
termination_by t.length

/-! ### Values -/

/-- An array or object that is still open: what it holds so far, and for an object
    the key of the member to come. -/
inductive Frame where
  | array (items : List Json)
  | object (members : List (Text × Json)) (key : Text)

/-- What has been read, and what may come next. -/
inductive State where
  /-- A value has to come. -/
  | value (frames : List Frame)
  /-- An array has just been opened. -/
  | firstItem (frames : List Frame)
  /-- An object has just been opened. -/
  | firstKey (frames : List Frame)
  /-- A key has to come. -/
  | key (members : List (Text × Json)) (frames : List Frame)
  /-- A colon has to come. -/
  | colon (members : List (Text × Json)) (key : Text) (frames : List Frame)
  /-- A value is complete. -/
  | done (v : Json) (frames : List Frame)

/-- So many arrays and objects can be open at once. -/
def depthLimit : Nat := 127

/-- The state after the start of a value. -/
def startValue? (frames : List Frame) : Token → Option State
  | .scalar v => some (.done v frames)
  | .mark '[' => if frames.length < depthLimit then some (.firstItem frames) else none
  | .mark '\x7b' => if frames.length < depthLimit then some (.firstKey frames) else none
  | .mark _ => none

/-- The state after one more token. -/
def State.next? : State → Token → Option State
  | .value frames, token => startValue? frames token
  | .firstItem frames, .mark ']' => some (.done (.array []) frames)
  | .firstItem frames, token => startValue? (.array [] :: frames) token
  | .firstKey frames, .mark '\x7d' => some (.done (.object []) frames)
  | .firstKey frames, .scalar (.string k) => some (.colon [] k frames)
  | .key members frames, .scalar (.string k) => some (.colon members k frames)
  | .colon members k frames, .mark ':' => some (.value (.object members k :: frames))
  | .done v (.array items :: frames), .mark ',' => some (.value (.array (items ++ [v]) :: frames))
  | .done v (.array items :: frames), .mark ']' => some (.done (.array (items ++ [v])) frames)
  | .done v (.object members k :: frames), .mark ',' =>
    some (.key (Dictionary.insertInto k v members) frames)
  | .done v (.object members k :: frames), .mark '\x7d' =>
    some (.done (.object (Dictionary.insertInto k v members)) frames)
  | _, _ => none

def read? (t : Text) : Option Json :=
  match tokens? t with
  | none => none
  | some tokens =>
    match tokens.foldlM State.next? (.value []) with
    | some (.done v []) => some v
    | _ => none

end Json

end Scenery
