/-
  Scenery/Markup/Token.lean
  =========================
  **Tokens**: opening tags, closing tags and the text between them, each with its
  place in the template.

  A `<` starts a tag only if the name of a tag follows it, directly or after a `/`,
  and that name ends with a blank, `/`, `>` or the end of the text.  Every other `<`
  is text.  `readTag` looks at what follows one `<`; `Token.scan` goes through a
  whole template.  Both shorten the text that is left (`length_lt_of_readTag`), so
  scanning ends.
-/
import Scenery.Markup.Tag

namespace Scenery

/-- One `key="value"` of an opening tag, the key in lower case. -/
structure Attribute where
  key : Text
  value : Text
  deriving DecidableEq, Repr

/-- A tag as it is written, without its place. -/
inductive TagText where
  | opening (tag : Tag) (attributes : List Attribute) (selfClosing : Bool)
  | closing (tag : Tag)
  deriving DecidableEq, Repr

/-- A piece of a template and its place. -/
inductive Token where
  | opening (tag : Tag) (attributes : List Attribute) (selfClosing : Bool) (span : Span)
  | closing (tag : Tag) (span : Span)
  | text (text : Text) (span : Span)
  deriving DecidableEq, Repr

namespace Token

def span : Token → Span
  | .opening _ _ _ s => s
  | .closing _ s => s
  | .text _ s => s

def ofTag : TagText → Span → Token
  | .opening tag attributes selfClosing, s => .opening tag attributes selfClosing s
  | .closing tag, s => .closing tag s

end Token

/-- What can be wrong with a tag, wherever it stands. -/
inductive TagFault where
  | unterminated
  | malformed (reason : Malformation)
  deriving DecidableEq, Repr

/-- The fault of a tag that starts at a byte. -/
def TagFault.toError (tag : Tag) (offset : Nat) : TagFault → MarkupError
  | .unterminated => .unterminatedTag tag offset
  | .malformed reason => .malformedTag tag offset reason

namespace TagText

/-- The characters of attribute names. -/
def isKeyChar (c : Char) : Bool := c.isAlphanum || c == '-' || c == '_'

def skipBlanks (t : Text) : Text := t.dropWhile Text.isTagBlank

/-- The quoted value behind an `=`: the first equal quote ends it. -/
def readValue (t : Text) : Except TagFault (Text × Text) :=
  match skipBlanks t with
  | [] => .error .unterminated
  | q :: t =>
    if q = '"' ∨ q = '\'' then
      match t.dropWhile (· != q) with
      | [] => .error .unterminated
      | _ :: rest => .ok (t.takeWhile (· != q), rest)
    else .error (.malformed .unquotedValue)

/-- One attribute: a name, `=` and a quoted value. -/
def readAttribute (t : Text) : Except TagFault (Attribute × Text) :=
  let key := t.takeWhile isKeyChar
  if key = [] then .error (.malformed .noAttributeName)
  else
    match skipBlanks (t.dropWhile isKeyChar) with
    | [] => .error .unterminated
    | c :: rest =>
      if c = '=' then
        match readValue rest with
        | .ok (value, rest) => .ok (⟨Text.asciiLower key, value⟩, rest)
        | .error fault => .error fault
      else .error (.malformed .noAttributeValue)

theorem length_lt_of_readValue {t value rest : Text} (h : readValue t = .ok (value, rest)) :
    rest.length < t.length := by
  have hs := Text.length_dropWhile_le Text.isTagBlank t
  simp only [readValue, skipBlanks] at h
  split at h
  · cases h
  · next q s hq =>
    rw [hq] at hs
    split at h
    · have hd := Text.length_dropWhile_le (· != q) s
      split at h
      · cases h
      · next hr =>
        rw [hr] at hd
        simp only [Except.ok.injEq, Prod.mk.injEq] at h
        obtain ⟨-, rfl⟩ := h
        simp only [List.length_cons] at hs hd
        omega
    · cases h

/-- An attribute takes at least one character. -/
theorem length_lt_of_readAttribute {t : Text} {a : Attribute} {rest : Text}
    (h : readAttribute t = .ok (a, rest)) : rest.length < t.length := by
  have hk := Text.length_dropWhile_le isKeyChar t
  have hs := Text.length_dropWhile_le Text.isTagBlank (t.dropWhile isKeyChar)
  simp only [readAttribute, skipBlanks] at h
  split at h
  · cases h
  · split at h
    · cases h
    · next c r hc =>
      rw [hc] at hs
      split at h
      · split at h
        · next hv =>
          have := length_lt_of_readValue hv
          simp only [Except.ok.injEq, Prod.mk.injEq] at h
          obtain ⟨-, rfl⟩ := h
          simp only [List.length_cons] at hs
          omega
        · cases h
      · cases h

/-- The attributes of an opening tag up to its end, whether the tag closes itself,
    and what follows the tag. -/
def readAttributes (t : Text) : Except TagFault (List Attribute × Bool × Text) :=
  match skipBlanks t with
  | [] => .error .unterminated
  | '>' :: rest => .ok ([], false, rest)
  | ['/'] => .error .unterminated
  | '/' :: c :: rest =>
    if c = '>' then .ok ([], true, rest) else .error (.malformed .slashWithoutEnd)
  | _ =>
    match _h : readAttribute (skipBlanks t) with
    | .error fault => .error fault
    | .ok (a, rest) =>
      match readAttributes rest with
      | .error fault => .error fault
      | .ok (more, selfClosing, rest) => .ok (a :: more, selfClosing, rest)
termination_by t.length
decreasing_by
  have := length_lt_of_readAttribute _h
  have := Text.length_dropWhile_le Text.isTagBlank t
  simp only [skipBlanks] at *
  omega

def readClosingEnd (t : Text) : Except TagFault Text :=
  match skipBlanks t with
  | [] => .error .unterminated
  | c :: rest => if c = '>' then .ok rest else .error (.malformed .closingWithAttributes)

/-- The name of a tag ends here: a blank, `>`, `/` or the end of the text follows. -/
def endsName : Text → Bool
  | [] => true
  | c :: _ => Text.isTagBlank c || c == '>' || c == '/'

/-- Whether a `/` comes first, and what follows it. -/
def readSlash : Text → Bool × Text
  | '/' :: t => (true, t)
  | t => (false, t)

/-- Whether a `/` makes the tag a closing one, the tag whose name follows, and what
    comes after the name.  Nothing if what follows the `<` is no name of a tag. -/
def readName? (t : Text) : Option (Bool × Tag × Text) :=
  let name := (readSlash t).2
  let rest := name.dropWhile Char.isAlpha
  match Tag.ofName? (name.takeWhile Char.isAlpha) with
  | none => none
  | some tag => if endsName rest then some ((readSlash t).1, tag, rest) else none

end TagText

/-- Reads what follows a `<`.  Nothing if it does not start a tag. -/
def readTag (t : Text) : Option (Tag × Except TagFault (TagText × Text)) :=
  match TagText.readName? t with
  | none => none
  | some (true, tag, rest) =>
    some (tag,
      match TagText.readClosingEnd rest with
      | .error fault => .error fault
      | .ok rest => .ok (.closing tag, rest))
  | some (false, tag, rest) =>
    some (tag,
      match TagText.readAttributes rest with
      | .error fault => .error fault
      | .ok (attributes, selfClosing, rest) => .ok (.opening tag attributes selfClosing, rest))

namespace TagText

theorem length_le_of_readAttributes {t : Text} {attributes : List Attribute} {sc : Bool}
    {rest : Text} (h : readAttributes t = .ok (attributes, sc, rest)) :
    rest.length ≤ t.length := by
  fun_induction readAttributes t generalizing attributes sc rest with
  | case1 => cases h
  | case2 t r hr =>
    have := Text.length_dropWhile_le Text.isTagBlank t
    simp only [skipBlanks] at hr
    rw [hr] at this
    simp only [Except.ok.injEq, Prod.mk.injEq] at h
    obtain ⟨-, -, rfl⟩ := h
    simp only [List.length_cons] at this
    omega
  | case3 => cases h
  | case4 t r hr =>
    have := Text.length_dropWhile_le Text.isTagBlank t
    simp only [skipBlanks] at hr
    rw [hr] at this
    simp only [Except.ok.injEq, Prod.mk.injEq] at h
    obtain ⟨-, -, rfl⟩ := h
    simp only [List.length_cons] at this
    omega
  | case5 => cases h
  | case6 => cases h
  | case7 => cases h
  | case8 t a r ha more sc' r' hm _ _ _ _ ih =>
    have hs := Text.length_dropWhile_le Text.isTagBlank t
    have hl := length_lt_of_readAttribute ha
    have := ih hm
    simp only [Except.ok.injEq, Prod.mk.injEq] at h
    obtain ⟨-, -, rfl⟩ := h
    simp only [skipBlanks] at hl
    omega

theorem length_lt_of_readClosingEnd {t rest : Text} (h : readClosingEnd t = .ok rest) :
    rest.length < t.length := by
  have hs := Text.length_dropWhile_le Text.isTagBlank t
  simp only [readClosingEnd, skipBlanks] at h
  split at h
  · cases h
  · next hr =>
    rw [hr] at hs
    split at h
    · cases h
      simp only [List.length_cons] at hs
      omega
    · cases h

theorem length_readSlash_le (t : Text) : (readSlash t).2.length ≤ t.length := by
  unfold readSlash
  split <;> simp

theorem length_le_of_readName? {t : Text} {closes : Bool} {tag : Tag} {rest : Text}
    (h : readName? t = some (closes, tag, rest)) : rest.length ≤ t.length := by
  simp only [readName?] at h
  split at h
  · cases h
  · split at h
    · simp only [Option.some.injEq, Prod.mk.injEq] at h
      obtain ⟨-, -, rfl⟩ := h
      exact Nat.le_trans (Text.length_dropWhile_le _ _) (length_readSlash_le t)
    · cases h

end TagText

/-- What follows a tag is shorter than what follows its `<`. -/
theorem length_lt_of_readTag {t : Text} {tag : Tag} {piece : TagText} {rest : Text}
    (h : readTag t = some (tag, .ok (piece, rest))) : rest.length < t.length + 1 := by
  simp only [readTag] at h
  split at h
  · cases h
  · next hn =>
    have := TagText.length_le_of_readName? hn
    simp only [Option.some.injEq, Prod.mk.injEq] at h
    obtain ⟨-, h⟩ := h
    split at h
    · cases h
    · next he =>
      have := TagText.length_lt_of_readClosingEnd he
      simp only [Except.ok.injEq, Prod.mk.injEq] at h
      obtain ⟨-, rfl⟩ := h
      omega
  · next hn =>
    have := TagText.length_le_of_readName? hn
    simp only [Option.some.injEq, Prod.mk.injEq] at h
    obtain ⟨-, h⟩ := h
    split at h
    · cases h
    · next ha =>
      have := TagText.length_le_of_readAttributes ha
      simp only [Except.ok.injEq, Prod.mk.injEq] at h
      obtain ⟨-, rfl⟩ := h
      omega

namespace Token

/-- Puts a character in front of tokens: it joins a text that starts there. -/
def consChar (c : Char) (offset : Nat) : List Token → List Token
  | .text t s :: tokens => .text (c :: t) ⟨offset, s.stop⟩ :: tokens
  | tokens => .text [c] ⟨offset, offset + c.utf8Size⟩ :: tokens

/-- The tokens of a text that starts at a byte of the template. -/
def scanFrom (offset : Nat) : Text → Except MarkupError (List Token)
  | [] => .ok []
  | c :: t =>
    if c = '<' then
      match _h : readTag t with
      | none =>
        match scanFrom (offset + c.utf8Size) t with
        | .error e => .error e
        | .ok tokens => .ok (consChar c offset tokens)
      | some (tag, .error fault) => .error (fault.toError tag offset)
      | some (_, .ok (piece, rest)) =>
        let stop := offset + (Text.bytes (c :: t) - Text.bytes rest)
        match scanFrom stop rest with
        | .error e => .error e
        | .ok tokens => .ok (ofTag piece ⟨offset, stop⟩ :: tokens)
    else
      match scanFrom (offset + c.utf8Size) t with
      | .error e => .error e
      | .ok tokens => .ok (consChar c offset tokens)
termination_by t => t.length
decreasing_by
  · simp
  · exact length_lt_of_readTag _h
  · simp

def scan (template : Text) : Except MarkupError (List Token) := scanFrom 0 template

end Token

end Scenery
