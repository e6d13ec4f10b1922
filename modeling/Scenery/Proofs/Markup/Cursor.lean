/-
  Scenery/Proofs/Markup/Cursor.lean
  =================================
  **Scanning by offsets.**  A scanner need not carry the text that is left: it can go
  through the bytes of a template with an offset and take slices of it.  Then two things
  can go wrong that have nothing to do with tags.  A slice can end outside of the
  template or inside a character (`Stop.slice`), and a loop can go on for ever; here
  each loop is given a number of rounds (`Stop.endless`).

  Neither happens, whatever the template is (`tokens_eq`).  At every offset that the
  scanner comes to, a character starts: it only goes over ASCII characters one by one,
  over everything else up to one that it has looked for, and what it reads at an offset
  is what the reader of tags reads of the text that is left there (`Follows`).  And each
  round of a loop takes at least one byte, so no loop needs more rounds than there are
  bytes.
-/
import Scenery.Proofs.Markup.Lexeme
import Scenery.Proofs.Text.Octets

namespace Scenery

namespace Cursor

/-- Why scanning stops. -/
inductive Stop where
  | fault (error : MarkupError)
  /-- The slice ends outside of the template or inside a character. -/
  | slice (span : Span)
  /-- A loop has used up its rounds. -/
  | endless
  deriving DecidableEq, Repr

/-- Stops at a tag. -/
def fail {α : Type} (tag : Tag) (start : Nat) (fault : TagFault) : Except Stop α :=
  .error (.fault (fault.toError tag start))

def slice (input : Text) (s : Span) : Except Stop Text :=
  if s.In input then .ok (s.slice input) else .error (.slice s)

def sliceFrom (input : Text) (start : Nat) : Except Stop Text :=
  slice input ⟨start, Text.bytes input⟩

/-- The offset of the first such character in a text. -/
def find? (c : Char) (t : Text) : Option Nat :=
  if c ∈ t then some (Text.bytes (t.takeWhile (· != c))) else none

/-- Goes over the bytes of a class of characters, in at most so many rounds. -/
def skip (input : Text) (p : Char → Bool) : Nat → Nat → Except Stop Nat
  | 0, _ => .error .endless
  | rounds + 1, pos =>
    match input.peek pos with
    | none => .ok pos
    | some c => if p c then skip input p rounds (pos + 1) else .ok pos

/-- The text up to the next quote, and the offset behind that quote. -/
def quoted (input : Text) (tag : Tag) (start : Nat) (q : Char) (pos : Nat) :
    Except Stop (Text × Nat) := do
  let behind ← sliceFrom input pos
  match find? q behind with
  | none => fail tag start .unterminated
  | some n =>
    let value ← slice input ⟨pos, pos + n⟩
    return (value, pos + n + 1)

/-- The quoted value behind an `=`, and the offset behind it. -/
def value (input : Text) (tag : Tag) (start rounds pos : Nat) : Except Stop (Text × Nat) := do
  let pos ← skip input Text.isTagBlank rounds pos
  match input.peek pos with
  | none => fail tag start .unterminated
  | some q =>
    if q = '"' ∨ q = '\'' then quoted input tag start q (pos + 1)
    else fail tag start (.malformed .unquotedValue)

def assignment (input : Text) (tag : Tag) (start rounds pos : Nat) :
    Except Stop (Attribute × Nat) := do
  let keyEnd ← skip input TagText.isKeyChar rounds pos
  if keyEnd = pos then fail tag start (.malformed .noAttributeName)
  else
    let key ← slice input ⟨pos, keyEnd⟩
    let pos ← skip input Text.isTagBlank rounds keyEnd
    match input.peek pos with
    | none => fail tag start .unterminated
    | some c =>
      if c = '=' then
        let (v, pos) ← value input tag start rounds (pos + 1)
        return (⟨Text.asciiLower key, v⟩, pos)
      else fail tag start (.malformed .noAttributeValue)

/-- The attributes up to the end of an opening tag, whether it closes itself, and the offset
    behind it.  The first number is that of the rounds left, the list that of the
    attributes read before. -/
def attributes (input : Text) (tag : Tag) (start rounds : Nat) :
    Nat → List Attribute → Nat → Except Stop ((List Attribute × Bool) × Nat)
  | 0, _, _ => .error .endless
  | left + 1, found, pos => do
    let pos ← skip input Text.isTagBlank rounds pos
    match input.peek pos with
    | none => fail tag start .unterminated
    | some c =>
      if c = '>' then return ((found, false), pos + 1)
      else if c = '/' then
        match input.peek (pos + 1) with
        | none => fail tag start .unterminated
        | some d =>
          if d = '>' then return ((found, true), pos + 1 + 1)
          else fail tag start (.malformed .slashWithoutEnd)
      else
        let (a, pos) ← assignment input tag start rounds pos
        attributes input tag start rounds left (found ++ [a]) pos

/-- The end of a closing tag behind its name. -/
def closing (input : Text) (tag : Tag) (start rounds pos : Nat) :
    Except Stop (TagText × Nat) := do
  let pos ← skip input Text.isTagBlank rounds pos
  match input.peek pos with
  | none => fail tag start .unterminated
  | some c =>
    if c = '>' then return (.closing tag, pos + 1)
    else fail tag start (.malformed .closingWithAttributes)

/-- The rest of an opening tag behind its name. -/
def opening (input : Text) (tag : Tag) (start rounds pos : Nat) :
    Except Stop (TagText × Nat) := do
  let ((attributes, selfClosing), stop) ← attributes input tag start rounds rounds [] pos
  return (.opening tag attributes selfClosing, stop)

/-- Whether the tag whose `<` is at an offset is a closing one, which tag it is, and the offset
    behind its name.  Nothing if there is no name of a tag. -/
def name? (input : Text) (start : Nat) : Except Stop (Option (Bool × Tag × Nat)) := do
  let closes := input.peek (start + 1) == some '/'
  let nameStart := start + 1 + Text.bytes (TagText.slash closes)
  let behind ← sliceFrom input nameStart
  let letters := behind.octets.takeWhile fun b => (Char.ofUInt8 b).isAlpha
  let nameEnd := nameStart + letters.length
  let name ← slice input ⟨nameStart, nameEnd⟩
  return (Tag.ofName? name).map fun tag => (closes, tag, nameEnd)

/-- The rest of a tag behind its name, which has to end there. -/
def behindName (input : Text) (closes : Bool) (tag : Tag) (start rounds pos : Nat) :
    Except Stop (Option (TagText × Nat)) :=
  match input.peek pos with
  | none => fail tag start .unterminated
  | some c =>
    if TagText.endsName [c] then
      if closes then (closing input tag start rounds pos).map some
      else (opening input tag start rounds pos).map some
    else .ok none

/-- The tag whose `<` is at an offset, and the offset behind it.  Nothing if that `<` does
    not start a tag. -/
def tag? (input : Text) (rounds start : Nat) : Except Stop (Option (TagText × Nat)) := do
  match ← name? input start with
  | none => return none
  | some (closes, tag, nameEnd) => behindName input closes tag start rounds nameEnd

/-- The text between two offsets, if there is any. -/
def textBetween (input : Text) (start stop : Nat) : Except Stop (List Token) := do
  if start < stop then
    let raw ← slice input ⟨start, stop⟩
    return [.text raw ⟨start, stop⟩]
  else return []

/-- Scans from an offset on.  The first number is that of the rounds left, the second the
    offset where the text starts that comes before the next tag, and the list that of the
    tokens found before. -/
def scanFrom (input : Text) (rounds : Nat) :
    Nat → Nat → Nat → List Token → Except Stop (List Token)
  | 0, _, _, _ => .error .endless
  | left + 1, textStart, pos, found => do
    let behind ← sliceFrom input pos
    match find? '<' behind with
    | none =>
      let text ← textBetween input textStart (Text.bytes input)
      return found ++ text
    | some n =>
      match ← tag? input rounds (pos + n) with
      | none => scanFrom input rounds left textStart (pos + n + 1) found
      | some (piece, stop) =>
        let text ← textBetween input textStart (pos + n)
        scanFrom input rounds left stop stop
          (found ++ text ++ [.ofTag piece ⟨pos + n, stop⟩])

/-- The tokens of a template, each loop going at most so many rounds. -/
def tokens (input : Text) (rounds : Nat) : Except Stop (List Token) :=
  scanFrom input rounds rounds 0 0 []

/-! ### Slices -/

variable {input rest : Text} {pos rounds start : Nat} {tag : Tag}

theorem slice_of_leftAt {x : Text} (h : input.LeftAt pos (x ++ rest)) :
    slice input ⟨pos, pos + Text.bytes x⟩ = .ok x := by
  obtain ⟨before, rfl, rfl⟩ := h
  have hin := Span.in_behind before x rest
  have hslice := Span.slice_behind before x rest
  rw [Span.behind] at hin hslice
  rw [slice, if_pos hin, hslice]

theorem sliceFrom_of_leftAt (h : input.LeftAt pos rest) : sliceFrom input pos = .ok rest := by
  have hwhole : input.LeftAt pos (rest ++ []) := by rwa [List.append_nil]
  rw [sliceFrom, h.bytes_eq]
  exact slice_of_leftAt hwhole

theorem find?_of_not_mem {c : Char} {t : Text} (h : c ∉ t) : find? c t = none := if_neg h

theorem find?_append {c : Char} {run : Text} (h : c ∉ run) (rest : Text) :
    find? c (run ++ c :: rest) = some (Text.bytes run) := by
  rw [find?, if_pos (by simp), Text.takeWhile_until h]

/-! ### Classes of ASCII characters -/

theorem isAscii_of_lt {p : Char → Bool} (h : ∀ c, p c → c.toNat < 128) : Text.IsAscii p := by
  intro c hc
  rw [Bool.eq_false_iff]
  intro hp
  exact absurd (h c hp) (Nat.not_lt.2 hc)

theorem isAscii_isTagBlank : Text.IsAscii Text.isTagBlank := by
  apply isAscii_of_lt
  intro c hc
  simp only [Text.isTagBlank, Bool.or_eq_true, beq_iff_eq] at hc
  rcases hc with (((rfl | rfl) | rfl) | rfl) | rfl <;> decide

theorem isAscii_isAlpha : Text.IsAscii Char.isAlpha := by
  apply isAscii_of_lt
  intro c hc
  have := TagText.toNat_of_isAlpha hc
  omega

theorem isAscii_isKeyChar : Text.IsAscii TagText.isKeyChar := by
  apply isAscii_of_lt
  intro c hc
  simp only [TagText.isKeyChar, Char.isAlphanum, Bool.or_eq_true, beq_iff_eq] at hc
  rcases hc with ((hc | hc) | rfl) | rfl
  · have := TagText.toNat_of_isAlpha hc
    omega
  · rw [Char.isDigit, Bool.and_eq_true, decide_eq_true_eq, decide_eq_true_eq] at hc
    exact Nat.lt_of_le_of_lt (UInt32.le_iff_toNat_le.1 hc.2) (by decide)
  · decide
  · decide

theorem isAscii_endsName : Text.IsAscii fun c => TagText.endsName [c] := by
  apply isAscii_of_lt
  intro c hc
  simp only [TagText.endsName, Text.isTagBlank, Bool.or_eq_true, beq_iff_eq] at hc
  rcases hc with (((((rfl | rfl) | rfl) | rfl) | rfl) | rfl) | rfl <;> decide

/-! ### Loops over single bytes -/

theorem skip_eq {p : Char → Bool} (hp : Text.IsAscii p) (h : input.LeftAt pos rest)
    (hrounds : Text.bytes rest < rounds) :
    skip input p rounds pos = .ok (pos + Text.bytes (rest.takeWhile p)) := by
  induction rounds generalizing pos rest with
  | zero => omega
  | succ rounds ih =>
    rw [skip]
    cases rest with
    | nil =>
      rw [h.peek_nil]
      rfl
    | cons c rest =>
      rw [h.peek_cons]
      simp only [Text.apply_lead hp]
      by_cases hc : p c
      · have hsize := Text.utf8Size_of_isAscii hp hc
        have hle : Text.bytes rest < rounds := by
          rw [Text.bytes_cons, hsize] at hrounds
          omega
        rw [if_pos hc, ih (h.one hsize) hle, List.takeWhile_cons_of_pos hc, Text.bytes_cons, hsize,
          Nat.add_assoc]
      · rw [if_neg hc, List.takeWhile_cons_of_neg hc]
        rfl

/-- Blanks are gone over to where the other characters start. -/
theorem skipBlanks_eq (h : input.LeftAt pos rest) (hrounds : Text.bytes input < rounds) :
    ∃ behind, skip input Text.isTagBlank rounds pos = .ok behind ∧
      input.LeftAt behind (TagText.skipBlanks rest) := by
  have hle : Text.bytes rest < rounds := by
    have := h.bytes_eq
    omega
  exact ⟨_, skip_eq isAscii_isTagBlank h hle, h.dropWhile Text.isTagBlank⟩

/-! ### Reading at an offset -/

/-- What is read at an offset is what is read of the text left there, and behind it the same
    text is left. -/
inductive Follows (input : Text) (tag : Tag) (start : Nat) {α : Type} :
    Except Stop (α × Nat) → Except TagFault (α × Text) → Prop
  | fault (f : TagFault) : Follows input tag start (fail tag start f) (.error f)
  | ok {a : α} {pos : Nat} {rest : Text} : input.LeftAt pos rest →
    Follows input tag start (.ok (a, pos)) (.ok (a, rest))

theorem Follows.eq_or {α : Type} {x : Except Stop (α × Nat)} {y : Except TagFault (α × Text)}
    (h : Follows input tag start x y) :
    (∃ f, x = fail tag start f ∧ y = .error f) ∨
      ∃ a stop behind, x = .ok (a, stop) ∧ y = .ok (a, behind) ∧ input.LeftAt stop behind := by
  cases h with
  | fault f => exact .inl ⟨f, rfl, rfl⟩
  | ok hleft => exact .inr ⟨_, _, _, rfl, rfl, hleft⟩

theorem quoted_follows {q : Char} (hq : q.utf8Size = 1) (h : input.LeftAt pos rest) :
    Follows input tag start (quoted input tag start q pos)
      (match rest.dropWhile (· != q) with
        | [] => .error .unterminated
        | _ :: behind => .ok (rest.takeWhile (· != q), behind)) := by
  rw [quoted, sliceFrom_of_leftAt h]
  simp only [bind, Except.bind]
  by_cases hmem : q ∈ rest
  · obtain ⟨run, behind, rfl, hrun⟩ := List.eq_append_cons_of_mem hmem
    rw [find?_append hrun, Text.dropWhile_until hrun, Text.takeWhile_until hrun]
    simp only
    rw [slice_of_leftAt h]
    exact .ok (h.forward.one hq)
  · have hnone : rest.dropWhile (· != q) = [] := by
      have hrun := Text.dropWhile_run (Text.bne_of_not_mem hmem) (Text.notStarting_nil _)
      rwa [List.append_nil] at hrun
    rw [find?_of_not_mem hmem, hnone]
    exact .fault _

theorem value_follows (h : input.LeftAt pos rest) (hrounds : Text.bytes input < rounds) :
    Follows input tag start (value input tag start rounds pos) (TagText.readValue rest) := by
  obtain ⟨behind, hskip, hleft⟩ := skipBlanks_eq h hrounds
  rw [value, hskip, TagText.readValue]
  simp only [bind, Except.bind]
  rcases hs : TagText.skipBlanks rest with _ | ⟨q, body⟩
  · rw [hs] at hleft
    rw [hleft.peek_nil]
    exact .fault _
  · rw [hs] at hleft
    rw [hleft.peek_cons]
    have hquote : (Text.lead q = '"' ∨ Text.lead q = '\'') ↔ (q = '"' ∨ q = '\'') := by
      rw [Text.lead_eq_iff (by decide), Text.lead_eq_iff (by decide)]
    simp only [hquote]
    by_cases hq : q = '"' ∨ q = '\''
    · have hascii : q.toNat < 128 := by
        rcases hq with rfl | rfl <;> decide
      have hsize := Text.utf8Size_of_lt hascii
      rw [if_pos hq, if_pos hq, Text.lead_of_lt hascii]
      exact quoted_follows hsize (hleft.one hsize)
    · rw [if_neg hq, if_neg hq]
      exact .fault _

theorem bytes_skipBlanks_le (t : Text) : Text.bytes (TagText.skipBlanks t) ≤ Text.bytes t := by
  obtain ⟨blanks, -, ht⟩ := TagText.exists_blanks t
  have hbytes := congrArg Text.bytes ht
  rw [Text.bytes_append] at hbytes
  omega

theorem bytes_lt_of_readAttribute {t : Text} {a : Attribute}
    (h : TagText.readAttribute t = .ok (a, rest)) : Text.bytes rest < Text.bytes t := by
  obtain ⟨used, rfl, hne, -⟩ := TagText.readAttribute_used h
  have hpos : Text.bytes used ≠ 0 := fun h0 => hne (Text.bytes_eq_zero_iff.1 h0)
  rw [Text.bytes_append]
  omega

theorem assignment_follows (h : input.LeftAt pos rest) (hrounds : Text.bytes input < rounds) :
    Follows input tag start (assignment input tag start rounds pos)
      (TagText.readAttribute rest) := by
  have hle : Text.bytes rest < rounds := by
    have := h.bytes_eq
    omega
  rw [assignment, skip_eq isAscii_isKeyChar h hle, TagText.readAttribute]
  simp only [bind, Except.bind]
  have hempty : pos + Text.bytes (rest.takeWhile TagText.isKeyChar) = pos ↔
      rest.takeWhile TagText.isKeyChar = [] := by
    rw [Nat.add_eq_left, Text.bytes_eq_zero_iff]
  simp only [hempty]
  by_cases hne : rest.takeWhile TagText.isKeyChar = []
  · rw [if_pos hne, if_pos hne]
    exact .fault _
  · rw [if_neg hne, if_neg hne]
    have hkey := h
    rw [← List.takeWhile_append_dropWhile (p := TagText.isKeyChar) (l := rest)] at hkey
    obtain ⟨behind, hskip, hleft⟩ := skipBlanks_eq hkey.forward hrounds
    rw [slice_of_leftAt hkey]
    simp only [hskip]
    rcases hs : TagText.skipBlanks (rest.dropWhile TagText.isKeyChar) with _ | ⟨c, body⟩
    · rw [hs] at hleft
      rw [hleft.peek_nil]
      exact .fault _
    · rw [hs] at hleft
      rw [hleft.peek_cons]
      simp only [Text.lead_eq_iff (k := '=') (by decide)]
      by_cases hc : c = '='
      · subst hc
        have hvalue : Follows input tag start (value input tag start rounds (behind + 1))
            (TagText.readValue body) := value_follows (hleft.one (by decide)) hrounds
        rw [if_pos rfl, if_pos rfl]
        rcases hvalue.eq_or with ⟨f, hx, hy⟩ | ⟨v, stop, behind', hx, hy, hstop⟩
        · rw [hx, hy]
          exact .fault f
        · rw [hx, hy]
          exact .ok hstop
      · rw [if_neg hc, if_neg hc]
        exact .fault _

theorem attributes_follows {left : Nat} (h : input.LeftAt pos rest)
    (hleft : Text.bytes rest < left) (hrounds : Text.bytes input < rounds)
    (found : List Attribute) :
    Follows input tag start (attributes input tag start rounds left found pos)
      (match TagText.readAttributes rest with
        | .error f => .error f
        | .ok (more, sc, behind) => .ok ((found ++ more, sc), behind)) := by
  induction left generalizing rest pos found with
  | zero => omega
  | succ left ih =>
    obtain ⟨behind, hskip, hbehind⟩ := skipBlanks_eq h hrounds
    have hblanks := bytes_skipBlanks_le rest
    rw [attributes, hskip]
    simp only [bind, Except.bind]
    rcases hs : TagText.skipBlanks rest with _ | ⟨c, body⟩
    · rw [hs] at hbehind
      rw [hbehind.peek_nil, TagText.readAttributes_nil hs]
      exact .fault _
    rw [hs] at hbehind hblanks
    rw [hbehind.peek_cons]
    simp only [Text.lead_eq_iff (k := '>') (by decide), Text.lead_eq_iff (k := '/') (by decide)]
    by_cases hend : c = '>'
    · subst hend
      rw [if_pos rfl, TagText.readAttributes_gt hs]
      simp only [List.append_nil]
      exact .ok (hbehind.one (by decide))
    rw [if_neg hend]
    by_cases hslash : c = '/'
    · subst hslash
      have hnext := hbehind.one (by decide)
      rw [if_pos rfl]
      cases body with
      | nil =>
        rw [hnext.peek_nil, TagText.readAttributes_slash hs]
        exact .fault _
      | cons d body =>
        rw [hnext.peek_cons, TagText.readAttributes_slash_cons hs]
        simp only [Text.lead_eq_iff (k := '>') (by decide)]
        by_cases hd : d = '>'
        · subst hd
          simp only [if_true, List.append_nil]
          exact .ok (hnext.one (by decide))
        · simp only [if_neg hd]
          exact .fault _
    · have hfirst : Follows input tag start (assignment input tag start rounds behind)
          (TagText.readAttribute (c :: body)) := assignment_follows hbehind hrounds
      rw [if_neg hslash, TagText.readAttributes_of_ne hs hend hslash, hs]
      rcases hfirst.eq_or with ⟨f, hx, hy⟩ | ⟨a, stop, more, hx, hy, hstop⟩
      · rw [hx, hy]
        exact .fault f
      · -- an attribute takes a byte at least, so the rounds left are enough
        have hshorter := bytes_lt_of_readAttribute hy
        have hmore := ih hstop (by omega) (found ++ [a])
        rw [hx, hy]
        simp only [List.append_assoc] at hmore ⊢
        rcases hattributes : TagText.readAttributes more with f | ⟨attributes, sc, last⟩
        · rw [hattributes] at hmore
          exact hmore
        · rw [hattributes] at hmore
          exact hmore

theorem closing_follows (h : input.LeftAt pos rest) (hrounds : Text.bytes input < rounds) :
    Follows input tag start (closing input tag start rounds pos)
      (match TagText.readClosingEnd rest with
        | .error fault => .error fault
        | .ok rest => .ok (.closing tag, rest)) := by
  obtain ⟨behind, hskip, hbehind⟩ := skipBlanks_eq h hrounds
  rw [closing, hskip, TagText.readClosingEnd]
  simp only [bind, Except.bind]
  rcases hs : TagText.skipBlanks rest with _ | ⟨c, body⟩
  · rw [hs] at hbehind
    rw [hbehind.peek_nil]
    exact .fault _
  · rw [hs] at hbehind
    rw [hbehind.peek_cons]
    simp only [Text.lead_eq_iff (k := '>') (by decide)]
    by_cases hend : c = '>'
    · subst hend
      rw [if_pos rfl, if_pos rfl]
      exact .ok (hbehind.one (by decide))
    · rw [if_neg hend, if_neg hend]
      exact .fault _

theorem opening_follows (h : input.LeftAt pos rest) (hrounds : Text.bytes input < rounds) :
    Follows input tag start (opening input tag start rounds pos)
      (match TagText.readAttributes rest with
        | .error fault => .error fault
        | .ok (attributes, selfClosing, rest) =>
          .ok (.opening tag attributes selfClosing, rest)) := by
  have hle : Text.bytes rest < rounds := by
    have := h.bytes_eq
    omega
  have hattributes := @attributes_follows input rest pos rounds start tag rounds h hle hrounds []
  rw [opening]
  simp only [bind, Except.bind]
  rcases hread : TagText.readAttributes rest with f | ⟨attributes, sc, behind⟩
  · rw [hread] at hattributes
    rcases hattributes.eq_or with ⟨f', hx, hy⟩ | ⟨a, stop, more, hx, hy, hstop⟩
    · cases hy
      rw [hx]
      exact .fault f
    · cases hy
  · rw [hread] at hattributes
    rcases hattributes.eq_or with ⟨f', hx, hy⟩ | ⟨a, stop, more, hx, hy, hstop⟩
    · cases hy
    · cases hy
      rw [hx]
      exact .ok hstop

/-- Whether a tag is a closing one is seen at the byte behind its `<`, and its name stands
    behind that. -/
theorem leftAt_name (h : input.LeftAt pos rest) :
    (input.peek pos == some '/') = (TagText.readSlash rest).1 ∧
      input.LeftAt (pos + Text.bytes (TagText.slash (TagText.readSlash rest).1))
        (TagText.readSlash rest).2 := by
  constructor
  · rw [h.peek_eq]
    cases rest with
    | nil => rfl
    | cons c rest =>
      have hc : (Text.lead c == '/') = (c == '/') :=
        Text.apply_lead (Text.isAscii_beq (by decide)) c
      rw [List.head?_cons, Option.map_some, Option.some_beq_some, hc]
      by_cases hslash : c = '/'
      · subst hslash
        rfl
      · have hread : TagText.readSlash (c :: rest) = (false, c :: rest) :=
          TagText.readSlash_slash false (by simpa using hslash)
        rw [hread, beq_eq_false_iff_ne]
        exact hslash
  · apply Text.LeftAt.forward
    rwa [TagText.readSlash_append]

/-- What is found of a name. -/
theorem name?_eq (h : input.LeftAt start ('<' :: rest)) :
    (Tag.ofName? ((TagText.readSlash rest).2.takeWhile Char.isAlpha) = none ∧
        name? input start = .ok none) ∨
      ∃ tag stop, Tag.ofName? ((TagText.readSlash rest).2.takeWhile Char.isAlpha) = some tag ∧
        name? input start = .ok (some ((TagText.readSlash rest).1, tag, stop)) ∧
        input.LeftAt stop ((TagText.readSlash rest).2.dropWhile Char.isAlpha) := by
  obtain ⟨hcloses, hname⟩ := leftAt_name (h.one (by decide))
  have hletters := hname
  rw [← List.takeWhile_append_dropWhile (p := Char.isAlpha) (l := (TagText.readSlash rest).2)]
    at hletters
  have heq : name? input start =
      .ok ((Tag.ofName? ((TagText.readSlash rest).2.takeWhile Char.isAlpha)).map fun tag =>
        ((TagText.readSlash rest).1, tag, start + 1 +
          Text.bytes (TagText.slash (TagText.readSlash rest).1) +
          Text.bytes ((TagText.readSlash rest).2.takeWhile Char.isAlpha))) := by
    rw [name?, hcloses]
    simp only [sliceFrom_of_leftAt hname, Text.length_takeWhile_octets isAscii_isAlpha,
      slice_of_leftAt hletters, bind, Except.bind]
    rfl
  rw [heq]
  rcases Tag.ofName? ((TagText.readSlash rest).2.takeWhile Char.isAlpha) with _ | tag
  · exact .inl ⟨rfl, rfl⟩
  · exact .inr ⟨tag, _, rfl, rfl, hletters.forward⟩

/-- A name that ends is followed by the rest of its tag. -/
theorem behindName_follows {t : Text} {closes : Bool}
    (hname : TagText.readName? t = some (closes, tag, rest)) (hends : TagText.endsName rest)
    (h : input.LeftAt pos rest) (hrounds : Text.bytes input < rounds) :
    ∃ x y, readTag t = some (tag, y) ∧
      behindName input closes tag start rounds pos = x.map some ∧
      Follows input tag start x y := by
  rw [behindName, readTag, hname]
  cases rest with
  | nil =>
    rw [h.peek_nil]
    cases closes with
    | true => exact ⟨_, _, rfl, rfl, .fault _⟩
    | false =>
      have hnil : TagText.readAttributes [] = .error .unterminated := TagText.readAttributes_nil rfl
      simp only [hnil]
      exact ⟨_, _, rfl, rfl, .fault _⟩
  | cons c rest =>
    have hends' : TagText.endsName [Text.lead c] := by
      rwa [Text.apply_lead isAscii_endsName c]
    rw [h.peek_cons]
    simp only [hends', if_true]
    cases closes with
    | true => exact ⟨_, _, rfl, rfl, closing_follows h hrounds⟩
    | false => exact ⟨_, _, rfl, rfl, opening_follows h hrounds⟩

/-- **A tag is read at an offset as it is read of the text left behind its `<`.** -/
theorem tag?_eq (h : input.LeftAt start ('<' :: rest)) (hrounds : Text.bytes input < rounds) :
    (readTag rest = none ∧ tag? input rounds start = .ok none) ∨
      ∃ tag x y, readTag rest = some (tag, y) ∧ tag? input rounds start = x.map some ∧
        Follows input tag start x y := by
  rcases name?_eq h with ⟨htag, hname⟩ | ⟨tag, stop, htag, hname, hstop⟩
  · refine .inl ⟨?_, ?_⟩
    · rw [readTag_eq_none_iff, TagText.readName?, htag]
    · rw [tag?, hname]
      rfl
  · have hread : TagText.readName? rest =
        if TagText.endsName ((TagText.readSlash rest).2.dropWhile Char.isAlpha) then
          some ((TagText.readSlash rest).1, tag, (TagText.readSlash rest).2.dropWhile Char.isAlpha)
        else none := by
      simp only [TagText.readName?, htag]
    have heq : tag? input rounds start =
        behindName input (TagText.readSlash rest).1 tag start rounds stop := by
      rw [tag?, hname]
      rfl
    rw [heq]
    by_cases hends : TagText.endsName ((TagText.readSlash rest).2.dropWhile Char.isAlpha)
    · rw [if_pos hends] at hread
      obtain ⟨x, y, hy, hx, hfollows⟩ := behindName_follows hread hends hstop hrounds
      exact .inr ⟨tag, x, y, hy, hx, hfollows⟩
    · rw [if_neg hends] at hread
      refine .inl ⟨readTag_eq_none_iff.2 hread, ?_⟩
      rcases hs : (TagText.readSlash rest).2.dropWhile Char.isAlpha with _ | ⟨c, behind⟩
      · rw [hs] at hends
        exact absurd rfl hends
      · rw [hs] at hends hstop
        have hends' : ¬TagText.endsName [Text.lead c] := by
          rwa [Text.apply_lead isAscii_endsName c]
        rw [behindName, hstop.peek_cons]
        exact if_neg hends'

/-! ### Scanning -/

/-- The text at an offset as a token, if there is any. -/
def textAt (offset : Nat) (raw : Text) : List Token :=
  if raw = [] then [] else [.text raw ⟨offset, offset + Text.bytes raw⟩]

theorem textBetween_eq {raw : Text} (h : input.LeftAt start (raw ++ rest)) :
    textBetween input start (start + Text.bytes raw) = .ok (textAt start raw) := by
  have hlt : start < start + Text.bytes raw ↔ raw ≠ [] := by
    rw [Nat.lt_add_right_iff_pos, Nat.pos_iff_ne_zero, Ne, Text.bytes_eq_zero_iff]
  rw [textBetween, textAt]
  by_cases hraw : raw = []
  · rw [if_pos hraw, if_neg (by rw [hlt]; exact not_not_intro hraw)]
    rfl
  · rw [if_neg hraw, if_pos (hlt.2 hraw), slice_of_leftAt h]
    rfl

theorem bytes_le_of_readTag {t : Text} {piece : TagText}
    (h : readTag t = some (tag, .ok (piece, rest))) : Text.bytes rest ≤ Text.bytes t := by
  obtain ⟨-, used, rfl, -⟩ := readTag_used h
  rw [Text.bytes_append]
  exact Nat.le_add_left _ _

/-- A text comes before what is found behind it, unless that starts with a text too. -/
theorem scanFrom_textAt {offset : Nat} {raw : Text} {ts : List Token} (hplain : Plain raw rest)
    (hrest : Token.scanFrom (offset + Text.bytes raw) rest = .ok ts)
    (hts : Lexeme.NoTextFirst ts) :
    Token.scanFrom offset (raw ++ rest) = .ok (textAt offset raw ++ ts) := by
  rw [textAt]
  by_cases hraw : raw = []
  · subst hraw
    exact hrest
  · rw [if_neg hraw]
    exact Lexeme.scanFrom_text hraw hplain hrest hts

/-- A text and the tag behind it come before what is found behind that tag. -/
theorem scanFrom_textAt_tag {t more raw : Text} {textStart stop : Nat} {piece : TagText}
    (hplain : Plain raw ('<' :: t)) (hread : readTag t = some (tag, .ok (piece, more)))
    (hlt : input.LeftAt (textStart + Text.bytes raw) ('<' :: t)) (hstop : input.LeftAt stop more) :
    Token.scanFrom textStart (raw ++ '<' :: t) =
      (Token.scanFrom stop more).map fun ts =>
        textAt textStart raw ++ .ofTag piece ⟨textStart + Text.bytes raw, stop⟩ :: ts := by
  have hbytes : textStart + Text.bytes raw + (Text.bytes ('<' :: t) - Text.bytes more) = stop := by
    have hle := bytes_le_of_readTag hread
    have h1 := hlt.bytes_eq
    have h2 := hstop.bytes_eq
    rw [Text.bytes_cons] at h1 ⊢
    omega
  have hscan := @Lexeme.scanFrom_tag (textStart + Text.bytes raw) _ _ _ _ hread
  rw [hbytes] at hscan
  rcases hts : Token.scanFrom stop more with e | ts
  · rw [hts] at hscan
    exact Lexeme.scanFrom_text_error hplain hscan
  · rw [hts] at hscan
    exact scanFrom_textAt hplain hscan (Lexeme.noTextFirst_ofTag piece _ ts)

/-- The last round: no `<` is left, so all that is left is text. -/
theorem scanFrom_last {left textStart : Nat} {raw : Text}
    (htext : input.LeftAt textStart (raw ++ rest)) (hrest : '<' ∉ rest) (found : List Token) :
    scanFrom input rounds (left + 1) textStart (textStart + Text.bytes raw) found =
      .ok (found ++ textAt textStart (raw ++ rest)) := by
  have hwhole : input.LeftAt textStart (raw ++ rest ++ []) := by rwa [List.append_nil]
  rw [scanFrom, sliceFrom_of_leftAt htext.forward]
  simp only [bind, Except.bind]
  rw [find?_of_not_mem hrest, htext.bytes_eq, textBetween_eq hwhole]
  rfl

/-- Any other round: the text goes on up to the next `<`, which starts a tag or is text. -/
theorem scanFrom_next {left textStart : Nat} {raw run : Text}
    (htext : input.LeftAt textStart (raw ++ (run ++ '<' :: rest))) (hrun : '<' ∉ run)
    (found : List Token) :
    scanFrom input rounds (left + 1) textStart (textStart + Text.bytes raw) found =
      match tag? input rounds (textStart + Text.bytes (raw ++ run)) with
      | .error e => .error e
      | .ok none =>
        scanFrom input rounds left textStart (textStart + Text.bytes (raw ++ run ++ ['<'])) found
      | .ok (some (piece, stop)) =>
        scanFrom input rounds left stop stop (found ++ textAt textStart (raw ++ run) ++
          [.ofTag piece ⟨textStart + Text.bytes (raw ++ run), stop⟩]) := by
  have htext' : input.LeftAt textStart (raw ++ run ++ '<' :: rest) := by rwa [List.append_assoc]
  have hlt : textStart + Text.bytes raw + Text.bytes run =
      textStart + Text.bytes (raw ++ run) := by
    rw [Text.bytes_append, Nat.add_assoc]
  have hbehind : textStart + Text.bytes (raw ++ run) + 1 =
      textStart + Text.bytes (raw ++ run ++ ['<']) := by
    rw [Text.bytes_append (raw ++ run), Nat.add_assoc]
    rfl
  rw [scanFrom, sliceFrom_of_leftAt htext.forward]
  simp only [bind, Except.bind, find?_append hrun, hlt, hbehind]
  rcases tag? input rounds (textStart + Text.bytes (raw ++ run)) with e | (_ | ⟨piece, stop⟩)
  · rfl
  · rfl
  · simp only [textBetween_eq htext']

/-- **Scanning by offsets finds what is found by scanning what is left**: behind a text that
    has been gone over and starts no tag, and found before that whatever it was. -/
theorem scanFrom_eq {left textStart : Nat} {raw : Text}
    (htext : input.LeftAt textStart (raw ++ rest)) (hplain : Plain raw rest)
    (hleft : Text.bytes rest < left) (hrounds : Text.bytes input < rounds) (found : List Token) :
    scanFrom input rounds left textStart (textStart + Text.bytes raw) found =
      ((Token.scanFrom textStart (raw ++ rest)).mapError Stop.fault).map (found ++ ·) := by
  -- the text that is pending may have `<` in it, so it is carried with the proof that none of
  -- them starts a tag, and joined to what is behind it only in the end
  induction left generalizing textStart raw rest found with
  | zero => omega
  | succ left ih =>
    by_cases hmem : '<' ∈ rest
    · obtain ⟨run, t, rfl, hrun⟩ := List.eq_append_cons_of_mem hmem
      have hbefore : Plain (raw ++ run) ('<' :: t) :=
        plain_append.2 ⟨hplain, plain_of_not_mem hrun _⟩
      rw [scanFrom_next htext hrun]
      rw [← List.append_assoc] at htext ⊢
      have hshorter : Text.bytes t < left := by
        have := Char.utf8Size_pos '<'
        rw [Text.bytes_append, Text.bytes_cons] at hleft
        omega
      have hlt := htext.forward
      rcases tag?_eq hlt hrounds with ⟨hnone, htag⟩ | ⟨tag, x, y, hread, htag, hfollows⟩
      · have hsplit : raw ++ run ++ '<' :: t = raw ++ run ++ ['<'] ++ t := by
          rw [List.append_assoc _ ['<'], List.singleton_append]
        have hplain' : Plain (raw ++ run ++ ['<']) t :=
          plain_append.2 ⟨hbefore, plain_cons.2 ⟨fun _ => hnone, plain_nil _⟩⟩
        rw [hsplit] at htext ⊢
        rw [htag]
        exact ih htext hplain' hshorter found
      · rcases hfollows.eq_or with ⟨f, rfl, rfl⟩ | ⟨piece, stop, more, rfl, rfl, hstop⟩
        · rw [htag, Lexeme.scanFrom_text_error hbefore (Lexeme.scanFrom_fault hread _)]
          rfl
        · have hle := bytes_le_of_readTag hread
          have hstop' : input.LeftAt stop ([] ++ more) := hstop
          have hmore := ih hstop' (plain_nil _) (Nat.lt_of_le_of_lt hle hshorter)
            (found ++ textAt textStart (raw ++ run) ++
              [.ofTag piece ⟨textStart + Text.bytes (raw ++ run), stop⟩])
          rw [Text.bytes_nil, Nat.add_zero, List.nil_append] at hmore
          rw [htag, scanFrom_textAt_tag hbefore hread hlt hstop]
          simp only [Except.map, hmore]
          rcases Token.scanFrom stop more with e | ts
          · rfl
          · apply congrArg Except.ok
            simp only [List.append_assoc, List.singleton_append]
    · have hall : Plain (raw ++ rest) [] := by
        apply plain_append.2
        rw [List.append_nil]
        exact ⟨hplain, plain_of_not_mem hmem []⟩
      have hend : Token.scanFrom (textStart + Text.bytes (raw ++ rest)) [] = .ok [] := by
        rw [Token.scanFrom]
      have hnone : Lexeme.NoTextFirst [] := @Lexeme.noTextFirst_tokens 0 [] Lexeme.tagFirst_nil
      have hscan := scanFrom_textAt hall hend hnone
      rw [List.append_nil, List.append_nil] at hscan
      rw [scanFrom_last htext hmem, hscan]
      rfl

/-- **No slice is out of place and no loop goes on for ever**: scanning by offsets finds the
    tokens or the fault that are found by going over what is left. -/
theorem tokens_eq (template : Text) (hrounds : Text.bytes template < rounds) :
    tokens template rounds = (Token.scan template).mapError Stop.fault := by
  have hstart : template.LeftAt 0 ([] ++ template) := Text.LeftAt.start template
  have h := scanFrom_eq hstart (plain_nil _) hrounds hrounds []
  rw [Text.bytes_nil, List.nil_append] at h
  rw [tokens, h, Token.scan]
  rcases Token.scanFrom 0 template with e | ts
  · rfl
  · rfl

end Cursor

end Scenery
