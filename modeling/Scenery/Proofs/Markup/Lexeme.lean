/-
  Scenery/Proofs/Markup/Lexeme.lean
  =================================
  **Templates as written lexemes.**  A lexeme is a tag or a run of text together with
  the characters that write it.  Where a token stands follows from what is written
  before it, so tokens are the lexemes laid out from some byte on (`Lexeme.tokens`).

  `Lexeme.Spelled` says which lexemes can stand in a row: each tag is written as it is
  read, texts are not split, and no `<` of a text starts a tag.  Scanning takes
  exactly such rows off a template: `scanFrom_sources` and `exists_of_scanFrom`.
-/
import Scenery.Proofs.Markup.TagText

namespace Scenery

/-- A tag or a run of text, with the characters that write it. -/
inductive Lexeme where
  | tag (source : Text) (piece : TagText)
  | text (raw : Text)
  deriving DecidableEq, Repr

namespace Lexeme

/-- The characters of a lexeme. -/
def source : Lexeme → Text
  | .tag s _ => s
  | .text raw => raw

def isTag : Lexeme → Bool
  | .tag _ _ => true
  | .text _ => false

/-- The characters of lexemes in a row. -/
def sources (ls : List Lexeme) : Text := ls.flatMap source

/-- The token of a lexeme that stands at a byte. -/
def token (offset : Nat) : Lexeme → Token
  | .tag s p => .ofTag p ⟨offset, offset + Text.bytes s⟩
  | .text raw => .text raw ⟨offset, offset + Text.bytes raw⟩

/-- The tokens of lexemes in a row, the first of which stands at a byte. -/
def tokens : Nat → List Lexeme → List Token
  | _, [] => []
  | offset, l :: ls => l.token offset :: tokens (offset + Text.bytes l.source) ls

/-- A tag is read from the characters that write it. -/
def ReadsAs (source : Text) (piece : TagText) : Prop :=
  ∃ r, source = '<' :: r ∧ readTag r = some (piece.tag, .ok (piece, []))

/-- No text comes first. -/
def TagFirst (ls : List Lexeme) : Prop := ∀ l ∈ ls.head?, l.isTag

/-- The lexemes can be read back when some text follows them. -/
def Spelled (after : Text) : List Lexeme → Prop
  | [] => True
  | .tag s p :: ls => ReadsAs s p ∧ Spelled after ls
  | .text raw :: ls =>
    raw ≠ [] ∧ TagFirst ls ∧ Plain raw (sources ls ++ after) ∧ Spelled after ls

/-! ### Layout -/

@[simp] theorem source_tag (s : Text) (p : TagText) : source (.tag s p) = s := rfl

@[simp] theorem source_text (raw : Text) : source (.text raw) = raw := rfl

@[simp] theorem sources_nil : sources [] = [] := rfl

@[simp] theorem sources_cons (l : Lexeme) (ls : List Lexeme) :
    sources (l :: ls) = l.source ++ sources ls := rfl

@[simp] theorem sources_append (xs ys : List Lexeme) :
    sources (xs ++ ys) = sources xs ++ sources ys := List.flatMap_append

@[simp] theorem tokens_nil (offset : Nat) : tokens offset [] = [] := rfl

@[simp] theorem tokens_cons (offset : Nat) (l : Lexeme) (ls : List Lexeme) :
    tokens offset (l :: ls) = l.token offset :: tokens (offset + Text.bytes l.source) ls := rfl

theorem tokens_append (offset : Nat) (xs ys : List Lexeme) :
    tokens offset (xs ++ ys) =
      tokens offset xs ++ tokens (offset + Text.bytes (sources xs)) ys := by
  induction xs generalizing offset with
  | nil => simp
  | cons x xs ih => simp [ih, Nat.add_assoc]

@[simp] theorem tagFirst_nil : TagFirst [] := by
  intro l hl
  cases hl

@[simp] theorem tagFirst_tag (s : Text) (p : TagText) (ls : List Lexeme) :
    TagFirst (.tag s p :: ls) := by
  intro l hl
  cases hl
  rfl

@[simp] theorem not_tagFirst_text (raw : Text) (ls : List Lexeme) :
    ¬TagFirst (.text raw :: ls) := by
  intro h
  exact absurd (h _ rfl) (by simp [isTag])

/-! ### Tags and what follows them -/

theorem readsAs_more {source : Text} {piece : TagText} (h : ReadsAs source piece) (more : Text) :
    ∃ r, source = '<' :: r ∧ readTag (r ++ more) = some (piece.tag, .ok (piece, more)) := by
  obtain ⟨r, hs, hr⟩ := h
  obtain ⟨-, used, hused, hread⟩ := readTag_used hr
  rw [List.append_nil] at hused
  subst hused
  exact ⟨r, hs, hread more⟩

theorem exists_of_readTag {t rest : Text} {tag : Tag} {piece : TagText}
    (h : readTag t = some (tag, .ok (piece, rest))) :
    ∃ r, t = r ++ rest ∧ ReadsAs ('<' :: r) piece := by
  obtain ⟨-, used, hused, hread⟩ := readTag_used h
  exact ⟨used, hused, used, rfl, by simpa using hread []⟩

theorem exists_source_of_readsAs {source : Text} {piece : TagText} (h : ReadsAs source piece) :
    ∃ r, source = '<' :: r := by
  obtain ⟨r, hr, -⟩ := h
  exact ⟨r, hr⟩

/-! ### Rows of lexemes -/

@[simp] theorem spelled_nil (after : Text) : Spelled after [] := trivial

@[simp] theorem spelled_tag {after s : Text} {p : TagText} {ls : List Lexeme} :
    Spelled after (.tag s p :: ls) ↔ ReadsAs s p ∧ Spelled after ls := Iff.rfl

@[simp] theorem spelled_text {after raw : Text} {ls : List Lexeme} :
    Spelled after (.text raw :: ls) ↔
      raw ≠ [] ∧ TagFirst ls ∧ Plain raw (sources ls ++ after) ∧ Spelled after ls := Iff.rfl

theorem spelled_of_cons {after : Text} {l : Lexeme} {ls : List Lexeme}
    (h : Spelled after (l :: ls)) : Spelled after ls := by
  cases l with
  | tag s p => exact h.2
  | text raw => exact h.2.2.2

theorem exists_sources_of_tagFirst {after : Text} {l : Lexeme} {ls : List Lexeme}
    (h : Spelled after (l :: ls)) (hl : TagFirst (l :: ls)) :
    ∃ x, sources (l :: ls) = '<' :: x := by
  cases l with
  | tag s p =>
    obtain ⟨r, hr⟩ := exists_source_of_readsAs h.1
    exact ⟨r ++ sources ls, by simp [hr]⟩
  | text raw => exact absurd hl (not_tagFirst_text raw ls)

/-- Before a row that starts with a tag, or before a tag, it does not matter which tag that is. -/
theorem plain_sources_iff {after raw : Text} {ls : List Lexeme} (hs : Spelled after ls)
    (hf : TagFirst ls) (x : Text) : Plain raw (sources ls ++ '<' :: x) ↔ Plain raw ['<'] := by
  cases ls with
  | nil => exact plain_lt_iff x
  | cons l ls =>
    obtain ⟨y, hy⟩ := exists_sources_of_tagFirst hs hf
    rw [hy, List.cons_append]
    exact plain_lt_iff _

/-- A row can be cut before a tag: what comes before has to be spelled as before any
    tag, and what comes after as before. -/
theorem spelled_append_tag {after s : Text} {p : TagText} {xs ys : List Lexeme} :
    Spelled after (xs ++ .tag s p :: ys) ↔
      Spelled ['<'] xs ∧ ReadsAs s p ∧ Spelled after ys := by
  induction xs with
  | nil => simp
  | cons x xs ih =>
    cases x with
    | tag s' p' => simp only [List.cons_append, spelled_tag, ih, and_assoc]
    | text raw =>
      have hfirst : TagFirst (xs ++ .tag s p :: ys) ↔ TagFirst xs := by
        cases xs with
        | nil => simp
        | cons x xs => rfl
      have hplain (hs : Spelled ['<'] xs) (hf : TagFirst xs) (hr : ReadsAs s p) :
          Plain raw (sources (xs ++ .tag s p :: ys) ++ after) ↔
            Plain raw (sources xs ++ ['<']) := by
        obtain ⟨r, rfl⟩ := exists_source_of_readsAs hr
        have hsources : sources (xs ++ .tag ('<' :: r) p :: ys) ++ after =
            sources xs ++ '<' :: (r ++ (sources ys ++ after)) := by simp
        rw [hsources, plain_sources_iff hs hf, plain_sources_iff hs hf]
      simp only [List.cons_append, spelled_text, ih, hfirst]
      constructor
      · rintro ⟨hne, hf, hp, hs, hr, hys⟩
        exact ⟨⟨hne, hf, (hplain hs hf hr).1 hp, hs⟩, hr, hys⟩
      · rintro ⟨⟨hne, hf, hp, hs⟩, hr, hys⟩
        exact ⟨hne, hf, (hplain hs hf hr).2 hp, hs, hr, hys⟩

/-- A row that can be read back can also be read back before a tag. -/
theorem spelled_lt {after : Text} {ls : List Lexeme} (h : Spelled after ls) :
    Spelled ['<'] ls := by
  induction ls with
  | nil => trivial
  | cons l ls ih =>
    cases l with
    | tag s p => exact ⟨h.1, ih h.2⟩
    | text raw =>
      obtain ⟨hne, hf, hp, hs⟩ := h
      refine ⟨hne, hf, ?_, ih hs⟩
      apply (plain_sources_iff hs hf []).2
      cases ls with
      | nil => exact hp.breaksName (by decide) []
      | cons l ls =>
        obtain ⟨x, hx⟩ := exists_sources_of_tagFirst hs hf
        rw [hx, List.cons_append] at hp
        exact (plain_lt_iff _).1 hp

theorem plain_of_spelled_concat {after raw : Text} {xs : List Lexeme}
    (h : Spelled after (xs ++ [.text raw])) : Plain raw after := by
  induction xs with
  | nil => exact h.2.2.1
  | cons x xs ih => exact ih (spelled_of_cons h)

/-- A text at the end of a row can be changed: what comes before it ends with a tag. -/
theorem spelled_concat_text {after raw raw' : Text} {xs : List Lexeme}
    (h : Spelled after (xs ++ [.text raw])) (hne : raw' ≠ []) (hplain : Plain raw' after) :
    Spelled after (xs ++ [.text raw']) := by
  induction xs with
  | nil => simpa using ⟨hne, hplain⟩
  | cons x xs ih =>
    cases x with
    | tag s p => exact ⟨h.1, ih h.2⟩
    | text r =>
      rw [List.cons_append, spelled_text] at h ⊢
      obtain ⟨hr, hfirst, hp, hs⟩ := h
      rcases xs with _ | ⟨⟨s, p⟩ | r', xs⟩
      · exact absurd hfirst (not_tagFirst_text _ _)
      · refine ⟨hr, tagFirst_tag _ _ _, ?_, ih hs⟩
        obtain ⟨y, rfl⟩ := exists_source_of_readsAs hs.1
        have hsources (t : Text) : sources (.tag ('<' :: y) p :: xs ++ [.text t]) ++ after =
            '<' :: (y ++ (sources (xs ++ [.text t]) ++ after)) := by
          rw [List.cons_append, sources_cons, source_tag, List.append_assoc, List.cons_append]
        rw [hsources] at hp ⊢
        exact (plain_lt_iff _).2 ((plain_lt_iff _).1 hp)
      · exact absurd hfirst (not_tagFirst_text _ _)

/-! ### Scanning -/

theorem scanFrom_cons_of_none {offset : Nat} {c : Char} {t : Text}
    (h : c = '<' → readTag t = none) :
    Token.scanFrom offset (c :: t) =
      match Token.scanFrom (offset + c.utf8Size) t with
      | .error e => .error e
      | .ok ts => .ok (Token.consChar c offset ts) := by
  rw [Token.scanFrom]
  by_cases hc : c = '<'
  · rw [if_pos hc]
    split
    · rfl
    · next hr =>
      rw [h hc] at hr
      cases hr
    · next hr =>
      rw [h hc] at hr
      cases hr
  · exact if_neg hc

theorem scanFrom_tag {offset : Nat} {t rest : Text} {tag : Tag} {piece : TagText}
    (h : readTag t = some (tag, .ok (piece, rest))) :
    Token.scanFrom offset ('<' :: t) =
      match Token.scanFrom (offset + (Text.bytes ('<' :: t) - Text.bytes rest)) rest with
      | .error e => .error e
      | .ok ts =>
        .ok (.ofTag piece ⟨offset, offset + (Text.bytes ('<' :: t) - Text.bytes rest)⟩ :: ts) := by
  rw [Token.scanFrom, if_pos rfl]
  split
  · next hr =>
    rw [h] at hr
    cases hr
  · next hr =>
    rw [h] at hr
    cases hr
  · next hr =>
    rw [h] at hr
    cases hr
    rfl

/-- Tokens that do not start with a text. -/
def NoTextFirst (ts : List Token) : Prop := ∀ raw s, ts.head? ≠ some (.text raw s)

theorem noTextFirst_ofTag (piece : TagText) (span : Span) (ts : List Token) :
    NoTextFirst (.ofTag piece span :: ts) := by
  cases piece <;> nofun

theorem noTextFirst_tokens {offset : Nat} {ls : List Lexeme} (h : TagFirst ls) :
    NoTextFirst (tokens offset ls) := by
  cases ls with
  | nil =>
    intro raw s hs
    cases hs
  | cons l ls =>
    cases l with
    | tag s p => exact noTextFirst_ofTag p _ _
    | text raw => exact absurd h (not_tagFirst_text raw ls)

theorem consChar_of_noTextFirst {c : Char} {offset : Nat} {ts : List Token}
    (h : NoTextFirst ts) :
    Token.consChar c offset ts = .text [c] ⟨offset, offset + c.utf8Size⟩ :: ts := by
  unfold Token.consChar
  split
  · exact absurd rfl (h _ _)
  · rfl

theorem scanFrom_text {offset : Nat} {raw rest : Text} {ts : List Token} (hne : raw ≠ [])
    (hplain : Plain raw rest)
    (hrest : Token.scanFrom (offset + Text.bytes raw) rest = .ok ts) (hts : NoTextFirst ts) :
    Token.scanFrom offset (raw ++ rest) =
      .ok (.text raw ⟨offset, offset + Text.bytes raw⟩ :: ts) := by
  induction raw generalizing offset with
  | nil => exact absurd rfl hne
  | cons c raw ih =>
    obtain ⟨hc, hplain'⟩ := plain_cons.1 hplain
    rw [List.cons_append, scanFrom_cons_of_none hc]
    cases raw with
    | nil =>
      simp only [Text.bytes_cons, Text.bytes_nil, Nat.add_zero] at hrest
      rw [List.nil_append, hrest]
      simp [consChar_of_noTextFirst hts]
    | cons c' raw =>
      have hrest' :
          Token.scanFrom (offset + c.utf8Size + Text.bytes (c' :: raw)) rest = .ok ts := by
        simpa [Nat.add_assoc] using hrest
      rw [ih (by simp) hplain' hrest']
      simp [Token.consChar, Nat.add_assoc]

theorem scanFrom_fault {t : Text} {tag : Tag} {fault : TagFault}
    (h : readTag t = some (tag, .error fault)) (offset : Nat) :
    Token.scanFrom offset ('<' :: t) = .error (fault.toError tag offset) := by
  rw [Token.scanFrom, if_pos rfl]
  split
  · next hr =>
    rw [h] at hr
    cases hr
  · next hr =>
    rw [h] at hr
    cases hr
    rfl
  · next hr =>
    rw [h] at hr
    cases hr

/-- What goes wrong behind a text goes wrong with it. -/
theorem scanFrom_text_error {offset : Nat} {raw rest : Text} {e : MarkupError}
    (hplain : Plain raw rest) (hrest : Token.scanFrom (offset + Text.bytes raw) rest = .error e) :
    Token.scanFrom offset (raw ++ rest) = .error e := by
  induction raw generalizing offset with
  | nil => exact hrest
  | cons c raw ih =>
    obtain ⟨hc, hplain'⟩ := plain_cons.1 hplain
    rw [Text.bytes_cons, ← Nat.add_assoc] at hrest
    rw [List.cons_append, scanFrom_cons_of_none hc, ih hplain' hrest]

/-- A row of lexemes that can be read back is what scanning finds. -/
theorem scanFrom_sources {ls : List Lexeme} (h : Spelled [] ls) (offset : Nat) :
    Token.scanFrom offset (sources ls) = .ok (tokens offset ls) := by
  induction ls generalizing offset with
  | nil => simp [Token.scanFrom]
  | cons l ls ih =>
    cases l with
    | tag s p =>
      obtain ⟨r, rfl, hr⟩ := readsAs_more h.1 (sources ls)
      have hbytes : Text.bytes ('<' :: (r ++ sources ls)) - Text.bytes (sources ls) =
          Text.bytes ('<' :: r) := by
        simp only [Text.bytes_cons, Text.bytes_append]
        omega
      rw [sources_cons, source_tag, List.cons_append, scanFrom_tag hr, hbytes, ih h.2]
      rfl
    | text raw =>
      obtain ⟨hne, hf, hp, hs⟩ := h
      rw [List.append_nil] at hp
      rw [sources_cons, source_text,
        scanFrom_text hne hp (ih hs (offset + Text.bytes raw)) (noTextFirst_tokens hf)]
      rfl

/-- Nothing is found in a text that cannot be scanned, wherever it starts. -/
def Unscannable (t : Text) : Prop := ∀ offset, ∃ e, Token.scanFrom offset t = .error e

theorem unscannable_of_fault {t : Text} {tag : Tag} {fault : TagFault}
    (h : readTag t = some (tag, .error fault)) : Unscannable ('<' :: t) :=
  fun offset => ⟨fault.toError tag offset, scanFrom_fault h offset⟩

theorem unscannable_append {raw t : Text} (hplain : Plain raw t) (h : Unscannable t) :
    Unscannable (raw ++ t) := by
  intro offset
  obtain ⟨e, he⟩ := h (offset + Text.bytes raw)
  exact ⟨e, scanFrom_text_error hplain he⟩

/-- A tag that cannot be read spoils everything before it. -/
theorem unscannable_sources {ls : List Lexeme} (hs : Spelled ['<'] ls) {t : Text}
    (h : Unscannable ('<' :: t)) : Unscannable (sources ls ++ '<' :: t) := by
  induction ls with
  | nil => exact h
  | cons l ls ih =>
    cases l with
    | tag s p =>
      obtain ⟨r, rfl, hr⟩ := readsAs_more hs.1 (sources ls ++ '<' :: t)
      intro offset
      obtain ⟨e, he⟩ := ih hs.2 (offset + (Text.bytes ('<' :: (r ++ (sources ls ++ '<' :: t))) -
        Text.bytes (sources ls ++ '<' :: t)))
      refine ⟨e, ?_⟩
      rw [sources_cons, source_tag, List.append_assoc, List.cons_append, scanFrom_tag hr, he]
    | text raw =>
      obtain ⟨-, hf, hp, hls⟩ := hs
      rw [sources_cons, source_text, List.append_assoc]
      exact unscannable_append ((plain_sources_iff hls hf t).2 ((plain_sources_iff hls hf []).1 hp))
        (ih hls)

/-- A lexeme row with one more character of text in front. -/
def consChar (c : Char) : List Lexeme → List Lexeme
  | .text raw :: ls => .text (c :: raw) :: ls
  | ls => .text [c] :: ls

theorem sources_consChar (c : Char) (ls : List Lexeme) :
    sources (consChar c ls) = c :: sources ls := by
  unfold consChar
  split <;> simp

theorem tokens_consChar (c : Char) (offset : Nat) (ls : List Lexeme) :
    tokens offset (consChar c ls) =
      Token.consChar c offset (tokens (offset + c.utf8Size) ls) := by
  cases ls with
  | nil => rfl
  | cons l ls =>
    cases l with
    | tag s p =>
      rw [consChar_of_noTextFirst (noTextFirst_tokens (tagFirst_tag s p ls))]
      · simp [consChar, token]
    | text raw => simp [consChar, token, Token.consChar, Nat.add_assoc]

theorem spelled_consChar {c : Char} {ls : List Lexeme} (h : Spelled [] ls)
    (hc : c = '<' → readTag (sources ls) = none) : Spelled [] (consChar c ls) := by
  cases ls with
  | nil =>
    refine ⟨by simp, tagFirst_nil, ?_, trivial⟩
    rw [plain_cons]
    exact ⟨by simpa using hc, plain_nil _⟩
  | cons l ls =>
    cases l with
    | tag s p =>
      refine ⟨by simp, tagFirst_tag s p ls, ?_, h⟩
      rw [plain_cons]
      exact ⟨by simpa using hc, plain_nil _⟩
    | text raw =>
      obtain ⟨hne, hf, hp, hs⟩ := h
      refine ⟨by simp, hf, ?_, hs⟩
      rw [plain_cons]
      exact ⟨by simpa using hc, hp⟩

/-- What scanning finds is a row of lexemes that can be read back. -/
theorem exists_of_scanFrom {offset : Nat} {t : Text} {ts : List Token}
    (h : Token.scanFrom offset t = .ok ts) :
    ∃ ls, Spelled [] ls ∧ sources ls = t ∧ tokens offset ls = ts := by
  fun_induction Token.scanFrom offset t generalizing ts with
  | case1 => exact ⟨[], trivial, rfl, by simpa using h⟩
  | case2 offset t hr e he ih => cases h
  | case3 offset t hr ts' hts ih =>
    cases h
    obtain ⟨ls, hs, rfl, rfl⟩ := ih hts
    exact ⟨consChar _ ls, spelled_consChar hs fun _ => hr, sources_consChar _ ls,
      tokens_consChar _ _ ls⟩
  | case4 => cases h
  | case5 => cases h
  | case6 offset t tag piece rest hr ts' stop hts =>
    rename_i ih
    cases h
    obtain ⟨r, rfl, hreads⟩ := exists_of_readTag hr
    obtain ⟨ls, hs, rfl, rfl⟩ := ih hts
    have hstop : stop = offset + Text.bytes ('<' :: r) := by
      simp only [stop, Text.bytes_cons, Text.bytes_append]
      omega
    exact ⟨.tag ('<' :: r) piece :: ls, ⟨hreads, hs⟩, rfl, by rw [hstop]; rfl⟩
  | case7 => cases h
  | case8 offset c t hc ts' hts ih =>
    cases h
    obtain ⟨ls, hs, rfl, rfl⟩ := ih hts
    exact ⟨consChar c ls, spelled_consChar hs fun h => absurd h hc, sources_consChar c ls,
      tokens_consChar c _ ls⟩

end Lexeme

end Scenery
