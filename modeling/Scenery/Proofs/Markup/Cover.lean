/-
  Scenery/Proofs/Markup/Cover.lean
  ================================
  **Scanning loses nothing.**  The tokens of a template take it up from its first byte to
  its last, one behind the other (`Token.Covers`): a text is what stands at its place, all
  of it up to the next tag, and a tag starts with a `<` and ends with a `>`.

  This is read off the lexemes that a template is written with: a token has the place of
  its lexeme, between those that are written before it and those that are written behind
  it (`exists_of_tokens_eq_append`).
-/
import Scenery.Proofs.Markup.Cursor

namespace Scenery

namespace Token

def isText : Token → Bool
  | .text _ _ => true
  | _ => false

/-- Tokens in a row, each of which takes at least one byte and starts where the one before it
    ends, take up the bytes from the first number up to the second. -/
inductive Tiles : Nat → Nat → List Token → Prop
  | nil (n : Nat) : Tiles n n []
  | cons {stop : Nat} {t : Token} {ts : List Token} : t.span.start < t.span.stop →
    Tiles t.span.stop stop ts → Tiles t.span.start stop (t :: ts)

/-- Tokens make up a template: nothing is left out and nothing is taken twice. -/
structure Covers (template : Text) (tokens : List Token) : Prop where
  tiles : Tiles 0 (Text.bytes template) tokens
  spans_in : ∀ t ∈ tokens, t.span.In template
  text_eq : ∀ raw span, .text raw span ∈ tokens → span.slice template = raw
  texts_apart : ∀ before a b after, tokens = before ++ a :: b :: after →
    ¬(a.isText = true ∧ b.isText = true)
  tag_eq : ∀ t ∈ tokens, t.isText = false →
    ∃ content, t.span.slice template = '<' :: (content ++ ['>'])

end Token

/-! ### The characters of a tag -/

namespace Lexeme

theorem exists_ending_of_readsAs {source : Text} {piece : TagText} (h : ReadsAs source piece) :
    ∃ content, source = '<' :: (content ++ ['>']) := by
  obtain ⟨r, rfl, hread⟩ := h
  cases piece with
  | opening tag attributes sc =>
    obtain ⟨-, body, blanks, hr, -⟩ := readTag_opening hread
    cases sc with
    | false =>
      refine ⟨body ++ blanks, ?_⟩
      rw [hr, List.append_nil]
      rfl
    | true =>
      refine ⟨body ++ blanks ++ ['/'], ?_⟩
      rw [hr, List.append_nil, TagText.ending_true, List.append_assoc _ ['/']]
      rfl
  | closing tag =>
    obtain ⟨-, body, hr, -⟩ := readTag_closing hread
    refine ⟨'/' :: body, ?_⟩
    rw [hr]

theorem bytes_source_pos {after : Text} {l : Lexeme} {ls : List Lexeme}
    (h : Spelled after (l :: ls)) : 0 < Text.bytes l.source := by
  rw [Nat.pos_iff_ne_zero, Ne, Text.bytes_eq_zero_iff]
  cases l with
  | tag s piece =>
    obtain ⟨r, rfl⟩ := exists_source_of_readsAs h.1
    nofun
  | text raw => exact h.1

/-! ### Tokens and their lexemes -/

theorem span_token (l : Lexeme) (offset : Nat) :
    (l.token offset).span = ⟨offset, offset + Text.bytes l.source⟩ := by
  rcases l with ⟨s, tag | tag⟩ | raw <;> rfl

theorem isText_token (l : Lexeme) (offset : Nat) : (l.token offset).isText = !l.isTag := by
  rcases l with ⟨s, tag | tag⟩ | raw <;> rfl

/-- A row of tokens is cut where the row of their lexemes is. -/
theorem exists_of_tokens_eq_append {offset : Nat} {ls : List Lexeme} {before after : List Token}
    (h : tokens offset ls = before ++ after) :
    ∃ xs ys, ls = xs ++ ys ∧ tokens offset xs = before ∧
      tokens (offset + Text.bytes (sources xs)) ys = after := by
  induction before generalizing offset ls with
  | nil => exact ⟨[], ls, rfl, rfl, h⟩
  | cons t before ih =>
    cases ls with
    | nil => cases h
    | cons l ls =>
      obtain ⟨ht, hrest⟩ := List.cons.inj h
      obtain ⟨xs, ys, rfl, hxs, hys⟩ := ih hrest
      refine ⟨l :: xs, ys, rfl, ?_, ?_⟩
      · rw [tokens_cons, ht, hxs]
      · rw [sources_cons, Text.bytes_append, ← Nat.add_assoc]
        exact hys

/-- A token has the place of its lexeme. -/
theorem exists_of_mem_tokens {offset : Nat} {ls : List Lexeme} {t : Token}
    (h : t ∈ tokens offset ls) :
    ∃ xs l ys, ls = xs ++ l :: ys ∧ t = l.token (offset + Text.bytes (sources xs)) := by
  obtain ⟨before, after, hsplit⟩ := List.append_of_mem h
  obtain ⟨xs, ys, rfl, -, hys⟩ := exists_of_tokens_eq_append hsplit
  cases ys with
  | nil => cases hys
  | cons l ys => exact ⟨xs, l, ys, rfl, (List.cons.inj hys).1.symm⟩

theorem spelled_of_append {after : Text} {xs ys : List Lexeme} (h : Spelled after (xs ++ ys)) :
    Spelled after ys := by
  induction xs with
  | nil => exact h
  | cons x xs ih => exact ih (spelled_of_cons h)

/-- What stands at the place of a lexeme is what it is written with. -/
theorem span_in_sources (xs : List Lexeme) (l : Lexeme) (ys : List Lexeme) :
    (l.token (Text.bytes (sources xs))).span.In (sources (xs ++ l :: ys)) ∧
      (l.token (Text.bytes (sources xs))).span.slice (sources (xs ++ l :: ys)) = l.source := by
  rw [span_token, sources_append, sources_cons]
  exact ⟨Span.in_behind _ _ _, Span.slice_behind _ _ _⟩

/-! ### Rows of lexemes -/

theorem tiles_tokens {after : Text} {ls : List Lexeme} (h : Spelled after ls) (offset : Nat) :
    Token.Tiles offset (offset + Text.bytes (sources ls)) (tokens offset ls) := by
  induction ls generalizing offset with
  | nil => exact .nil offset
  | cons l ls ih =>
    have hpos := bytes_source_pos h
    have hspan := span_token l offset
    have hrest := ih (spelled_of_cons h) (offset + Text.bytes l.source)
    have hcons : Token.Tiles (l.token offset).span.start
        (offset + Text.bytes l.source + Text.bytes (sources ls))
        (l.token offset :: tokens (offset + Text.bytes l.source) ls) := by
      apply Token.Tiles.cons
      · rw [hspan]
        exact Nat.lt_add_of_pos_right hpos
      · rw [hspan]
        exact hrest
    rw [hspan] at hcons
    rw [sources_cons, Text.bytes_append, ← Nat.add_assoc]
    exact hcons

/-- The tokens of lexemes that can be read back make up what the lexemes are written with. -/
theorem covers_tokens {ls : List Lexeme} (h : Spelled [] ls) :
    Token.Covers (sources ls) (tokens 0 ls) where
  tiles := by
    have htiles := tiles_tokens h 0
    rwa [Nat.zero_add] at htiles
  spans_in := by
    intro t ht
    obtain ⟨xs, l, ys, rfl, rfl⟩ := exists_of_mem_tokens ht
    rw [Nat.zero_add]
    exact (span_in_sources xs l ys).1
  text_eq := by
    intro raw span ht
    obtain ⟨xs, l, ys, rfl, hl⟩ := exists_of_mem_tokens ht
    have hslice := (span_in_sources xs l ys).2
    rw [Nat.zero_add] at hl
    rw [← hl] at hslice
    rcases l with ⟨s, tag | tag⟩ | raw'
    · cases hl
    · cases hl
    · cases hl
      exact hslice
  texts_apart := by
    rintro before a b after hsplit ⟨ha, hb⟩
    obtain ⟨xs, ys, rfl, -, hys⟩ := exists_of_tokens_eq_append hsplit
    have hspelled := spelled_of_append h
    rcases ys with _ | ⟨l, _ | ⟨l', ys⟩⟩
    · cases hys
    · cases hys
    · obtain ⟨rfl, hrest⟩ := List.cons.inj hys
      obtain ⟨rfl, -⟩ := List.cons.inj hrest
      rw [isText_token, Bool.not_eq_true'] at ha hb
      cases l with
      | tag s piece => cases ha
      | text raw =>
        have htag := hspelled.2.1 l' rfl
        rw [hb] at htag
        cases htag
  tag_eq := by
    intro t ht htag
    obtain ⟨xs, l, ys, rfl, rfl⟩ := exists_of_mem_tokens ht
    have hspelled := spelled_of_append h
    rw [Nat.zero_add, (span_in_sources xs l ys).2]
    cases l with
    | tag s piece => exact exists_ending_of_readsAs hspelled.1
    | text raw => cases htag

end Lexeme

namespace Token

/-- **The tokens of a template make it up**, and they are found: scanning it by offsets comes
    to an end, with no loop going more rounds than there are bytes and one, and takes slices
    only of what is between two characters of the template, whether it has tokens or not. -/
theorem scan_covers (template : Text) :
    (∀ tokens, scan template = .ok tokens → Covers template tokens) ∧
      ∀ rounds, Text.bytes template < rounds →
        Cursor.tokens template rounds = (scan template).mapError .fault ∧
          Cursor.tokens template rounds ≠ .error .endless ∧
          ∀ span, Cursor.tokens template rounds ≠ .error (.slice span) := by
  constructor
  · intro tokens hscan
    obtain ⟨ls, hspelled, rfl, rfl⟩ := Lexeme.exists_of_scanFrom hscan
    exact Lexeme.covers_tokens hspelled
  · intro rounds hrounds
    rw [Cursor.tokens_eq template hrounds]
    refine ⟨rfl, ?_, ?_⟩
    · rcases scan template with e | tokens
      · nofun
      · nofun
    · intro span
      rcases scan template with e | tokens
      · nofun
      · nofun

theorem exists_scanned (template : Text) (P : List Token → Prop) [DecidablePred P]
    (h : (scan template).toOption.any (P ·)) : ∃ tokens, scan template = .ok tokens ∧ P tokens := by
  obtain ⟨tokens, htokens, hP⟩ := (Option.any_eq_true _ _).1 h
  exact ⟨tokens, eq_ok_of_toOption htokens, of_decide_eq_true hP⟩

/-- Characters of several bytes, `<` that is text, and a value with a tag in it. -/
def lantern : Text := "☾ 2 < 3 <s>é<il name=\"<s>☾\"/></S >".toList

theorem scan_covers_of_lantern :
    ∃ tokens, scan lantern = .ok tokens ∧
      (tokens.map fun t => (t.span.start, t.span.stop)) =
        [(0, 10), (10, 13), (13, 15), (15, 34), (34, 39)] ∧
      Covers lantern tokens ∧ Cursor.tokens lantern 40 = .ok tokens := by
  obtain ⟨tokens, hscan, hspans⟩ := exists_scanned lantern
    (fun tokens => (tokens.map fun t => (t.span.start, t.span.stop)) =
      [(0, 10), (10, 13), (13, 15), (15, 34), (34, 39)]) (by decide +kernel)
  obtain ⟨hcovers, hoffsets⟩ := scan_covers lantern
  refine ⟨tokens, hscan, hspans, hcovers tokens hscan, ?_⟩
  rw [(hoffsets 40 (by decide)).1, hscan]
  rfl

end Token

end Scenery
