/-
  Scenery/Proofs/Markup/Writing.lean
  ==================================
  **Writing tokens.**  Tokens apart from their places are written as lexemes in a row:
  the name of a tag in any case, blanks before each attribute and, where one likes,
  around the `=` and before the end, and each value in quotes that it does not contain
  (`TagText.Written`).  There is a choice at every step, so this is a relation.

  Whatever the choices, scanning takes them back (`Token.scan_written`): each piece is
  read up to its last character and not beyond, whatever follows it.
-/
import Scenery.Proofs.Markup.Cover

namespace Scenery

/-- A token without its place. -/
inductive Token.Bare where
  | tag (piece : TagText)
  | text (raw : Text)
  deriving DecidableEq, Repr

def Token.bare : Token → Token.Bare
  | .opening tag attributes selfClosing _ => .tag (.opening tag attributes selfClosing)
  | .closing tag _ => .tag (.closing tag)
  | .text raw _ => .text raw

/-! ### What can be written -/

/-- The characters of attribute names, in lower case. -/
def Attribute.isSmallKeyChar (c : Char) : Bool := c.isLower || c.isDigit || c == '-' || c == '_'

/-- An attribute with a name that is read as it is written, and a value that can be quoted. -/
structure Attribute.Writable (a : Attribute) : Prop where
  key_ne_nil : a.key ≠ []
  key_chars : ∀ c ∈ a.key, isSmallKeyChar c
  quotable : '"' ∉ a.value ∨ '\'' ∉ a.value

/-- Any tag can be written whose attributes can. -/
def TagText.Writable : TagText → Prop
  | .opening _ attributes _ => ∀ a ∈ attributes, a.Writable
  | .closing _ => True

namespace Token

def Bare.Writable : Bare → Prop
  | .tag piece => piece.Writable
  | .text raw => raw ≠ [] ∧ '<' ∉ raw

def textsApart : List Bare → Bool
  | .text _ :: .text _ :: _ => false
  | _ :: bs => textsApart bs
  | [] => true

/-- Tokens that can be written: a text next to another would be read as one with it. -/
structure Writable (bs : List Bare) : Prop where
  each : ∀ b ∈ bs, b.Writable
  apart : textsApart bs

end Token

instance (a : Attribute) : Decidable a.Writable :=
  decidable_of_iff (a.key ≠ [] ∧ a.key.all Attribute.isSmallKeyChar ∧
      ('"' ∉ a.value ∨ '\'' ∉ a.value))
    ⟨fun ⟨h1, h2, h3⟩ => ⟨h1, List.all_eq_true.1 h2, h3⟩,
      fun ⟨h1, h2, h3⟩ => ⟨h1, List.all_eq_true.2 h2, h3⟩⟩

instance : (piece : TagText) → Decidable piece.Writable
  | .opening _ attributes _ => inferInstanceAs (Decidable (∀ a ∈ attributes, a.Writable))
  | .closing _ => inferInstanceAs (Decidable True)

instance : (b : Token.Bare) → Decidable b.Writable
  | .tag piece => inferInstanceAs (Decidable piece.Writable)
  | .text raw => inferInstanceAs (Decidable (raw ≠ [] ∧ '<' ∉ raw))

instance (bs : List Token.Bare) : Decidable (Token.Writable bs) :=
  decidable_of_iff ((∀ b ∈ bs, b.Writable) ∧ Token.textsApart bs)
    ⟨fun ⟨h1, h2⟩ => ⟨h1, h2⟩, fun ⟨h1, h2⟩ => ⟨h1, h2⟩⟩

/-! ### How it is written -/

/-- An attribute and the blanks before it. -/
inductive Attribute.Written : Attribute → Text → Prop
  | mk {key value before left right : Text} {q : Char} : before ≠ [] → TagText.IsBlanks before →
    TagText.IsBlanks left → TagText.IsBlanks right → q = '"' ∨ q = '\'' → q ∉ value →
    Written ⟨key, value⟩ (before ++ (key ++ (left ++ '=' :: (right ++ q :: (value ++ [q])))))

/-- Attributes in a row. -/
inductive Attribute.WrittenAll : List Attribute → Text → Prop
  | nil : WrittenAll [] []
  | cons {a : Attribute} {more : List Attribute} {s t : Text} : a.Written s → WrittenAll more t →
    WrittenAll (a :: more) (s ++ t)

namespace TagText

/-- A tag and its characters: `>` or `/>` comes directly or behind blanks. -/
inductive Written : TagText → Text → Prop
  | opening {tag : Tag} {attributes : List Attribute} {sc : Bool} {name body blanks : Text} :
    Text.asciiLower name = tag.name → Attribute.WrittenAll attributes body → IsBlanks blanks →
    Written (.opening tag attributes sc) ('<' :: (name ++ (body ++ (blanks ++ ending sc))))
  | closing {tag : Tag} {name blanks : Text} : Text.asciiLower name = tag.name → IsBlanks blanks →
    Written (.closing tag) ('<' :: '/' :: (name ++ (blanks ++ ['>'])))

end TagText

namespace Lexeme

def bare : Lexeme → Token.Bare
  | .tag _ piece => .tag piece
  | .text raw => .text raw

def Written : Lexeme → Prop
  | .tag s piece => piece.Written s
  | .text _ => True

/-- Lexemes that tokens can be written with. -/
structure Writes (ls : List Lexeme) (bs : List Token.Bare) : Prop where
  bare_eq : ls.map bare = bs
  written : ∀ l ∈ ls, l.Written

theorem bare_token (l : Lexeme) (offset : Nat) : (l.token offset).bare = l.bare := by
  rcases l with ⟨s, tag | tag⟩ | raw <;> rfl

theorem map_bare_tokens (offset : Nat) (ls : List Lexeme) :
    (tokens offset ls).map Token.bare = ls.map bare := by
  induction ls generalizing offset with
  | nil => rfl
  | cons l ls ih => rw [tokens_cons, List.map_cons, List.map_cons, bare_token, ih]

end Lexeme

/-! ### Attributes are read back -/

theorem Attribute.isKeyChar_of_small {c : Char} (h : isSmallKeyChar c) : TagText.isKeyChar c := by
  simp only [isSmallKeyChar, Bool.or_eq_true] at h
  change (c.isUpper || c.isLower || c.isDigit || c == '-' || c == '_') = true
  simp only [Bool.or_eq_true]
  rcases h with ((hlower | hdigit) | hdash) | hline
  · exact .inl (.inl (.inl (.inr hlower)))
  · exact .inl (.inl (.inr hdigit))
  · exact .inl (.inr hdash)
  · exact .inr hline

theorem Attribute.isUpper_of_small {c : Char} (h : isSmallKeyChar c) : c.isUpper = false := by
  simp only [isSmallKeyChar, Bool.or_eq_true, beq_iff_eq] at h
  rcases h with ((hlower | hdigit) | rfl) | rfl
  · change (decide (97 ≤ c.val) && decide (c.val ≤ 122)) = true at hlower
    change decide (65 ≤ c.val ∧ c.val ≤ 90) = false
    simp [UInt32.le_iff_toNat_le] at hlower ⊢
    omega
  · change (decide (48 ≤ c.val) && decide (c.val ≤ 57)) = true at hdigit
    change decide (65 ≤ c.val ∧ c.val ≤ 90) = false
    simp [UInt32.le_iff_toNat_le] at hdigit ⊢
    omega
  · rfl
  · rfl

theorem Attribute.Writable.asciiLower_key {a : Attribute} (h : a.Writable) :
    Text.asciiLower a.key = a.key := by
  have hlower : ∀ c ∈ a.key, c.toLower = c := fun c hc =>
    TagText.toLower_eq_self (isUpper_of_small (h.key_chars c hc))
  exact (List.map_congr_left hlower).trans (List.map_id _)

namespace TagText

/-- Where an attribute is written, it is read first. -/
theorem readAttributes_written {a : Attribute} (ha : a.Writable) {s t more : Text}
    (hs : a.Written s) {attributes : List Attribute} {sc : Bool}
    (ht : readAttributes t = .ok (attributes, sc, more)) :
    readAttributes (s ++ t) = .ok (a :: attributes, sc, more) := by
  have hkey : ∀ c ∈ a.key, isKeyChar c := fun c hc =>
    Attribute.isKeyChar_of_small (ha.key_chars c hc)
  have hne := ha.key_ne_nil
  have hlower := ha.asciiLower_key
  cases hs with
  | @mk key value before left right q _ hbefore hleft hright hquote hvalue =>
    have hread : readAttribute (key ++ (left ++ '=' :: (right ++ q :: (value ++ q :: t)))) =
        .ok (⟨key, value⟩, t) := by
      rw [readAttribute_key hkey hne hleft (readValue_quoted hright hquote hvalue t), hlower]
    have hstart : Text.NotStarting Text.isTagBlank
        (key ++ (left ++ '=' :: (right ++ q :: (value ++ q :: t)))) := by
      obtain ⟨c, u, hcons⟩ := List.exists_cons_of_ne_nil hne
      simp only at hcons
      subst hcons
      rw [List.cons_append, Text.notStarting_cons, Bool.eq_false_iff]
      intro hblank
      have hc := hkey c List.mem_cons_self
      rw [isKeyChar_eq_false_of_isTagBlank hblank] at hc
      cases hc
    have happ : before ++ (key ++ (left ++ '=' :: (right ++ q :: (value ++ [q])))) ++ t =
        before ++ (key ++ (left ++ '=' :: (right ++ q :: (value ++ q :: t)))) := by simp
    rw [happ]
    refine readAttributes_cons ?_ ht
    rw [skipBlanks_append hbefore hstart, hread]

theorem readAttributes_writtenAll {attributes : List Attribute} {body blanks : Text}
    (h : Attribute.WrittenAll attributes body) (hw : ∀ a ∈ attributes, a.Writable)
    (hb : IsBlanks blanks) (sc : Bool) (more : Text) :
    readAttributes (body ++ (blanks ++ (ending sc ++ more))) = .ok (attributes, sc, more) := by
  induction h with
  | nil => simpa using readAttributes_end hb sc more
  | cons hs _ ih =>
    rw [List.append_assoc]
    exact readAttributes_written (hw _ List.mem_cons_self) hs
      (ih fun a ha => hw a (List.mem_cons_of_mem _ ha))

/-- The name of a tag ends where its attributes start, or its end. -/
theorem endsName_writtenAll {attributes : List Attribute} {body blanks : Text}
    (h : Attribute.WrittenAll attributes body) (hb : IsBlanks blanks) (sc : Bool) (more : Text) :
    endsName (body ++ (blanks ++ (ending sc ++ more))) := by
  cases h with
  | nil => simpa using endsName_blanks hb sc more
  | cons hs _ =>
    cases hs with
    | mk hne hbefore =>
      obtain ⟨c, u, rfl⟩ := List.exists_cons_of_ne_nil hne
      simp [endsName, hbefore c List.mem_cons_self]

/-! ### Tags are read back -/

theorem Written.readsAs {piece : TagText} {s : Text} (h : piece.Written s) (hw : piece.Writable) :
    Lexeme.ReadsAs s piece := by
  cases h with
  | @opening tag attributes sc name body blanks hname hbody hb =>
    have hrest := readAttributes_writtenAll hbody hw hb sc []
    have hends := endsName_writtenAll hbody hb sc []
    have hread := readName?_name (ofName?_eq_some_iff.2 hname) false hends
    rw [List.append_nil] at hrest hread
    refine ⟨_, rfl, ?_⟩
    change readTag (slash false ++ name ++ (body ++ (blanks ++ ending sc))) = _
    rw [readTag, hread]
    simp only [hrest, tag_opening]
  | @closing tag name blanks hname hb =>
    have hends := endsName_blanks hb false []
    have hread := readName?_name (ofName?_eq_some_iff.2 hname) true hends
    rw [ending_false, List.append_nil] at hread
    refine ⟨_, rfl, ?_⟩
    change readTag (slash true ++ name ++ (blanks ++ ['>'])) = _
    rw [readTag, hread]
    simp only [readClosingEnd_blanks hb [], tag_closing]

end TagText

/-! ### Rows are read back -/

namespace Lexeme

theorem Writes.spelled {ls : List Lexeme} {bs : List Token.Bare} (h : Writes ls bs)
    (hw : Token.Writable bs) : Spelled [] ls := by
  obtain ⟨rfl, hwritten⟩ := h
  obtain ⟨heach, hapart⟩ := hw
  induction ls with
  | nil => trivial
  | cons l ls ih =>
    rw [List.map_cons] at heach hapart
    obtain ⟨hl, hls⟩ := List.forall_mem_cons.1 heach
    obtain ⟨hspelt, hrest⟩ := List.forall_mem_cons.1 hwritten
    cases l with
    | tag s piece => exact ⟨hspelt.readsAs hl, ih hrest hls hapart⟩
    | text raw =>
      rcases ls with _ | ⟨⟨s, piece⟩ | raw', ls⟩
      · exact ⟨hl.1, tagFirst_nil, plain_of_not_mem hl.2 _, trivial⟩
      · exact ⟨hl.1, tagFirst_tag s piece ls, plain_of_not_mem hl.2 _, ih hrest hls hapart⟩
      · cases hapart

end Lexeme

/-! ### Writing without any choice -/

/-- The quotes of a value: double ones unless it contains them. -/
def Attribute.quote (a : Attribute) : Char := if '"' ∈ a.value then '\'' else '"'

def Attribute.write (a : Attribute) : Text :=
  ' ' :: (a.key ++ '=' :: a.quote :: (a.value ++ [a.quote]))

def TagText.write : TagText → Text
  | .opening tag attributes sc =>
    '<' :: (tag.name ++ (attributes.flatMap Attribute.write ++ ending sc))
  | .closing tag => '<' :: '/' :: (tag.name ++ ['>'])

def Token.Bare.write : Token.Bare → Lexeme
  | .tag piece => .tag piece.write piece
  | .text raw => .text raw

theorem Attribute.Writable.written {a : Attribute} (h : a.Writable) : a.Written a.write := by
  have hblanks : TagText.IsBlanks [] := by nofun
  have hquote : (a.quote = '"' ∨ a.quote = '\'') ∧ a.quote ∉ a.value := by
    rw [Attribute.quote]
    split
    · next hdouble => exact ⟨.inr rfl, h.quotable.resolve_left fun hnot => hnot hdouble⟩
    · next hdouble => exact ⟨.inl rfl, hdouble⟩
  have hspace : TagText.IsBlanks [' '] := by simp [TagText.IsBlanks, Text.isTagBlank]
  exact @Written.mk a.key a.value [' '] [] [] a.quote (by simp) hspace hblanks hblanks hquote.1
    hquote.2

theorem Attribute.writtenAll_write {attributes : List Attribute}
    (h : ∀ a ∈ attributes, a.Writable) :
    WrittenAll attributes (attributes.flatMap Attribute.write) := by
  induction attributes with
  | nil => exact .nil
  | cons a more ih =>
    rw [List.flatMap_cons]
    exact .cons (h a List.mem_cons_self).written
      (ih fun b hb => h b (List.mem_cons_of_mem _ hb))

theorem TagText.Writable.written {piece : TagText} (h : piece.Writable) :
    piece.Written piece.write := by
  have hname (tag : Tag) : Text.asciiLower tag.name = tag.name := by cases tag <;> rfl
  cases piece with
  | opening tag attributes sc =>
    exact @Written.opening tag attributes sc _ _ [] (hname tag) (Attribute.writtenAll_write h)
      (by nofun)
  | closing tag => exact @Written.closing tag _ [] (hname tag) (by nofun)

/-- All tokens that can be written are written in some way. -/
theorem Token.Writable.writes {bs : List Token.Bare} (h : Token.Writable bs) :
    Lexeme.Writes (bs.map Bare.write) bs where
  bare_eq := by
    rw [List.map_map]
    refine (List.map_congr_left fun b _ => ?_).trans (List.map_id bs)
    cases b <;> rfl
  written := by
    intro l hl
    obtain ⟨b, hb, rfl⟩ := List.mem_map.1 hl
    cases b with
    | tag piece => exact TagText.Writable.written (h.each _ hb)
    | text raw => trivial

/-- **Scanning undoes writing**: whatever tokens are written, and in whatever way, the result
    can be scanned, and the tokens that are found are those that were written, each where it
    was written. -/
theorem Token.scan_written {bs : List Token.Bare} (h : Token.Writable bs) :
    (∃ ls, Lexeme.Writes ls bs) ∧
      ∀ ls, Lexeme.Writes ls bs →
        scan (Lexeme.sources ls) = .ok (Lexeme.tokens 0 ls) ∧
          (Lexeme.tokens 0 ls).map bare = bs := by
  refine ⟨⟨_, h.writes⟩, fun ls hls => ⟨Lexeme.scanFrom_sources (hls.spelled h) 0, ?_⟩⟩
  rw [Lexeme.map_bare_tokens, hls.bare_eq]

/-- A tag with values that have tags in them and one kind of quotes, and its characters. -/
def cellarDoor : TagText × Text :=
  (.opening .conditional [⟨"cond".toList, "a > '<s>'".toList⟩, ⟨"x-1".toList, "</IF x=\"".toList⟩]
      false,
    "<iF\n cond\t= \"a > '<s>'\" x-1='</IF x=\"' >".toList)

theorem written_cellarDoor : cellarDoor.1.Written cellarDoor.2 := by
  have hcond : Attribute.Written ⟨"cond".toList, "a > '<s>'".toList⟩
      "\n cond\t= \"a > '<s>'\"".toList :=
    @Attribute.Written.mk _ _ ['\n', ' '] ['\t'] [' '] '"' (by decide) (by decide) (by decide)
      (by decide) (.inl rfl) (by decide)
  have hother : Attribute.Written ⟨"x-1".toList, "</IF x=\"".toList⟩
      " x-1='</IF x=\"'".toList :=
    @Attribute.Written.mk _ _ [' '] [] [] '\'' (by decide) (by decide) (by decide) (by decide)
      (.inr rfl) (by decide)
  exact @TagText.Written.opening .conditional _ false ['i', 'F'] _ [' '] rfl
    (.cons hcond (.cons hother .nil)) (by decide)

/-- The tag, a text and two tags directly behind each other. -/
def cellar : List Lexeme :=
  [.tag cellarDoor.2 cellarDoor.1, .text "é & 2 > 1".toList,
    .tag "<VAR />".toList (.opening .var [] true), .tag "</If>".toList (.closing .conditional)]

theorem Token.scan_written_cellar :
    Token.Writable (cellar.map Lexeme.bare) ∧ Lexeme.Writes cellar (cellar.map Lexeme.bare) ∧
      scan (Lexeme.sources cellar) = .ok (Lexeme.tokens 0 cellar) ∧
        (Lexeme.tokens 0 cellar).map bare = cellar.map Lexeme.bare := by
  have hwritable : Token.Writable (cellar.map Lexeme.bare) := by decide
  have hvar : TagText.Written (.opening .var [] true) "<VAR />".toList :=
    @TagText.Written.opening .var [] true ['V', 'A', 'R'] [] [' '] rfl .nil (by decide)
  have hend : TagText.Written (.closing .conditional) "</If>".toList :=
    @TagText.Written.closing .conditional ['I', 'f'] [] rfl (by decide)
  have hwrites : Lexeme.Writes cellar (cellar.map Lexeme.bare) := by
    refine ⟨rfl, ?_⟩
    intro l hl
    simp only [cellar, List.mem_cons, List.not_mem_nil, or_false] at hl
    rcases hl with rfl | rfl | rfl | rfl
    · exact written_cellarDoor
    · trivial
    · exact hvar
    · exact hend
  exact ⟨hwritable, hwrites, (Token.scan_written hwritable).2 _ hwrites⟩

end Scenery
