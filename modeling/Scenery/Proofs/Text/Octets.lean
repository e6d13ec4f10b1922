/-
  Scenery/Proofs/Text/Octets.lean
  ===============================
  **The bytes of a text.**  Readers that go by offset look at single bytes.  All that they
  ask is whether a byte is a certain ASCII character or one of a class of them, and that
  question has the same answer for the first byte of a character and for the character
  (`apply_lead`): what is not ASCII is written with bytes above 127.

  A slice can be taken between offsets at which characters start.  Whether a character
  starts somewhere can be decided, so can whether a slice can be taken.
-/
import Scenery.Proofs.Markup.Places

namespace Scenery

namespace Text

/-- A text in UTF-8. -/
def octets (t : Text) : List UInt8 := t.flatMap String.utf8EncodeChar

/-- The first byte of a character, as the character with that number. -/
def lead (c : Char) : Char := Char.ofUInt8 ((String.utf8EncodeChar c).headD 0)

/-- The byte at an offset, as the character with that number. -/
def peek (t : Text) (n : Nat) : Option Char := t.octets[n]?.map Char.ofUInt8

/-- A class of ASCII characters. -/
def IsAscii (p : Char → Bool) : Prop := ∀ c, 128 ≤ c.toNat → p c = false

/-- The text that is left at an offset. -/
def LeftAt (t : Text) (n : Nat) (rest : Text) : Prop :=
  ∃ before, t = before ++ rest ∧ bytes before = n

/-! ### Bytes of characters -/

theorem octets_append (s t : Text) : octets (s ++ t) = octets s ++ octets t := List.flatMap_append

theorem length_octets (t : Text) : t.octets.length = bytes t := by
  induction t with
  | nil => rfl
  | cons c t ih =>
    rw [octets, List.flatMap_cons, List.length_append, String.length_utf8EncodeChar, bytes_cons]
    exact congrArg (c.utf8Size + ·) ih

theorem toNat_ofUInt8 (b : UInt8) : (Char.ofUInt8 b).toNat = b.toNat := UInt8.toNat_toUInt32 b

theorem utf8Size_of_lt {c : Char} (h : c.toNat < 128) : c.utf8Size = 1 := by
  rw [Char.utf8Size_eq_one_iff, UInt32.le_iff_toNat_le]
  exact Nat.le_of_lt_succ h

/-- An ASCII character is written by the byte with its number. -/
theorem lead_of_lt {c : Char} (h : c.toNat < 128) : lead c = c := by
  have hval : c.val.toNat < 128 := h
  apply Char.ext
  apply UInt32.toNat_inj.1
  change (lead c).toNat = c.toNat
  have henc : String.utf8EncodeChar c = [c.val.toUInt8] :=
    String.utf8EncodeChar_eq_singleton (utf8Size_of_lt h)
  rw [lead, henc, List.headD_cons, toNat_ofUInt8, UInt32.toNat_toUInt8]
  exact Nat.mod_eq_of_lt (by omega)

/-- The bytes of other characters have numbers above those of ASCII characters. -/
theorem le_lead_of_le {c : Char} (h : 128 ≤ c.toNat) : 128 ≤ (lead c).toNat := by
  have hval : ¬c.val.toNat ≤ 127 := Nat.not_le.2 h
  rw [lead, toNat_ofUInt8, String.utf8EncodeChar]
  simp only [if_neg hval]
  split
  · simp only [List.headD_cons, UInt8.toNat_ofNat']
    omega
  · split
    · simp only [List.headD_cons, UInt8.toNat_ofNat']
      omega
    · simp only [List.headD_cons, UInt8.toNat_ofNat']
      omega

/-- A class of ASCII characters can be told by the first byte. -/
theorem apply_lead {p : Char → Bool} (hp : IsAscii p) (c : Char) : p (lead c) = p c := by
  by_cases h : c.toNat < 128
  · rw [lead_of_lt h]
  · have hc := Nat.not_lt.1 h
    rw [hp c hc, hp _ (le_lead_of_le hc)]

theorem isAscii_beq {k : Char} (hk : k.toNat < 128) : IsAscii (· == k) := by
  intro c hc
  rw [beq_eq_false_iff_ne]
  rintro rfl
  omega

theorem lead_eq_iff {k : Char} (hk : k.toNat < 128) {c : Char} : lead c = k ↔ c = k := by
  have h := apply_lead (isAscii_beq hk) c
  rw [Bool.eq_iff_iff, beq_iff_eq, beq_iff_eq] at h
  exact h

theorem utf8Size_of_isAscii {p : Char → Bool} (hp : IsAscii p) {c : Char} (hc : p c) :
    c.utf8Size = 1 := by
  rcases Nat.lt_or_ge c.toNat 128 with h | h
  · exact utf8Size_of_lt h
  · rw [hp c h] at hc
    cases hc

/-- A character is written by its first byte and perhaps some more. -/
theorem octets_cons (c : Char) (t : Text) : ∃ b bs,
    octets (c :: t) = b :: (bs ++ octets t) ∧ Char.ofUInt8 b = lead c ∧
      bs.length + 1 = c.utf8Size := by
  have hlength := String.length_utf8EncodeChar c
  have hpos := Char.utf8Size_pos c
  rcases hc : String.utf8EncodeChar c with _ | ⟨b, bs⟩
  · rw [hc, List.length_nil] at hlength
    omega
  · refine ⟨b, bs, ?_, ?_, ?_⟩
    · rw [octets, List.flatMap_cons, hc]
      rfl
    · rw [lead, hc]
      rfl
    · rw [← hlength, hc, List.length_cons]

/-- Characters of an ASCII class can be counted byte by byte. -/
theorem length_takeWhile_octets {p : Char → Bool} (hp : IsAscii p) (t : Text) :
    (t.octets.takeWhile fun b => p (Char.ofUInt8 b)).length = bytes (t.takeWhile p) := by
  induction t with
  | nil => rfl
  | cons c t ih =>
    obtain ⟨b, bs, hoctets, hb, hlength⟩ := octets_cons c t
    rw [hoctets]
    rw [List.takeWhile_cons, hb, apply_lead hp]
    by_cases hc : p c
    · have hsize := utf8Size_of_isAscii hp hc
      have hbs : bs = [] := by
        rw [← List.length_eq_zero_iff]
        omega
      rw [hc, List.takeWhile_cons_of_pos hc, hbs, List.nil_append, bytes_cons, hsize, ← ih,
        Nat.add_comm]
      rfl
    · rw [Bool.eq_false_iff.2 hc, List.takeWhile_cons_of_neg hc]
      rfl

/-! ### What is left at an offset -/

namespace LeftAt

variable {t rest : Text} {n : Nat}

theorem start (t : Text) : LeftAt t 0 t := ⟨[], rfl, rfl⟩

theorem bytes_eq (h : LeftAt t n rest) : bytes t = n + bytes rest := by
  obtain ⟨before, rfl, rfl⟩ := h
  exact bytes_append before rest

theorem forward {x : Text} (h : LeftAt t n (x ++ rest)) : LeftAt t (n + bytes x) rest := by
  obtain ⟨before, rfl, rfl⟩ := h
  exact ⟨before ++ x, by rw [List.append_assoc], bytes_append before x⟩

theorem one {c : Char} (hc : c.utf8Size = 1) (h : LeftAt t n (c :: rest)) :
    LeftAt t (n + 1) rest := by
  have hforward : LeftAt t (n + bytes [c]) rest := h.forward
  rwa [bytes_cons, hc] at hforward

theorem dropWhile (h : LeftAt t n rest) (p : Char → Bool) :
    LeftAt t (n + bytes (rest.takeWhile p)) (rest.dropWhile p) := by
  apply forward
  rwa [List.takeWhile_append_dropWhile]

/-- The byte at an offset is the first one of what is left there. -/
theorem peek_eq (h : LeftAt t n rest) : t.peek n = rest.head?.map lead := by
  obtain ⟨before, rfl, rfl⟩ := h
  rw [peek, octets_append, ← length_octets before, List.getElem?_append_right (Nat.le_refl _),
    Nat.sub_self]
  cases rest with
  | nil => rfl
  | cons c rest =>
    obtain ⟨b, bs, hoctets, hb, -⟩ := octets_cons c rest
    rw [hoctets, List.head?_cons, Option.map_some, ← hb]
    rfl

theorem peek_nil (h : LeftAt t n []) : t.peek n = none := h.peek_eq

theorem peek_cons {c : Char} (h : LeftAt t n (c :: rest)) : t.peek n = some (lead c) := h.peek_eq

end LeftAt

/-! ### Where characters start -/

theorem isBoundary_iff {t : Text} {n : Nat} : t.IsBoundary n ↔ bytes (takeBytes n t) = n := by
  constructor
  · rintro ⟨u, v, rfl, rfl⟩
    rw [takeBytes_append]
  · intro h
    exact ⟨takeBytes n t, dropBytes n t, (takeBytes_append_dropBytes n t).symm, h⟩

instance (t : Text) (n : Nat) : Decidable (t.IsBoundary n) :=
  decidable_of_iff (bytes (takeBytes n t) = n) isBoundary_iff.symm

/-- Two cuts at the same byte are the same. -/
theorem eq_of_bytes_eq {u v u' v' : Text} (h : u ++ v = u' ++ v') (hbytes : bytes u = bytes u') :
    u = u' ∧ v = v' := by
  have htake := congrArg (takeBytes (bytes u)) h
  have hdrop := congrArg (dropBytes (bytes u)) h
  rw [takeBytes_append, hbytes, takeBytes_append] at htake
  rw [dropBytes_append, hbytes, dropBytes_append] at hdrop
  exact ⟨htake, hdrop⟩

/-- Of two cuts one comes first, and there is a piece of the text between them. -/
theorem exists_between {a b a' b' : Text} (h : a ++ b = a' ++ b') (hle : bytes a ≤ bytes a') :
    ∃ m, a' = a ++ m ∧ b = m ++ b' := by
  rcases List.append_eq_append_iff.1 h with hbetween | ⟨m, ha, hb⟩
  · exact hbetween
  · have hm : bytes m = 0 := by
      rw [ha, bytes_append] at hle
      omega
    rw [bytes_eq_zero_iff.1 hm] at ha hb
    exact ⟨[], by simpa using ha.symm, by simpa using hb.symm⟩

end Text

namespace Span

theorem in_iff {s : Span} {t : Text} :
    s.In t ↔ (s.start ≤ s.stop ∧ s.stop ≤ Text.bytes t) ∧
      t.IsBoundary s.start ∧ t.IsBoundary s.stop := by
  constructor
  · rintro ⟨h1, h2, h3, h4⟩
    exact ⟨⟨h1, h2⟩, h3, h4⟩
  · rintro ⟨⟨h1, h2⟩, h3, h4⟩
    exact ⟨h1, h2, h3, h4⟩

instance (s : Span) (t : Text) : Decidable (s.In t) := decidable_of_iff _ in_iff.symm

/-- A range that lies in a text is the place of a piece. -/
theorem In.exists_behind {s : Span} {t : Text} (h : s.In t) :
    ∃ a x c, t = a ++ (x ++ c) ∧ s = behind a x := by
  obtain ⟨a, b, rfl, ha⟩ := h.start_boundary
  obtain ⟨u, c, htext, hu⟩ := h.stop_boundary
  have hle : Text.bytes a ≤ Text.bytes u := by
    rw [ha, hu]
    exact h.start_le_stop
  obtain ⟨x, rfl, rfl⟩ := Text.exists_between htext hle
  refine ⟨a, x, c, rfl, ?_⟩
  rw [Text.bytes_append] at hu
  cases s
  simp only [behind, Span.mk.injEq]
  exact ⟨ha.symm, hu.symm⟩

end Span

end Scenery
