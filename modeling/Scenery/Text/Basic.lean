/-
  Scenery/Text/Basic.lean
  =======================
  **Texts and byte offsets.**  A text is a list of characters; places in it are
  named by the number of UTF-8 bytes before them, because that is how authors'
  tools report them.  `takeBytes` and `dropBytes` cut a text at such a place, and
  `takeBytes_append_dropBytes` says that a cut loses nothing.
-/

namespace Scenery

/-- A text, character by character. -/
abbrev Text := List Char

namespace Text

/-- The length of a text in UTF-8 bytes. -/
def bytes : Text → Nat
  | [] => 0
  | c :: t => c.utf8Size + bytes t

/-- The characters that start within the first `n` bytes. -/
def takeBytes : Nat → Text → Text
  | _, [] => []
  | 0, _ :: _ => []
  | n + 1, c :: t => c :: takeBytes (n + 1 - c.utf8Size) t

/-- What is left of a text after the characters that start within the first `n` bytes. -/
def dropBytes : Nat → Text → Text
  | _, [] => []
  | 0, c :: t => c :: t
  | n + 1, c :: t => dropBytes (n + 1 - c.utf8Size) t

/-- The text as a string, for messages. -/
def toStr (t : Text) : String := String.ofList t

@[simp] theorem bytes_nil : bytes [] = 0 := rfl

@[simp] theorem bytes_cons (c : Char) (t : Text) :
    bytes (c :: t) = c.utf8Size + bytes t := rfl

@[simp] theorem bytes_append (s t : Text) : bytes (s ++ t) = bytes s + bytes t := by
  induction s with
  | nil => simp
  | cons c s ih => simp [ih, Nat.add_assoc]

theorem bytes_eq_zero_iff {t : Text} : bytes t = 0 ↔ t = [] := by
  cases t with
  | nil => simp
  | cons c t =>
    have := Char.utf8Size_pos c
    simp only [bytes_cons, reduceCtorEq, iff_false]
    omega

@[simp] theorem dropBytes_zero (t : Text) : dropBytes 0 t = t := by
  cases t <;> rfl

/-- A cut at any place loses nothing. -/
theorem takeBytes_append_dropBytes (n : Nat) (t : Text) :
    takeBytes n t ++ dropBytes n t = t := by
  induction t generalizing n with
  | nil => cases n <;> rfl
  | cons c t ih => cases n with
    | zero => rfl
    | succ n => simp [takeBytes, dropBytes, ih]

/-- A cut behind a given beginning gives back what follows it. -/
@[simp] theorem dropBytes_append (s t : Text) : dropBytes (bytes s) (s ++ t) = t := by
  induction s with
  | nil => simp
  | cons c s ih =>
    have : 0 < c.utf8Size := Char.utf8Size_pos c
    obtain ⟨n, hn⟩ : ∃ n, bytes (c :: s) = n + 1 := ⟨c.utf8Size + bytes s - 1, by simp; omega⟩
    rw [hn, List.cons_append, dropBytes, ← hn]
    simpa using ih

/-- A cut behind a given beginning gives back that beginning. -/
@[simp] theorem takeBytes_append (s t : Text) : takeBytes (bytes s) (s ++ t) = s := by
  have h := takeBytes_append_dropBytes (bytes s) (s ++ t)
  rw [dropBytes_append] at h
  exact List.append_cancel_right h

theorem length_dropWhile_le (p : Char → Bool) (t : Text) :
    (t.dropWhile p).length ≤ t.length := (List.dropWhile_sublist p).length_le

end Text

end Scenery
