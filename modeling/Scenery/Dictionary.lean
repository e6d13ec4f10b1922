/-
  Scenery/Dictionary.lean
  =======================
  **Dictionaries** with texts as keys.  The entries are kept in ascending order of
  their keys with no key twice (`Dictionary.sorted`), so a dictionary is determined
  by what `get?` finds.
-/
import Scenery.Text.Basic

namespace Scenery

variable {α : Type}

/-- Values by key, in ascending order of the keys. -/
structure Dictionary (α : Type) where
  entries : List (Text × α) := []
  sorted : entries.Pairwise (fun a b => a.1 < b.1) := by simp

namespace Dictionary

def empty : Dictionary α := {}

def get? (d : Dictionary α) (key : Text) : Option α := d.entries.lookup key

def contains (d : Dictionary α) (key : Text) : Bool := (d.get? key).isSome

def size (d : Dictionary α) : Nat := d.entries.length

/-- Puts an entry at its place, instead of one with the same key. -/
def insertInto (key : Text) (value : α) : List (Text × α) → List (Text × α)
  | [] => [(key, value)]
  | entry :: rest =>
    if key < entry.1 then (key, value) :: entry :: rest
    else if key = entry.1 then (key, value) :: rest
    else entry :: insertInto key value rest

theorem mem_insertInto {key : Text} {value : α} {entries : List (Text × α)}
    {entry : Text × α} (h : entry ∈ insertInto key value entries) :
    entry = (key, value) ∨ entry ∈ entries := by
  induction entries with
  | nil => simpa [insertInto] using h
  | cons first rest ih =>
    simp only [insertInto] at h
    split at h
    · simpa using h
    · split at h
      · simp only [List.mem_cons] at h ⊢
        rcases h with h | h
        · exact .inl h
        · exact .inr (.inr h)
      · simp only [List.mem_cons] at h ⊢
        rcases h with h | h
        · exact .inr (.inl h)
        · exact (ih h).imp id .inr

theorem pairwise_insertInto {key : Text} {value : α} {entries : List (Text × α)}
    (h : entries.Pairwise (fun a b => a.1 < b.1)) :
    (insertInto key value entries).Pairwise (fun a b => a.1 < b.1) := by
  induction entries with
  | nil => simp [insertInto]
  | cons first rest ih =>
    obtain ⟨hfirst, hrest⟩ := List.pairwise_cons.1 h
    simp only [insertInto]
    split
    · next hlt =>
      refine List.pairwise_cons.2 ⟨fun e he => ?_, h⟩
      rcases List.mem_cons.1 he with rfl | he
      · exact hlt
      · exact List.lt_trans hlt (hfirst e he)
    · next hge =>
      split
      · next heq =>
        subst heq
        exact List.pairwise_cons.2 ⟨hfirst, hrest⟩
      · next hne =>
        refine List.pairwise_cons.2 ⟨fun e he => ?_, ih hrest⟩
        rcases mem_insertInto he with rfl | he
        · exact (Std.lt_trichotomy first.1 key).resolve_right
            fun h => h.elim (fun h => hne h.symm) hge
        · exact hfirst e he

def insert (d : Dictionary α) (key : Text) (value : α) : Dictionary α :=
  ⟨insertInto key value d.entries, pairwise_insertInto d.sorted⟩

/-- The dictionary of a list of entries; of two with the same key the later
    one counts. -/
def ofList (entries : List (Text × α)) : Dictionary α :=
  entries.foldl (fun d e => d.insert e.1 e.2) empty

/-- Both dictionaries in one; where both have a value, the second one's counts. -/
def merge (d other : Dictionary α) : Dictionary α :=
  other.entries.foldl (fun d e => d.insert e.1 e.2) d

end Dictionary

end Scenery
