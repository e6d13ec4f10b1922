/-
  Scenery/Proofs/Document/KeyPath.lean
  ====================================
  **Where things are in a document.**  A row of keys leads from a document to a part of
  it, one key for each table on the way (`Format.At`).  In a table that has no key twice
  it leads to one part only (`Format.At.unique`).

  A context knows such a row as one text, with points between the keys (`Path.join`).
  Nothing is lost by that as long as no key has a point in it, not even where keys are
  empty (`Path.join_injective`).

  This is said once for all kinds of documents; a `Format` is what has to be known of one.
-/
import Mathlib.Data.List.Nodup
import Scenery.Document.Tree
import Scenery.Proofs.Text.Runs

namespace Scenery

/-- Keys in ascending order are all different. -/
theorem Dictionary.nodup_of_ascending {α : Type} {entries : List (Text × α)}
    (h : entries.Pairwise fun a b => a.1 < b.1) : (entries.map (·.1)).Nodup := by
  rw [List.Nodup, List.pairwise_map]
  apply h.imp
  intro a b hlt heq
  rw [heq] at hlt
  exact List.lt_irrefl _ hlt

/-! ### Formats -/

/-- What there is in documents of a kind: the members of tables, values, and arrays. -/
structure Format (D : Type) where
  members : D → List (Text × D)
  value? : D → Option Value
  isArray : D → Bool

def Json.format : Format Json where
  members
    | .object members => members
    | _ => []
  value?
    | .boolean b => some (.boolean b)
    | .number n => some (.number n.toNumber)
    | .string t => some (.text t)
    | _ => none
  isArray
    | .array _ => true
    | _ => false

/-- Integers are taken for numbers, and moments for their texts. -/
def Toml.format : Format Toml where
  members
    | .table members => members
    | _ => []
  value?
    | .boolean b => some (.boolean b)
    | .integer i => some (.number (.ofInt i))
    | .real n => some (.number n)
    | .string t => some (.text t)
    | .moment m => some (.text m.text)
    | _ => none
  isArray
    | .array _ => true
    | _ => false

def Tree.format : Format Tree where
  members
    | .table members => members
    | _ => []
  value?
    | .leaf v => some v
    | _ => none
  isArray
    | .array => true
    | _ => false

/-! ### Rows of keys -/

namespace Format

variable {D : Type} (F : Format D)

/-- A row of keys leads from a document to a part of it. -/
inductive At : D → List Text → D → Prop
  | here {d : D} : At d [] d
  | inside {d inner part : D} {key : Text} {keys : List Text} :
    (key, inner) ∈ F.members d → At inner keys part → At d (key :: keys) part

/-- A property of all parts of a document. -/
def Everywhere (P : D → Prop) (root : D) : Prop := ∀ keys d, F.At root keys d → P d

/-- No key has a point in it. -/
def DotFree : D → Prop := F.Everywhere fun d => ∀ m ∈ F.members d, '.' ∉ m.1

/-- No table has a key twice. -/
def KeysOnce : D → Prop := F.Everywhere fun d => ((F.members d).map (·.1)).Nodup

/-- The members of each table are in ascending order of the keys. -/
def Ascending : D → Prop := F.Everywhere fun d => (F.members d).Pairwise fun a b => a.1 < b.1

variable {F} {root inner d d' : D} {key : Text} {keys : List Text}

theorem at_nil_iff : F.At root [] d ↔ d = root := by
  constructor
  · rintro ⟨⟩
    rfl
  · rintro rfl
    exact .here

theorem at_cons_iff :
    F.At root (key :: keys) d ↔ ∃ inner, (key, inner) ∈ F.members root ∧ F.At inner keys d := by
  constructor
  · rintro (_ | ⟨hmem, h⟩)
    exact ⟨_, hmem, h⟩
  · rintro ⟨inner, hmem, h⟩
    exact .inside hmem h

theorem everywhere_iff {P : D → Prop} :
    F.Everywhere P root ↔ P root ∧ ∀ m ∈ F.members root, F.Everywhere P m.2 := by
  constructor
  · intro h
    refine ⟨h [] root .here, ?_⟩
    intro m hm keys d hd
    exact h (m.1 :: keys) d (.inside hm hd)
  · rintro ⟨hroot, hbelow⟩ keys d hd
    cases hd with
    | here => exact hroot
    | inside hmem hd => exact hbelow _ hmem _ d hd

theorem Everywhere.of_members_eq_nil {P : D → Prop} (h : F.members root = []) (hP : P root) :
    F.Everywhere P root := by
  rw [everywhere_iff, h]
  exact ⟨hP, nofun⟩

theorem ascending_iff :
    F.Ascending root ↔ (F.members root).Pairwise (fun a b => a.1 < b.1) ∧
      ∀ m ∈ F.members root, F.Ascending m.2 :=
  everywhere_iff

theorem ascending_of_members_eq_nil (h : F.members root = []) : F.Ascending root := by
  rw [ascending_iff, h]
  exact ⟨.nil, nofun⟩

theorem DotFree.row (hdot : F.DotFree root) (h : F.At root keys d) : ∀ key ∈ keys, '.' ∉ key := by
  induction h with
  | here => nofun
  | inside hmem _ ih =>
    obtain ⟨hroot, hbelow⟩ := everywhere_iff.1 hdot
    exact List.forall_mem_cons.2 ⟨hroot _ hmem, ih (hbelow _ hmem)⟩

/-- What is in order is there once. -/
theorem Ascending.keysOnce (h : F.Ascending root) : F.KeysOnce root := by
  intro keys d hd
  exact Dictionary.nodup_of_ascending (h keys d hd)

/-- **A row of keys leads to one part only.** -/
theorem At.unique (honce : F.KeysOnce root) (h : F.At root keys d) (h' : F.At root keys d') :
    d = d' := by
  induction h with
  | here => exact (at_nil_iff.1 h').symm
  | @inside root inner part key keys hmem _ ih =>
    obtain ⟨inner', hmem', hrest'⟩ := at_cons_iff.1 h'
    obtain ⟨hkeys, hbelow⟩ := everywhere_iff.1 honce
    have hsame : (key, inner) = (key, inner') :=
      List.inj_on_of_nodup_map hkeys hmem hmem' rfl
    obtain ⟨-, rfl⟩ := Prod.mk.inj hsame
    exact ih (hbelow _ hmem) hrest'

end Format

/-! ### Paths -/

namespace Path

/-- Keys with points between them. -/
def join (keys : List Text) : Text := List.intercalate ['.'] keys

/-- Keys with a point before each. -/
def behind (keys : List Text) : Text := keys.flatMap fun key => '.' :: key

theorem join_cons (key : Text) (keys : List Text) : join (key :: keys) = key ++ behind keys := by
  induction keys generalizing key with
  | nil => simp [join, behind, List.intercalate]
  | cons next keys ih =>
    have hnext : join (key :: next :: keys) = key ++ '.' :: join (next :: keys) := by
      simp [join, List.intercalate]
    rw [hnext, ih]
    rfl

theorem notStarting_behind (keys : List Text) : Text.NotStarting (· != '.') (behind keys) := by
  cases keys with
  | nil => exact Text.notStarting_nil _
  | cons key keys =>
    rintro c ⟨⟩
    rfl

/-- A key without points is what comes before the first point. -/
theorem eq_of_append_behind {key key' : Text} {keys keys' : List Text} (h : '.' ∉ key)
    (h' : '.' ∉ key') (heq : key ++ behind keys = key' ++ behind keys') :
    key = key' ∧ behind keys = behind keys' := by
  have hkey : key = key' := by
    have hfirst := congrArg (List.takeWhile (· != '.')) heq
    rwa [Text.takeWhile_run (Text.bne_of_not_mem h) (notStarting_behind keys),
      Text.takeWhile_run (Text.bne_of_not_mem h') (notStarting_behind keys')] at hfirst
  subst hkey
  exact ⟨rfl, List.append_cancel_left heq⟩

theorem behind_injective {keys keys' : List Text} (h : ∀ k ∈ keys, '.' ∉ k)
    (h' : ∀ k ∈ keys', '.' ∉ k) (heq : behind keys = behind keys') : keys = keys' := by
  induction keys generalizing keys' with
  | nil =>
    cases keys' with
    | nil => rfl
    | cons => cases heq
  | cons key keys ih =>
    cases keys' with
    | nil => cases heq
    | cons key' keys' =>
      rw [List.forall_mem_cons] at h h'
      have hrest : key ++ behind keys = key' ++ behind keys' := (List.cons.inj heq).2
      obtain ⟨rfl, hbehind⟩ := eq_of_append_behind h.1 h'.1 hrest
      rw [ih h.2 h'.2 hbehind]

/-- **Keys without points can be told apart when they are joined**, also empty ones. -/
theorem join_injective {keys keys' : List Text} (hne : keys ≠ []) (hne' : keys' ≠ [])
    (h : ∀ k ∈ keys, '.' ∉ k) (h' : ∀ k ∈ keys', '.' ∉ k) (heq : join keys = join keys') :
    keys = keys' := by
  obtain ⟨key, keys, rfl⟩ := List.exists_cons_of_ne_nil hne
  obtain ⟨key', keys', rfl⟩ := List.exists_cons_of_ne_nil hne'
  rw [List.forall_mem_cons] at h h'
  rw [join_cons, join_cons] at heq
  obtain ⟨rfl, hbehind⟩ := eq_of_append_behind h.1 h'.1 heq
  rw [behind_injective h.2 h'.2 hbehind]

end Path

end Scenery
