/-
  Scenery/Proofs/Document/Flattening.lean
  =======================================
  **Flattening a document loses nothing and invents nothing**
  (`Context.flattening_exact`).  It fails for documents with an array, and tells where one
  is.  From all others it makes a context with one entry for each value, at the keys that
  lead to the value, with points between them.

  Flattening is a walk over the parts of a document that are no tables, each at its path
  (`Tree.partsAt`), with one step for each of them (`Tree.flattenInto_eq`).  An entry that
  a step makes is not overwritten by a later one, as the paths of different parts are
  different (`Format.apart`).  What this means for JSON and for TOML follows from what it
  means for trees, because both are only seen as trees (`Format.SeenAs`).
-/
import Mathlib.Data.List.Induction
import Scenery.Proofs.Document.Keys

namespace Scenery

/-! ### Entries of dictionaries -/

namespace Dictionary

variable {α : Type} {entry : Text × α} {key : Text} {value : α}

theorem mem_insertInto_iff {entries : List (Text × α)}
    (h : entries.Pairwise fun a b => a.1 < b.1) :
    entry ∈ insertInto key value entries ↔
      entry = (key, value) ∨ entry.1 ≠ key ∧ entry ∈ entries := by
  induction entries with
  | nil => simp [insertInto]
  | cons first rest ih =>
    obtain ⟨hfirst, hrest⟩ := List.pairwise_cons.1 h
    rw [insertInto]
    split
    · -- the new key comes before all others
      next hlt =>
      have hkey (hmem : entry ∈ first :: rest) : entry.1 ≠ key := by
        rintro rfl
        rcases List.mem_cons.1 hmem with rfl | hmem
        · exact List.lt_irrefl _ hlt
        · exact List.lt_irrefl _ (List.lt_trans hlt (hfirst entry hmem))
      rw [List.mem_cons, and_iff_right_of_imp hkey]
    · split
      · -- it is the first key, whose entry goes
        next heq =>
        subst heq
        have hkey (hmem : entry ∈ rest) : entry.1 ≠ first.1 := by
          intro hsame
          exact List.lt_irrefl _ (hsame ▸ hfirst entry hmem)
        rw [List.mem_cons, List.mem_cons, and_or_left, and_iff_right_of_imp hkey]
        have hgone : ¬(entry.1 ≠ first.1 ∧ entry = first) := by
          rintro ⟨hne, rfl⟩
          exact hne rfl
        rw [or_iff_right hgone]
      · next hne =>
        have hkey (hmem : entry = first) : entry.1 ≠ key := by
          rintro rfl
          exact hne (congrArg Prod.fst hmem)
        rw [List.mem_cons, ih hrest, List.mem_cons, and_or_left, and_iff_right_of_imp hkey,
          or_left_comm]

/-- An insertion replaces what was at its key, and leaves all else. -/
theorem mem_insert_iff {d : Dictionary α} :
    entry ∈ (d.insert key value).entries ↔
      entry = (key, value) ∨ entry.1 ≠ key ∧ entry ∈ d.entries :=
  mem_insertInto_iff d.sorted

/-- Of entries that do not contradict each other none is lost. -/
theorem mem_ofList_iff {entries : List (Text × α)}
    (h : ∀ a ∈ entries, ∀ b ∈ entries, a.1 = b.1 → a = b) :
    entry ∈ (ofList entries).entries ↔ entry ∈ entries := by
  -- from the end: the last entry is the one that is inserted last
  induction entries using List.reverseRecOn with
  | nil => exact Iff.rfl
  | append_singleton entries last ih =>
    have hsub (a : Text × α) (ha : a ∈ entries) : a ∈ entries ++ [last] :=
      List.mem_append_left _ ha
    have hlast (ha : entry ∈ entries) (hkey : entry.1 = last.1) : entry = last :=
      h entry (hsub entry ha) last List.mem_concat_self hkey
    have hstep : ofList (entries ++ [last]) = (ofList entries).insert last.1 last.2 := by
      rw [ofList, List.foldl_append]
      rfl
    rw [hstep, mem_insert_iff, ih fun a ha b hb => h a (hsub a ha) b (hsub b hb),
      List.mem_append, List.mem_singleton]
    constructor
    · rintro (heq | ⟨-, hmem⟩)
      · exact .inr heq
      · exact .inl hmem
    · rintro (hmem | heq)
      · by_cases hkey : entry.1 = last.1
        · exact .inl (hlast hmem hkey)
        · exact .inr ⟨hkey, hmem⟩
      · exact .inl heq

end Dictionary

/-! ### What flattening is about -/

namespace Format

variable {D : Type} (F : Format D)

/-- A context has what is in a document, and nothing else. -/
structure Flattens (root : D) (ctx : Context) : Prop where
  /-- The entries are the values of the document, each at the keys on the way to it. -/
  entries : ∀ path v, (path, v) ∈ ctx.entries ↔
    ∃ keys d, F.At root keys d ∧ F.value? d = some v ∧ Path.join keys = path
  /-- No path has two entries. -/
  once : (ctx.entries.map (·.1)).Nodup
  /-- Values in different places have different paths. -/
  apart : ∀ keys keys' d d', F.At root keys d → F.At root keys' d' →
    (F.value? d).isSome → (F.value? d').isSome → Path.join keys = Path.join keys' →
      keys = keys' ∧ d = d'

/-- A document is flattened, or an array in it is reported. -/
structure Exact (root : D) (result : Except DocumentError Context) : Prop where
  ok_iff : (∃ ctx, result = .ok ctx) ↔ ∀ keys d, F.At root keys d → F.isArray d = false
  flattens : ∀ ctx, result = .ok ctx → F.Flattens root ctx
  error : ∀ e, result = .error e →
    ∃ keys d, F.At root keys d ∧ F.isArray d ∧ e = .unsupportedArray (Path.join keys)

variable {F} {root : D}

/-- **In a document without points in its keys different rows of keys make different
    paths.** -/
theorem apart (honce : F.KeysOnce root) (hdot : F.DotFree root) {keys keys' : List Text}
    {d d' : D} (h : F.At root keys d) (h' : F.At root keys' d') (hne : keys ≠ [])
    (hne' : keys' ≠ []) (hjoin : Path.join keys = Path.join keys') : keys = keys' ∧ d = d' := by
  have hkeys : keys = keys' :=
    Path.join_injective hne hne' (hdot.row h) (hdot.row h') hjoin
  subst hkeys
  exact ⟨rfl, h.unique honce h'⟩

end Format

/-! ### The walk -/

namespace Tree

mutual
/-- The parts of a tree that are no tables, with their paths. -/
def partsAt (path : Text) : Tree → List (Text × Tree)
  | .nothing => [(path, .nothing)]
  | .leaf v => [(path, .leaf v)]
  | .array => [(path, .array)]
  | .table members => partsBehind (path ++ ['.']) members

/-- The parts of the members of a table, `stem` being what comes before their keys. -/
def partsBehind (stem : Text) : List (Text × Tree) → List (Text × Tree)
  | [] => []
  | (key, t) :: members => partsAt (stem ++ key) t ++ partsBehind stem members
end

/-- Adds a part that is no table. -/
def add (ctx : Context) (part : Text × Tree) : Except DocumentError Context :=
  match part.2 with
  | .leaf v => .ok (ctx.insert part.1 v)
  | .array => .error (.unsupportedArray part.1)
  | _ => .ok ctx

mutual
/-- **Flattening adds the parts of a tree one by one.** -/
theorem flattenInto_eq (ctx : Context) (path : Text) :
    ∀ t, flattenInto ctx path t = (partsAt path t).foldlM add ctx
  | .nothing => by rw [flattenInto, partsAt]; rfl
  | .leaf v => by rw [flattenInto, partsAt]; rfl
  | .array => by rw [flattenInto, partsAt]; rfl
  | .table members => by
    rw [flattenInto, partsAt]
    exact flattenMembers_eq ctx (path ++ ['.']) members

theorem flattenMembers_eq (ctx : Context) (stem : Text) :
    ∀ members, flattenMembers ctx stem members = (partsBehind stem members).foldlM add ctx
  | [] => by rw [flattenMembers, partsBehind]; rfl
  | (key, t) :: members => by
    rw [flattenMembers, partsBehind, List.foldlM_append, flattenInto_eq ctx (stem ++ key) t]
    cases (partsAt (stem ++ key) t).foldlM add ctx with
    | error e => rfl
    | ok ctx' => exact flattenMembers_eq ctx' stem members
end

/-- The entry that a part makes. -/
def leaf? (part : Text × Tree) : Option (Text × Value) :=
  match part.2 with
  | .leaf v => some (part.1, v)
  | _ => none

theorem leaf?_eq_some_iff {part : Text × Tree} {path : Text} {v : Value} :
    leaf? part = some (path, v) ↔ part = (path, .leaf v) := by
  obtain ⟨path', t⟩ := part
  cases t <;> simp [leaf?]

variable {ctx ctx' : Context} {parts : List (Text × Tree)} {e : DocumentError}

theorem of_foldlM_add_eq_ok (h : parts.foldlM add ctx = .ok ctx') :
    (∀ path, (path, .array) ∉ parts) ∧
      ctx' = (parts.filterMap leaf?).foldl (fun d e => d.insert e.1 e.2) ctx := by
  induction parts generalizing ctx with
  | nil =>
    cases h
    exact ⟨nofun, rfl⟩
  | cons part parts ih =>
    obtain ⟨path, t⟩ := part
    rw [List.foldlM_cons] at h
    cases t with
    | array => cases h
    | _ =>
      obtain ⟨harray, rfl⟩ := ih h
      refine ⟨?_, rfl⟩
      intro path
      simp [harray path]

theorem of_foldlM_add_eq_error (h : parts.foldlM add ctx = .error e) :
    ∃ path, (path, .array) ∈ parts ∧ e = .unsupportedArray path := by
  induction parts generalizing ctx with
  | nil => cases h
  | cons part parts ih =>
    obtain ⟨path, t⟩ := part
    rw [List.foldlM_cons] at h
    cases hadd : add ctx (path, t) with
    | ok ctx' =>
      rw [hadd] at h
      obtain ⟨path', hmem, rfl⟩ := ih h
      exact ⟨path', List.mem_cons_of_mem _ hmem, rfl⟩
    | error e' =>
      rw [hadd] at h
      cases h
      cases t with
      | array =>
        cases hadd
        exact ⟨path, List.mem_cons_self, rfl⟩
      | _ => cases hadd

/-! ### Where the parts are -/

/-- A part that is not divided further. -/
def Single (t : Tree) : Prop := ∀ members, t ≠ .table members

theorem single_leaf (v : Value) : (Tree.leaf v).Single := nofun

theorem single_array : Tree.array.Single := nofun

theorem at_single_iff {t d : Tree} {keys : List Text} (ht : t.Single) :
    format.At t keys d ↔ keys = [] ∧ d = t := by
  constructor
  · rintro (_ | ⟨hmem, -⟩)
    · exact ⟨rfl, rfl⟩
    · cases t with
      | table members => exact absurd rfl (ht members)
      | _ => cases hmem
  · rintro ⟨rfl, rfl⟩
    exact .here

variable {d : Tree} {p : Text}

theorem mem_singleton_iff_at {t : Tree} {path : Text} (ht : t.Single) :
    (p, d) ∈ [(path, t)] ↔ ∃ keys, format.At t keys d ∧ p = path ++ Path.behind keys := by
  rw [List.mem_singleton, Prod.mk.injEq]
  constructor
  · rintro ⟨rfl, rfl⟩
    exact ⟨[], .here, by simp [Path.behind]⟩
  · rintro ⟨keys, hat, rfl⟩
    obtain ⟨rfl, rfl⟩ := (at_single_iff ht).1 hat
    exact ⟨by simp [Path.behind], rfl⟩

mutual
theorem mem_partsAt_iff (hd : d.Single) (path : Text) : ∀ t,
    (p, d) ∈ partsAt path t ↔ ∃ keys, format.At t keys d ∧ p = path ++ Path.behind keys
  | .nothing => by rw [partsAt]; exact mem_singleton_iff_at nofun
  | .leaf v => by rw [partsAt]; exact mem_singleton_iff_at nofun
  | .array => by rw [partsAt]; exact mem_singleton_iff_at nofun
  | .table members => by
    rw [partsAt, mem_partsBehind_iff hd]
    constructor
    · rintro ⟨key, keys, t, hmem, hat, rfl⟩
      exact ⟨key :: keys, .inside hmem hat, by simp [Path.behind]⟩
    · rintro ⟨keys, hat, rfl⟩
      cases hat with
      | here => exact absurd rfl (hd members)
      | @inside _ t _ key keys hmem hat => exact ⟨key, keys, t, hmem, hat, by simp [Path.behind]⟩

theorem mem_partsBehind_iff (hd : d.Single) (stem : Text) : ∀ members,
    (p, d) ∈ partsBehind stem members ↔ ∃ key keys t,
      (key, t) ∈ members ∧ format.At t keys d ∧ p = stem ++ key ++ Path.behind keys
  | [] => by
    rw [partsBehind]
    constructor
    · nofun
    · rintro ⟨key, keys, t, hmem, -⟩
      cases hmem
  | (key, t) :: members => by
    rw [partsBehind, List.mem_append, mem_partsAt_iff hd, mem_partsBehind_iff hd]
    constructor
    · rintro (⟨keys, hat, rfl⟩ | ⟨key', keys, t', hmem, hat, rfl⟩)
      · exact ⟨key, keys, t, List.mem_cons_self, hat, rfl⟩
      · exact ⟨key', keys, t', List.mem_cons_of_mem _ hmem, hat, rfl⟩
    · rintro ⟨key', keys, t', hmem, hat, rfl⟩
      rcases List.mem_cons.1 hmem with heq | hmem
      · cases heq
        exact .inl ⟨keys, hat, rfl⟩
      · exact .inr ⟨key', keys, t', hmem, hat, rfl⟩
end

/-- A part of a table is at the keys that lead to it. -/
theorem mem_parts_iff (hd : d.Single) (members : List (Text × Tree)) :
    (p, d) ∈ partsBehind [] members ↔
      ∃ keys, format.At (.table members) keys d ∧ Path.join keys = p := by
  rw [mem_partsBehind_iff hd]
  constructor
  · rintro ⟨key, keys, t, hmem, hat, rfl⟩
    exact ⟨key :: keys, .inside hmem hat, Path.join_cons key keys⟩
  · rintro ⟨keys, hat, rfl⟩
    cases hat with
    | here => exact absurd rfl (hd members)
    | @inside _ t _ key keys hmem hat => exact ⟨key, keys, t, hmem, hat, Path.join_cons key keys⟩

theorem value?_eq_some_iff {t : Tree} {v : Value} :
    format.value? t = some v ↔ t = .leaf v := by
  cases t <;> simp [format]

theorem isArray_iff {t : Tree} : format.isArray t ↔ t = .array := by
  cases t <;> simp [format]

/-! ### Checking the keys -/

mutual
/-- Whether no key of a tree has a point in it. -/
def isDotFree : Tree → Bool
  | .nothing | .leaf _ | .array => true
  | .table members => areDotFree members

def areDotFree : List (Text × Tree) → Bool
  | [] => true
  | (key, t) :: members => decide ('.' ∉ key) && isDotFree t && areDotFree members
end

mutual
theorem isDotFree_iff : ∀ t : Tree, isDotFree t ↔ format.DotFree t
  | .nothing | .leaf _ | .array => by
    rw [isDotFree]
    exact iff_of_true rfl (Format.Everywhere.of_members_eq_nil rfl (List.forall_mem_nil _))
  | .table members => by
    rw [isDotFree, areDotFree_iff members, Format.DotFree, Format.everywhere_iff, ← forall₂_and]
    rfl

theorem areDotFree_iff : ∀ members : List (Text × Tree),
    areDotFree members ↔ ∀ m ∈ members, '.' ∉ m.1 ∧ format.DotFree m.2
  | [] => by
    rw [areDotFree]
    exact iff_of_true rfl (List.forall_mem_nil _)
  | (key, t) :: members => by
    rw [areDotFree, Bool.and_eq_true, Bool.and_eq_true, decide_eq_true_iff, isDotFree_iff t,
      areDotFree_iff members, List.forall_mem_cons]
end

end Tree

/-! ### Documents that are seen as trees -/

/-- The trees of documents have the members, the values and the arrays of the documents. -/
structure Format.SeenAs {D : Type} (F : Format D) (toTree : D → Tree) : Prop where
  members : ∀ d, Tree.format.members (toTree d) = (F.members d).map fun m => (m.1, toTree m.2)
  value? : ∀ d, Tree.format.value? (toTree d) = F.value? d
  isArray : ∀ d, Tree.format.isArray (toTree d) = F.isArray d

namespace Format.SeenAs

variable {D : Type} {F : Format D} {toTree : D → Tree} {root : D} {path : Text} {v : Value}

theorem at_iff (hF : F.SeenAs toTree) {keys : List Text} {t : Tree} :
    Tree.format.At (toTree root) keys t ↔ ∃ d, F.At root keys d ∧ toTree d = t := by
  constructor
  · intro h
    induction keys generalizing root with
    | nil => exact ⟨root, .here, (at_nil_iff.1 h).symm⟩
    | cons key keys ih =>
      obtain ⟨inner, hmem, hat⟩ := at_cons_iff.1 h
      rw [hF.members, List.mem_map] at hmem
      obtain ⟨⟨key', d⟩, hmem, heq⟩ := hmem
      cases heq
      obtain ⟨part, hpart, rfl⟩ := ih hat
      exact ⟨part, .inside hmem hpart, rfl⟩
  · rintro ⟨d, hat, rfl⟩
    induction hat with
    | here => exact .here
    | @inside root inner part key keys hmem _ ih =>
      refine .inside ?_ ih
      rw [hF.members]
      exact List.mem_map.2 ⟨(key, inner), hmem, rfl⟩

/-- Whether there is a point in a key can be checked. -/
theorem isDotFree_iff (hF : F.SeenAs toTree) : (toTree root).isDotFree ↔ F.DotFree root := by
  rw [Tree.isDotFree_iff]
  constructor
  · intro h keys d hat m hm
    refine h keys (toTree d) (hF.at_iff.2 ⟨d, hat, rfl⟩) (m.1, toTree m.2) ?_
    rw [hF.members]
    exact List.mem_map.2 ⟨m, hm, rfl⟩
  · intro h keys t hat m hm
    obtain ⟨d, hd, rfl⟩ := hF.at_iff.1 hat
    rw [hF.members] at hm
    obtain ⟨m', hm', rfl⟩ := List.mem_map.1 hm
    exact h keys d hd m' hm'

variable {members : List (Text × Tree)}

theorem mem_parts_iff (hF : F.SeenAs toTree) (hroot : toTree root = .table members) {t : Tree}
    (ht : t.Single) {P : D → Prop} (hP : ∀ d, toTree d = t ↔ P d) :
    (path, t) ∈ Tree.partsBehind [] members ↔
      ∃ keys d, F.At root keys d ∧ P d ∧ Path.join keys = path := by
  rw [Tree.mem_parts_iff ht, ← hroot]
  constructor
  · rintro ⟨keys, hat, rfl⟩
    obtain ⟨d, hd, hseen⟩ := hF.at_iff.1 hat
    exact ⟨keys, d, hd, (hP d).1 hseen, rfl⟩
  · rintro ⟨keys, d, hd, hseen, rfl⟩
    exact ⟨keys, hF.at_iff.2 ⟨d, hd, (hP d).2 hseen⟩, rfl⟩

theorem leaf_mem_parts_iff (hF : F.SeenAs toTree) (hroot : toTree root = .table members) :
    (path, .leaf v) ∈ Tree.partsBehind [] members ↔
      ∃ keys d, F.At root keys d ∧ F.value? d = some v ∧ Path.join keys = path := by
  apply hF.mem_parts_iff hroot (Tree.single_leaf v)
  intro d
  rw [← Tree.value?_eq_some_iff, hF.value?]

theorem array_mem_parts_iff (hF : F.SeenAs toTree) (hroot : toTree root = .table members) :
    (path, .array) ∈ Tree.partsBehind [] members ↔
      ∃ keys d, F.At root keys d ∧ F.isArray d ∧ Path.join keys = path := by
  apply hF.mem_parts_iff hroot Tree.single_array
  intro d
  rw [← Tree.isArray_iff, hF.isArray]

/-- A value in a table is behind a key. -/
theorem keys_ne_nil (hF : F.SeenAs toTree) (hroot : toTree root = .table members)
    {keys : List Text} {d : D} (hat : F.At root keys d) (hv : (F.value? d).isSome) :
    keys ≠ [] := by
  rintro rfl
  rw [at_nil_iff.1 hat, ← hF.value?, hroot] at hv
  cases hv

theorem apart (hF : F.SeenAs toTree) (hroot : toTree root = .table members)
    (honce : F.KeysOnce root) (hdot : F.DotFree root) {keys keys' : List Text} {d d' : D}
    (h : F.At root keys d) (h' : F.At root keys' d') (hv : (F.value? d).isSome)
    (hv' : (F.value? d').isSome) (hjoin : Path.join keys = Path.join keys') :
    keys = keys' ∧ d = d' :=
  Format.apart honce hdot h h' (hF.keys_ne_nil hroot h hv) (hF.keys_ne_nil hroot h' hv') hjoin

/-- A document is flattened to the dictionary of all that is in its parts. -/
theorem flattens (hF : F.SeenAs toTree) (hroot : toTree root = .table members)
    (honce : F.KeysOnce root) (hdot : F.DotFree root) :
    F.Flattens root (Dictionary.ofList ((Tree.partsBehind [] members).filterMap Tree.leaf?)) := by
  have hleaf {path : Text} {v : Value} :
      (path, v) ∈ (Tree.partsBehind [] members).filterMap Tree.leaf? ↔
        ∃ keys d, F.At root keys d ∧ F.value? d = some v ∧ Path.join keys = path := by
    rw [List.mem_filterMap, ← hF.leaf_mem_parts_iff hroot]
    simp only [Tree.leaf?_eq_some_iff, exists_eq_right]
  constructor
  case entries =>
    intro path v
    rw [Dictionary.mem_ofList_iff, hleaf]
    -- no entry overwrites another one: with the same path they come from the same place
    rintro ⟨path, v⟩ h ⟨path', v'⟩ h' hpath
    obtain ⟨keys, d, hat, hv, hjoin⟩ := hleaf.1 h
    obtain ⟨keys', d', hat', hv', hjoin'⟩ := hleaf.1 h'
    have hsame : keys = keys' ∧ d = d' := by
      apply hF.apart hroot honce hdot hat hat' (Option.isSome_of_mem hv)
        (Option.isSome_of_mem hv')
      rw [hjoin, hjoin']
      exact hpath
    rw [hsame.2, hv'] at hv
    cases hv
    exact Prod.ext hpath rfl
  case once => exact Dictionary.nodup_of_ascending (Dictionary.sorted _)
  case apart =>
    intro keys keys' d d' h h' hv hv' hjoin
    exact hF.apart hroot honce hdot h h' hv hv' hjoin

/-- **Trees are flattened exactly**, and what is seen as trees with them. -/
theorem exact (hF : F.SeenAs toTree) (hroot : toTree root = .table members)
    (honce : F.KeysOnce root) (hdot : F.DotFree root) : F.Exact root (toTree root).toContext := by
  have hresult : (toTree root).toContext =
      (Tree.partsBehind [] members).foldlM Tree.add Dictionary.empty := by
    rw [hroot, Tree.toContext, Tree.flattenMembers_eq]
  have herror (e : DocumentError) (h : (toTree root).toContext = .error e) :
      ∃ keys d, F.At root keys d ∧ F.isArray d ∧ e = .unsupportedArray (Path.join keys) := by
    rw [hresult] at h
    obtain ⟨path, hmem, rfl⟩ := Tree.of_foldlM_add_eq_error h
    obtain ⟨keys, d, hat, harray, rfl⟩ := (hF.array_mem_parts_iff hroot).1 hmem
    exact ⟨keys, d, hat, harray, rfl⟩
  constructor
  case ok_iff =>
    constructor
    · rintro ⟨ctx, hok⟩ keys d hat
      rw [hresult] at hok
      by_contra harray
      have hmem := (hF.array_mem_parts_iff hroot).2 ⟨keys, d, hat, by simpa using harray, rfl⟩
      exact (Tree.of_foldlM_add_eq_ok hok).1 _ hmem
    · intro hnone
      cases hcontext : (toTree root).toContext with
      | ok ctx => exact ⟨ctx, rfl⟩
      | error e =>
        obtain ⟨keys, d, hat, harray, -⟩ := herror e hcontext
        rw [hnone keys d hat] at harray
        cases harray
  case flattens =>
    intro ctx hok
    rw [hresult] at hok
    rw [(Tree.of_foldlM_add_eq_ok hok).2]
    exact hF.flattens hroot honce hdot
  case error => exact herror

end Format.SeenAs

/-! ### JSON and TOML -/

theorem Json.membersToTree_eq (members : List (Text × Json)) :
    membersToTree members = members.map fun m => (m.1, m.2.toTree) := by
  induction members with
  | nil => rw [membersToTree, List.map_nil]
  | cons m members ih => rw [membersToTree, List.map_cons, ih]

theorem Toml.membersToTree_eq (members : List (Text × Toml)) :
    membersToTree members = members.map fun m => (m.1, m.2.toTree) := by
  induction members with
  | nil => rw [membersToTree, List.map_nil]
  | cons m members ih => rw [membersToTree, List.map_cons, ih]

theorem Json.seenAs : Json.format.SeenAs Json.toTree := by
  constructor <;> intro v <;> cases v <;> rw [toTree]
  case members.object members => exact membersToTree_eq members
  all_goals rfl

theorem Toml.seenAs : Toml.format.SeenAs Toml.toTree := by
  constructor <;> intro v <;> cases v <;> rw [toTree]
  case members.table members => exact membersToTree_eq members
  all_goals rfl

instance (v : Json) : Decidable (Json.format.DotFree v) :=
  decidable_of_iff _ Json.seenAs.isDotFree_iff

instance (v : Toml) : Decidable (Toml.format.DotFree v) :=
  decidable_of_iff _ Toml.seenAs.isDotFree_iff

/-- What both formats can say, with tables as lists of members. -/
inductive Portable where
  | boolean (b : Bool)
  | integer (i : Int)
  | real (n : Number)
  | string (t : Text)
  | table (members : List (Text × Portable))

namespace Portable

mutual
def toJson : Portable → Json
  | .boolean b => .boolean b
  | .integer i => .number (.integer i)
  | .real n => .number (.real n)
  | .string t => .string t
  | .table members => .object (membersToJson members)

def membersToJson : List (Text × Portable) → List (Text × Json)
  | [] => []
  | (key, p) :: members => (key, toJson p) :: membersToJson members
end

mutual
def toToml : Portable → Toml
  | .boolean b => .boolean b
  | .integer i => .integer i
  | .real n => .real n
  | .string t => .string t
  | .table members => .table (membersToToml members)

def membersToToml : List (Text × Portable) → List (Text × Toml)
  | [] => []
  | (key, p) :: members => (key, toToml p) :: membersToToml members
end

mutual
/-- **Both formats are seen alike** where they say the same. -/
theorem toTree_toJson : ∀ p : Portable, p.toJson.toTree = p.toToml.toTree
  | .boolean b => by rw [toJson, toToml, Json.toTree, Toml.toTree]
  | .integer i => by rw [toJson, toToml, Json.toTree, Toml.toTree]; rfl
  | .real n => by rw [toJson, toToml, Json.toTree, Toml.toTree]; rfl
  | .string t => by rw [toJson, toToml, Json.toTree, Toml.toTree]
  | .table members => by
    rw [toJson, toToml, Json.toTree, Toml.toTree, membersToTree_membersToJson members]

theorem membersToTree_membersToJson : ∀ members : List (Text × Portable),
    Json.membersToTree (membersToJson members) = Toml.membersToTree (membersToToml members)
  | [] => by rw [membersToJson, membersToToml, Json.membersToTree, Toml.membersToTree]
  | (key, p) :: members => by
    rw [membersToJson, membersToToml, Json.membersToTree, Toml.membersToTree, toTree_toJson p,
      membersToTree_membersToJson members]
end

end Portable

namespace Context

theorem ofJson_eq {t : Text} {v : Json} (h : Json.read? t = some v) :
    ofJson t = v.toTree.toContext := by
  rw [ofJson, h]

theorem ofToml_eq {t : Text} {members : List (Text × Toml)} (h : Toml.read? t = some members) :
    ofToml t = (Toml.table members).toTree.toContext := by
  rw [ofToml, h]

/-- **Flattening loses nothing and invents nothing**, for documents without points in their
    keys: it succeeds if there is no array, and then there is one entry for each value, and
    else it reports an array.  So it is for all objects and tables, and for all texts that
    are read as such.  Documents that both formats can express make the same context. -/
theorem flattening_exact :
    (∀ members, Json.format.KeysOnce (.object members) → Json.format.DotFree (.object members) →
      Json.format.Exact (.object members) (Json.object members).toTree.toContext) ∧
    (∀ t members, Json.read? t = some (.object members) →
      Json.format.DotFree (.object members) → Json.format.Exact (.object members) (ofJson t)) ∧
    (∀ members, Toml.format.KeysOnce (.table members) → Toml.format.DotFree (.table members) →
      Toml.format.Exact (.table members) (Toml.table members).toTree.toContext) ∧
    (∀ t members, Toml.read? t = some members →
      Toml.format.DotFree (.table members) → Toml.format.Exact (.table members) (ofToml t)) ∧
    (∀ p : Portable, p.toJson.toTree.toContext = p.toToml.toTree.toContext) ∧
    ∀ (p : Portable) t t' members, Json.read? t = some p.toJson → Toml.read? t' = some members →
      p.toToml = .table members → ofJson t = ofToml t' := by
  have hjson (members : List (Text × Json)) (honce : Json.format.KeysOnce (.object members))
      (hdot : Json.format.DotFree (.object members)) :
      Json.format.Exact (.object members) (Json.object members).toTree.toContext :=
    Json.seenAs.exact (by rw [Json.toTree]) honce hdot
  have htoml (members : List (Text × Toml)) (honce : Toml.format.KeysOnce (.table members))
      (hdot : Toml.format.DotFree (.table members)) :
      Toml.format.Exact (.table members) (Toml.table members).toTree.toContext :=
    Toml.seenAs.exact (by rw [Toml.toTree]) honce hdot
  refine ⟨hjson, ?_, htoml, ?_, ?_, ?_⟩
  · intro t members hread hdot
    rw [ofJson_eq hread]
    exact hjson members (Json.ascending_of_read? hread).keysOnce hdot
  · intro t members hread hdot
    rw [ofToml_eq hread]
    exact htoml members (Toml.ascending_of_read? hread).keysOnce hdot
  · intro p
    rw [p.toTree_toJson]
  · intro p t t' members hjson htoml hp
    rw [ofJson_eq hjson, ofToml_eq htoml, ← hp, p.toTree_toJson]

def sloop : List (Text × Json) :=
  [("crew".toList, .number (.integer 4)), ("hull".toList,
    .object [([], .boolean true), ("keel".toList, .null), ("name".toList, .string "Iris".toList)])]

def sloopText : Text :=
  "\x7b\"hull\": \x7b\"name\": \"Iris\", \"\": true, \"keel\": null\x7d, \"crew\": 4\x7d".toList

/-- A date without a key, and an array. -/
def frigateText : Text := "[hull]\n'' = 1911-05-31\nmasts = ['fore', 'main']".toList

/-- What both formats can say about a small boat. -/
def dinghy : Portable := .table [("oars".toList, .boolean true)]

theorem flattening_exact_of_sloop :
    (Json.read? sloopText = some (.object sloop) ∧ Json.format.KeysOnce (.object sloop) ∧
      Json.format.DotFree (.object sloop) ∧
      Json.format.Exact (.object sloop) (Json.object sloop).toTree.toContext ∧
      Json.format.Exact (.object sloop) (ofJson sloopText) ∧
      (ofJson sloopText).map (·.entries) = .ok [("crew".toList, .number (.ofInt 4)),
        ("hull.".toList, .boolean true), ("hull.name".toList, .text "Iris".toList)]) ∧
    (∃ members, Toml.read? frigateText = some members ∧ Toml.format.KeysOnce (.table members) ∧
      Toml.format.DotFree (.table members) ∧
      Toml.format.Exact (.table members) (Toml.table members).toTree.toContext ∧
      Toml.format.Exact (.table members) (ofToml frigateText) ∧
      (ofToml frigateText).map (·.entries) = .error (.unsupportedArray "hull.masts".toList)) ∧
    Json.read? "\x7b\"oars\": true\x7d".toList = some dinghy.toJson ∧
    Toml.read? "oars = true".toList = some (Toml.format.members dinghy.toToml) ∧
    ofJson "\x7b\"oars\": true\x7d".toList = ofToml "oars = true".toList := by
  obtain ⟨hobject, hjson, htable, htoml, -, hboth⟩ := flattening_exact
  have hsloop : Json.read? sloopText = some (.object sloop) := by with_unfolding_all rfl
  have hdot : Json.format.DotFree (.object sloop) := by decide +kernel
  have honce := (Json.ascending_of_read? hsloop).keysOnce
  obtain ⟨frigate, hfrigate, hdot'⟩ : ∃ members ∈ Toml.read? frigateText,
      Toml.format.DotFree (.table members) := by
    decide +kernel
  have honce' := (Toml.ascending_of_read? hfrigate).keysOnce
  have hdinghy : Json.read? "\x7b\"oars\": true\x7d".toList = some dinghy.toJson := by
    with_unfolding_all rfl
  have hdinghy' : Toml.read? "oars = true".toList = some (Toml.format.members dinghy.toToml) := by
    with_unfolding_all rfl
  refine ⟨⟨hsloop, honce, hdot, hobject sloop honce hdot, hjson sloopText sloop hsloop hdot, ?_⟩,
    ⟨frigate, hfrigate, honce', hdot', htable frigate honce' hdot',
      htoml frigateText frigate hfrigate hdot', ?_⟩,
    hdinghy, hdinghy', hboth dinghy _ _ _ hdinghy hdinghy' rfl⟩
  · decide +kernel
  · decide +kernel

end Context

end Scenery
