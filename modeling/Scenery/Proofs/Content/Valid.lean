/-
  Scenery/Proofs/Content/Valid.lean
  =================================
  **Which content is valid.**  Validation finds nothing exactly if ten conditions hold
  (`Content.Valid`), whatever else the content is like: no check hides another one, and
  none is made too early.  An id that occurs several times is reported once for each
  time but the first.

  In valid content whoever looks up what a placement refers to finds it, and there is no
  second definition that could be meant (`Content.Resolves`).

  The errors are collected in four loops which share the sets of ids (`Content.Progress`).
  The first two fill the sets and the last one looks into them; what is in them by then
  are all ids of a kind (`Progress.mem_seen_trackIds`).
-/
import Mathlib.Data.List.Count
import Scenery.Content.Validation
import Scenery.Proofs.Text.Runs

namespace Scenery

/-- The kind and the id that an error reports as duplicate. -/
def ContentError.duplicate? : ContentError → Option (IdKind × Text)
  | .duplicateId kind id => some (kind, id)
  | _ => none

namespace Content

/-- The ids of a kind, in the order of the definitions. -/
def ids (c : Content) : IdKind → List Text
  | .description => c.descriptions.map (·.id)
  | .item => c.items.map (·.id)

/-- The conditions on content. -/
structure Valid (c : Content) : Prop where
  description_ids : (c.ids .description).Nodup
  item_ids : (c.ids .item).Nodup
  texts : ∀ d ∈ c.descriptions, Text.trim d.text ≠ []
  names : ∀ i ∈ c.items, Text.trim i.name ≠ []
  singulars : ∀ i ∈ c.items, Text.trim i.singular ≠ []
  plurals : ∀ i ∈ c.items, ∀ p ∈ i.plural, Text.trim p ≠ []
  /-- Only puzzles are solved. -/
  solved : ∀ d ∈ c.descriptions, ∀ t ∈ d.solvedText, d.kind = .puzzle ∧ Text.trim t ≠ []
  references : ∀ p ∈ c.placements, p.item ∈ c.ids .item ∧ p.container ∈ c.ids .description
  quantities : ∀ p ∈ c.placements, p.quantity ≠ .count 0
  lists : ∀ p ∈ c.placements, ∀ l ∈ p.list, Text.trim l ≠ []

/-- What a placement refers to is found, and no other definition has the same id. -/
def Resolves (c : Content) (p : Placement) : Prop :=
  ∃ i d, c.item? p.item = some i ∧ c.items.filter (·.id = p.item) = [i] ∧
    c.description? p.container = some d ∧ c.descriptions.filter (·.id = p.container) = [d]

/-! ### The loops -/

/-- What the loops have come to: the ids that they have met, and the errors. -/
structure Progress where
  descriptions : List Text := []
  items : List Text := []
  errors : List ContentError := []

namespace Progress

/-- The ids of a kind that have been met. -/
def seen (p : Progress) : IdKind → List Text
  | .description => p.descriptions
  | .item => p.items

def insert (p : Progress) (id : Text) : IdKind → Progress
  | .description => { p with descriptions := id :: p.descriptions }
  | .item => { p with items := id :: p.items }

def report (p : Progress) (errors : List ContentError) : Progress :=
  { p with errors := p.errors ++ errors }

def trackId (kind : IdKind) (p : Progress) (id : Text) : Progress :=
  if (p.seen kind).contains id then p.report [.duplicateId kind id] else p.insert id kind

def checkText (owner : Owner) (field : Field) (t : Text) (p : Progress) : Progress :=
  if Text.trim t = [] then p.report [.emptyField owner field] else p

def checkDescription (p : Progress) (d : Description) : Progress :=
  let owner := Owner.description d.kind d.id
  let p := p.checkText owner .description d.text
  match d.solvedText with
  | none => p
  | some solved =>
    if d.kind ≠ .puzzle then p.report [.solvedTextOutsidePuzzle d.id]
    else p.checkText owner .solvedDescription solved

def checkItem (p : Progress) (i : ItemDefinition) : Progress :=
  let owner := Owner.item i.id
  let p := (p.checkText owner .name i.name).checkText owner .singular i.singular
  match i.plural with
  | none => p
  | some plural => p.checkText owner .plural plural

def checkReference (kind : IdKind) (id : Text) (index : Nat) (placement : Placement)
    (p : Progress) : Progress :=
  if (p.seen kind).contains id then p
  else p.report [.missingReference kind id index placement]

def checkPlacement (p : Progress) : Placement × Nat → Progress
  | (placement, index) =>
    let p := p.checkReference .item placement.item index placement
    let p := p.checkReference .description placement.container index placement
    let p := if placement.quantity = .count 0 then p.report [.zeroPlacement index placement] else p
    match placement.list with
    | none => p
    | some list => p.checkText (.placement index placement) .listName list

/-- All four loops, one after the other. -/
def run (c : Content) : Progress :=
  let p := (c.ids .description).foldl (trackId .description) {}
  let p := (c.ids .item).foldl (trackId .item) p
  let p := c.descriptions.foldl checkDescription p
  let p := c.items.foldl checkItem p
  c.placements.zipIdx.foldl checkPlacement p

@[simp] theorem seen_report (p : Progress) (errors : List ContentError) :
    (p.report errors).seen = p.seen := by
  funext kind
  cases kind <;> rfl

@[simp] theorem report_report (p : Progress) (xs ys : List ContentError) :
    (p.report xs).report ys = p.report (xs ++ ys) := by
  simp [report, List.append_assoc]

@[simp] theorem report_nil (p : Progress) : p.report [] = p := by
  simp [report]

theorem checkText_eq (owner : Owner) (field : Field) (t : Text) (p : Progress) :
    p.checkText owner field t = p.report (checkBlank owner field t) := by
  simp only [checkText, checkBlank, Text.trim_eq_nil_iff]
  split
  · rfl
  · rw [report_nil]

theorem checkDescription_eq (p : Progress) (d : Description) :
    p.checkDescription d = p.report (descriptionErrors d) := by
  rw [checkDescription, descriptionErrors]
  rcases d.solvedText with _ | solved
  · simp [checkText_eq]
  · by_cases hkind : d.kind = .puzzle
    · simp [checkText_eq, hkind]
    · simp [checkText_eq, hkind]

theorem checkItem_eq (p : Progress) (i : ItemDefinition) :
    p.checkItem i = p.report (itemErrors i) := by
  rw [checkItem, itemErrors]
  rcases i.plural with _ | plural
  · simp [checkText_eq]
  · simp [checkText_eq]

theorem checkReference_eq (kind : IdKind) (id : Text) (index : Nat) (placement : Placement)
    (p : Progress) : p.checkReference kind id index placement =
      p.report (if (p.seen kind).contains id then []
        else [.missingReference kind id index placement]) := by
  rw [checkReference]
  split
  · rw [report_nil]
  · rfl

/-- A placement is checked against the ids that have been met. -/
theorem checkPlacement_eq {c : Content} {p : Progress}
    (hseen : ∀ kind id, id ∈ p.seen kind ↔ id ∈ c.ids kind) (placement : Placement) (index : Nat) :
    p.checkPlacement (placement, index) = p.report (c.placementErrors index placement) := by
  have hcontains (kind : IdKind) (id : Text) :
      (p.seen kind).contains id = (c.ids kind).contains id := by
    rw [Bool.eq_iff_iff, List.contains_iff_mem, List.contains_iff_mem, hseen]
  simp only [checkPlacement, checkReference_eq, seen_report, report_report, hcontains, checkText_eq]
  rw [placementErrors]
  by_cases hzero : placement.quantity = .count 0
  · rcases placement.list with _ | list <;> simp [hzero, ids]
  · rcases placement.list with _ | list <;> simp [hzero, ids]

/-! ### The sets of ids -/

@[simp] theorem seen_insert_self (p : Progress) (id : Text) (kind : IdKind) :
    (p.insert id kind).seen kind = id :: p.seen kind := by
  cases kind <;> rfl

theorem seen_insert_of_ne (p : Progress) (id : Text) {kind other : IdKind} (h : other ≠ kind) :
    (p.insert id kind).seen other = p.seen other := by
  cases kind <;> cases other <;> first | rfl | exact absurd rfl h

@[simp] theorem errors_insert (p : Progress) (id : Text) (kind : IdKind) :
    (p.insert id kind).errors = p.errors := by
  cases kind <;> rfl

variable (kind : IdKind) (p : Progress) (ids : List Text)

/-- **Behind its loop all ids of a kind have been met**, and no others of that kind. -/
theorem mem_seen_trackIds (id : Text) :
    id ∈ (ids.foldl (trackId kind) p).seen kind ↔ id ∈ p.seen kind ∨ id ∈ ids := by
  induction ids generalizing p with
  | nil => simp
  | cons first ids ih =>
    rw [List.foldl_cons, ih, trackId]
    split
    · next hmet =>
      have hmem := List.contains_iff_mem.1 hmet
      rw [seen_report, List.mem_cons]
      constructor
      · exact Or.imp_right .inr
      · rintro (h | rfl | h)
        · exact .inl h
        · exact .inl hmem
        · exact .inr h
    · rw [seen_insert_self, List.mem_cons, List.mem_cons, or_assoc, or_left_comm]

theorem seen_trackIds_of_ne {other : IdKind} (h : other ≠ kind) :
    (ids.foldl (trackId kind) p).seen other = p.seen other := by
  induction ids generalizing p with
  | nil => rfl
  | cons first ids ih =>
    rw [List.foldl_cons, ih, trackId]
    split
    · rw [seen_report]
    · exact seen_insert_of_ne p first h

/-- The loop over the ids reports those that it has met before. -/
theorem errors_trackIds :
    (ids.foldl (trackId kind) p).errors =
      p.errors ++ (repeats (p.seen kind) ids).map (.duplicateId kind) := by
  induction ids generalizing p with
  | nil => simp [repeats]
  | cons first ids ih =>
    rw [List.foldl_cons, ih, trackId, repeats]
    split
    · rw [seen_report, List.map_cons, report, List.append_assoc]
      rfl
    · rw [seen_insert_self, errors_insert]

/-- A loop that only reports reports everything in a row. -/
theorem foldl_eq_report {α : Type} {step : Progress → α → Progress} {found : α → List ContentError}
    {P : Progress → Prop} (hP : ∀ p errors, P p → P (p.report errors))
    (hstep : ∀ p a, P p → step p a = p.report (found a)) {p : Progress} (hp : P p) (as : List α) :
    as.foldl step p = p.report (as.flatMap found) := by
  induction as generalizing p with
  | nil => simp
  | cons a as ih =>
    rw [List.foldl_cons, hstep p a hp, ih (hP p _ hp), report_report, List.flatMap_cons]

/-- **What the loops report is what validation comes to.** -/
theorem errors_run (c : Content) : (run c).errors = c.validate := by
  generalize hdescriptions : (c.ids .description).foldl (trackId .description) {} = p
  generalize hitems : (c.ids .item).foldl (trackId .item) p = q
  have hseen : ∀ kind id, id ∈ q.seen kind ↔ id ∈ c.ids kind := by
    intro kind id
    cases kind with
    | description =>
      rw [← hitems, seen_trackIds_of_ne _ _ _ (by decide), ← hdescriptions, mem_seen_trackIds]
      exact ⟨fun h => h.resolve_left (by simp [seen]), .inr⟩
    | item =>
      rw [← hitems, mem_seen_trackIds, ← hdescriptions, seen_trackIds_of_ne _ _ _ (by decide)]
      exact ⟨fun h => h.resolve_left (by simp [seen]), .inr⟩
  have herrors : q.errors =
      (repeats [] (c.ids .description)).map (.duplicateId .description) ++
        (repeats [] (c.ids .item)).map (.duplicateId .item) := by
    have hnone : p.seen .item = [] := by
      rw [← hdescriptions, seen_trackIds_of_ne _ _ _ (by decide)]
      rfl
    rw [← hitems, errors_trackIds, hnone, ← hdescriptions, errors_trackIds]
    rfl
  have hplacements : c.placements.zipIdx.foldl checkPlacement
        ((c.items.foldl checkItem (c.descriptions.foldl checkDescription q))) =
      ((q.report (c.descriptions.flatMap descriptionErrors)).report
        (c.items.flatMap itemErrors)).report
          (c.placements.zipIdx.flatMap fun (p, index) => c.placementErrors index p) := by
    rw [foldl_eq_report (P := fun _ => True) (fun _ _ _ => trivial)
      (fun p d _ => checkDescription_eq p d) trivial,
      foldl_eq_report (P := fun _ => True) (fun _ _ _ => trivial)
      (fun p i _ => checkItem_eq p i) trivial,
      foldl_eq_report (P := fun r => ∀ kind id, id ∈ r.seen kind ↔ id ∈ c.ids kind)
      (fun r errors h => by rwa [seen_report])
      (fun r placed h => checkPlacement_eq h placed.1 placed.2) (by simpa using hseen)]
  simp only [run, hdescriptions, hitems, hplacements]
  simp only [report, herrors, validate, List.mapIdx_eq_zipIdx_map, List.append_assoc,
    List.flatMap_def]
  rfl

end Progress

/-! ### What finds nothing -/

section Checks

variable {c : Content} {id : Text} {seen ids : List Text} {owner : Owner} {field : Field} {t : Text}

theorem repeats_eq_nil_iff : repeats seen ids = [] ↔ ids.Nodup ∧ ∀ id ∈ ids, id ∉ seen := by
  induction ids generalizing seen with
  | nil => simp [repeats]
  | cons first ids ih =>
    rw [repeats, List.nodup_cons, List.forall_mem_cons]
    split
    · next hmet => simp [List.contains_iff_mem.1 hmet]
    · next hnew =>
      rw [ih]
      simp only [List.contains_iff_mem] at hnew
      constructor
      · rintro ⟨hnodup, hids⟩
        have hfirst : first ∉ ids := fun h => hids first h List.mem_cons_self
        exact ⟨⟨hfirst, hnodup⟩, hnew, fun id h hs => hids id h (List.mem_cons_of_mem _ hs)⟩
      · rintro ⟨⟨hfirst, hnodup⟩, -, hids⟩
        refine ⟨hnodup, ?_⟩
        intro id h hs
        rcases List.mem_cons.1 hs with rfl | hs
        · exact hfirst h
        · exact hids id h hs

/-- An id is repeated as many times as it occurs, less the first one. -/
theorem count_repeats :
    (repeats seen ids).count id = if id ∈ seen then ids.count id else ids.count id - 1 := by
  induction ids generalizing seen with
  | nil => simp [repeats]
  | cons first ids ih =>
    rw [repeats]
    by_cases hfirst : first = id
    · subst hfirst
      by_cases hmet : first ∈ seen
      · simp [hmet, ih]
      · simp [hmet, ih]
    · by_cases hmet : first ∈ seen
      · simp [hmet, hfirst, ih]
      · simp [hmet, hfirst, ih, Ne.symm hfirst]

theorem checkBlank_eq_nil_iff : checkBlank owner field t = [] ↔ Text.trim t ≠ [] := by
  rw [checkBlank, Ne, Text.trim_eq_nil_iff]
  split
  · next h => simp [h]
  · next h => simp [h]

theorem descriptionErrors_eq_nil_iff {d : Description} :
    descriptionErrors d = [] ↔
      Text.trim d.text ≠ [] ∧ ∀ t ∈ d.solvedText, d.kind = .puzzle ∧ Text.trim t ≠ [] := by
  rw [descriptionErrors, List.append_eq_nil_iff, checkBlank_eq_nil_iff]
  apply and_congr_right'
  rcases d.solvedText with _ | solved
  · simp
  · by_cases hkind : d.kind = .puzzle
    · simp [hkind, checkBlank_eq_nil_iff]
    · simp [hkind]

theorem itemErrors_eq_nil_iff {i : ItemDefinition} :
    itemErrors i = [] ↔ Text.trim i.name ≠ [] ∧ Text.trim i.singular ≠ [] ∧
      ∀ p ∈ i.plural, Text.trim p ≠ [] := by
  rw [itemErrors, List.append_eq_nil_iff, List.append_eq_nil_iff, checkBlank_eq_nil_iff,
    checkBlank_eq_nil_iff, and_assoc]
  rcases i.plural with _ | plural
  · simp
  · simp [checkBlank_eq_nil_iff]

theorem placementErrors_eq_nil_iff {index : Nat} {p : Placement} :
    c.placementErrors index p = [] ↔ (p.item ∈ c.ids .item ∧ p.container ∈ c.ids .description) ∧
      p.quantity ≠ .count 0 ∧ ∀ l ∈ p.list, Text.trim l ≠ [] := by
  have hnil {P : Prop} [Decidable P] {e : ContentError} :
      (if P then [] else [e]) = [] ↔ P := by
    by_cases h : P <;> simp [h]
  have hcons {P : Prop} [Decidable P] {e : ContentError} :
      (if P then [e] else []) = [] ↔ ¬P := by
    by_cases h : P <;> simp [h]
  rw [placementErrors, List.append_eq_nil_iff, List.append_eq_nil_iff, List.append_eq_nil_iff,
    hnil, hnil, hcons, List.contains_iff_mem, List.contains_iff_mem, and_assoc]
  refine and_congr Iff.rfl (and_congr Iff.rfl ?_)
  rcases p.list with _ | l
  · simp
  · simp [checkBlank_eq_nil_iff]

/-- **Validation finds nothing exactly in valid content.** -/
theorem validate_eq_nil_iff : c.validate = [] ↔ c.Valid := by
  simp only [validate, List.append_eq_nil_iff, List.map_eq_nil_iff, repeats_eq_nil_iff,
    List.flatMap_eq_nil_iff, List.flatten_eq_nil_iff, List.mem_mapIdx, descriptionErrors_eq_nil_iff,
    itemErrors_eq_nil_iff]
  constructor
  · rintro ⟨⟨⟨⟨⟨hdescriptions, -⟩, hitems, -⟩, hd⟩, hi⟩, hplacements⟩
    have hp : ∀ p ∈ c.placements, (p.item ∈ c.ids .item ∧ p.container ∈ c.ids .description) ∧
        p.quantity ≠ .count 0 ∧ ∀ l ∈ p.list, Text.trim l ≠ [] := by
      intro p hp
      obtain ⟨index, hindex, rfl⟩ := List.getElem_of_mem hp
      exact placementErrors_eq_nil_iff.1 (hplacements _ ⟨index, hindex, rfl⟩)
    exact
      { description_ids := hdescriptions
        item_ids := hitems
        texts := fun d h => (hd d h).1
        names := fun i h => (hi i h).1
        singulars := fun i h => (hi i h).2.1
        plurals := fun i h => (hi i h).2.2
        solved := fun d h => (hd d h).2
        references := fun p h => (hp p h).1
        quantities := fun p h => (hp p h).2.1
        lists := fun p h => (hp p h).2.2 }
  · intro h
    refine ⟨⟨⟨⟨⟨h.description_ids, by simp⟩, h.item_ids, by simp⟩, ?_⟩, ?_⟩, ?_⟩
    · intro d hd
      exact ⟨h.texts d hd, h.solved d hd⟩
    · intro i hi
      exact ⟨h.names i hi, h.singulars i hi, h.plurals i hi⟩
    · rintro _ ⟨index, hindex, rfl⟩
      have hmem := List.getElem_mem hindex
      exact placementErrors_eq_nil_iff.2
        ⟨h.references _ hmem, h.quantities _ hmem, h.lists _ hmem⟩

end Checks

/-! ### Ids that occur several times -/

section Duplicates

variable {c : Content} {errors : List ContentError}

theorem count_duplicateId_eq_zero (h : ∀ e ∈ errors, e.duplicate? = none)
    (kind : IdKind) (id : Text) : errors.count (.duplicateId kind id) = 0 := by
  rw [List.count_eq_zero]
  intro hmem
  cases h _ hmem

theorem duplicate?_of_mem_checkBlank {owner : Owner} {field : Field} {t : Text} :
    ∀ e ∈ checkBlank owner field t, e.duplicate? = none := by
  intro e he
  rw [checkBlank] at he
  split at he
  · rw [List.mem_singleton.1 he]
    rfl
  · cases he

theorem duplicate?_of_mem_descriptionErrors {d : Description} :
    ∀ e ∈ descriptionErrors d, e.duplicate? = none := by
  intro e he
  rw [descriptionErrors, List.mem_append] at he
  rcases he with he | he
  · exact duplicate?_of_mem_checkBlank e he
  · split at he
    · cases he
    · split at he
      · rw [List.mem_singleton.1 he]
        rfl
      · exact duplicate?_of_mem_checkBlank e he

theorem duplicate?_of_mem_itemErrors {i : ItemDefinition} :
    ∀ e ∈ itemErrors i, e.duplicate? = none := by
  intro e he
  rw [itemErrors, List.mem_append, List.mem_append] at he
  rcases he with (he | he) | he
  · exact duplicate?_of_mem_checkBlank e he
  · exact duplicate?_of_mem_checkBlank e he
  · split at he
    · cases he
    · exact duplicate?_of_mem_checkBlank e he

theorem duplicate?_of_mem_placementErrors {index : Nat} {p : Placement} :
    ∀ e ∈ c.placementErrors index p, e.duplicate? = none := by
  intro e he
  rw [placementErrors, List.mem_append, List.mem_append, List.mem_append] at he
  rcases he with ((he | he) | he) | he
  · split at he
    · cases he
    · rw [List.mem_singleton.1 he]
      rfl
  · split at he
    · cases he
    · rw [List.mem_singleton.1 he]
      rfl
  · split at he
    · rw [List.mem_singleton.1 he]
      rfl
    · cases he
  · split at he
    · cases he
    · exact duplicate?_of_mem_checkBlank e he

theorem count_map_duplicateId (kind other : IdKind) (id : Text) (ids : List Text) :
    (ids.map (ContentError.duplicateId other)).count (.duplicateId kind id) =
      if other = kind then ids.count id else 0 := by
  by_cases hkind : other = kind
  · subst hkind
    rw [if_pos rfl]
    have hinjective : Function.Injective (ContentError.duplicateId other) := by
      intro x y h
      exact (ContentError.duplicateId.inj h).2
    exact List.count_map_of_injective ids _ hinjective id
  · rw [if_neg hkind, List.count_eq_zero]
    intro hmem
    obtain ⟨x, -, hx⟩ := List.mem_map.1 hmem
    exact hkind (ContentError.duplicateId.inj hx).1

/-- **An id is reported once for each time that it occurs but the first**, as one of its own
    kind. -/
theorem count_duplicateId (c : Content) (kind : IdKind) (id : Text) :
    c.validate.count (.duplicateId kind id) = (c.ids kind).count id - 1 := by
  have hothers : (c.descriptions.flatMap descriptionErrors ++ c.items.flatMap itemErrors ++
      (c.placements.mapIdx (placementErrors c)).flatten).count (.duplicateId kind id) = 0 := by
    apply count_duplicateId_eq_zero
    intro e he
    rw [List.mem_append, List.mem_append] at he
    rcases he with (he | he) | he
    · obtain ⟨d, -, he⟩ := List.mem_flatMap.1 he
      exact duplicate?_of_mem_descriptionErrors e he
    · obtain ⟨i, -, he⟩ := List.mem_flatMap.1 he
      exact duplicate?_of_mem_itemErrors e he
    · obtain ⟨errors, herrors, he⟩ := List.mem_flatten.1 he
      obtain ⟨index, _, rfl⟩ := List.mem_mapIdx.1 herrors
      exact duplicate?_of_mem_placementErrors e he
  rw [validate, List.append_assoc, List.append_assoc, List.append_assoc, List.count_append,
    List.count_append, ← List.append_assoc, hothers, count_map_duplicateId, count_map_duplicateId,
    count_repeats, count_repeats]
  cases kind with
  | description => simp [ids]
  | item => simp [ids]

end Duplicates

/-! ### Lookups in valid content -/

section Lookups

variable {α : Type} {as : List α} {f : α → Text} {a : α}

/-- Where no two ids are the same, an id finds what has it, and nothing else has it. -/
theorem find?_and_filter_of_nodup (h : (as.map f).Nodup) (ha : a ∈ as) :
    as.find? (f · = f a) = some a ∧ as.filter (f · = f a) = [a] := by
  obtain ⟨xs, ys, rfl⟩ := List.append_of_mem ha
  rw [List.map_append, List.map_cons, List.nodup_append, List.nodup_cons] at h
  obtain ⟨-, ⟨hright, -⟩, hcross⟩ := h
  have hxs : ∀ x ∈ xs, ¬decide (f x = f a) = true := by
    intro x hx
    rw [decide_eq_true_eq]
    exact hcross _ (List.mem_map_of_mem hx) _ List.mem_cons_self
  have hys : ∀ y ∈ ys, ¬decide (f y = f a) = true := by
    intro y hy
    rw [decide_eq_true_eq]
    intro hya
    exact hright (hya ▸ List.mem_map_of_mem hy)
  constructor
  · rw [List.find?_append, List.find?_eq_none.2 hxs, Option.none_or]
    exact List.find?_cons_of_pos (by simp)
  · rw [List.filter_append, List.filter_eq_nil_iff.2 hxs, List.filter_cons_of_pos (by simp),
      List.filter_eq_nil_iff.2 hys]
    rfl

end Lookups

theorem Valid.resolves {c : Content} (h : c.Valid) {p : Placement} (hp : p ∈ c.placements) :
    c.Resolves p := by
  obtain ⟨hitem, hdescription⟩ := h.references p hp
  obtain ⟨i, hi, hid⟩ := List.mem_map.1 hitem
  obtain ⟨d, hd, hcontainer⟩ := List.mem_map.1 hdescription
  obtain ⟨hfindItem, honlyItem⟩ := find?_and_filter_of_nodup h.item_ids hi
  obtain ⟨hfindDescription, honlyDescription⟩ := find?_and_filter_of_nodup h.description_ids hd
  rw [hid] at hfindItem honlyItem
  rw [hcontainer] at hfindDescription honlyDescription
  exact ⟨i, d, hfindItem, honlyItem, hfindDescription, honlyDescription⟩

/-- **Validation is exact**: it reports what the loops find, finds nothing exactly in valid
    content, and reports an id once for each time too many.  What it lets pass can be looked
    up without a doubt what is meant. -/
theorem validate_exact (c : Content) :
    (Progress.run c).errors = c.validate ∧ (c.validate = [] ↔ c.Valid) ∧
      (∀ kind id, c.validate.count (.duplicateId kind id) = (c.ids kind).count id - 1) ∧
      (c.validate = [] → ∀ p ∈ c.placements, c.Resolves p) := by
  refine ⟨Progress.errors_run c, validate_eq_nil_iff, count_duplicateId c, ?_⟩
  intro hnone p hp
  exact (validate_eq_nil_iff.1 hnone).resolves hp

/-- A description and an item with one id, and the item in the description. -/
def mooring : Content where
  descriptions := [⟨"boat".toList, .puzzle, "<s>It holds <il/>.</s>".toList, some "Gone.".toList⟩]
  items := [⟨"boat".toList, "BOAT".toList, "a toy BOAT".toList, some "BOATS".toList⟩]
  placements := [⟨"boat".toList, "boat".toList, none, .count 2⟩]

/-- An item that is defined three times, once without a name, and none of it is placed. -/
def flotsam : Content where
  items := [⟨"rope".toList, "ROPE".toList, "a ROPE".toList, none⟩,
    ⟨"rope".toList, " ".toList, "a ROPE".toList, none⟩,
    ⟨"rope".toList, "ROPE".toList, "a ROPE".toList, none⟩]
  placements := [⟨"rope".toList, "boat".toList, some "".toList, .count 0⟩]

theorem validate_exact_of_mooring :
    (mooring.validate = [] ∧ mooring.Valid ∧
      ∀ p ∈ mooring.placements, mooring.Resolves p) ∧
    flotsam.validate.length = 6 ∧ ¬flotsam.Valid ∧
      flotsam.validate.count (.duplicateId .item "rope".toList) = 2 := by
  have hmooring : mooring.validate = [] := by decide +kernel
  have hflotsam : flotsam.validate.length = 6 := by decide +kernel
  obtain ⟨-, hvalid, -, hresolves⟩ := validate_exact mooring
  obtain ⟨-, hinvalid, hcount, -⟩ := validate_exact flotsam
  refine ⟨⟨hmooring, hvalid.1 hmooring, hresolves hmooring⟩, hflotsam, ?_, hcount .item _⟩
  intro h
  rw [hinvalid.2 h] at hflotsam
  cases hflotsam

end Content

end Scenery
