/-
  Scenery/Proofs/ItemList/Roster.lean
  ===================================
  **Runs of insertions and deletions.**  A list that was empty at first stands for the
  things that have entered it and not left it again, the last one first (`Guest`).  Each
  change of such a list is a step of that abstract list (`change_refilled`), so after
  every run the template is the old one with the phrases of the guests in the list
  (`run?_eq`), whatever the order in which they came and went.

  What has to be known of the phrases is that they tell the things of the run apart and
  that a capital can be taken from them again (`Guest.Clear`).
-/
import Scenery.Proofs.ItemList.Mentioned
import Scenery.Proofs.ItemList.Restored
import Scenery.Proofs.Prose.Mention

namespace Scenery

/-- A thing that is in a list, and how many of it were put there. -/
structure Guest where
  thing : Thing
  count : Nat
  deriving DecidableEq, Repr

namespace Guest

def phrase (g : Guest) : Text := Prose.quantityPhrase (g.thing.times g.count) g.count

/-- The entries of a list that has these guests.  At the start of a sentence the first of
    them has a capital. -/
def row (opens : Bool) (guests : List Guest) : List Member :=
  let entries := guests.map fun g => ⟨g.phrase, true, none⟩
  if opens then ListChange.mapFirst Prose.capitalize entries else entries

/-- The phrase of a guest mentions that guest and none of the other things, with a small
    letter or with a capital, and loses a capital that it has been given. -/
structure Clear (things : List Thing) (g : Guest) : Prop where
  untagged : '<' ∉ g.phrase
  restored : Prose.decapitalize (Prose.capitalize g.phrase) = g.phrase
  mentions : ∀ x ∈ things, Prose.mentionsItem (x.times 0) g.phrase = true ↔ x = g.thing
  mentionsCapital : ∀ x ∈ things,
    Prose.mentionsItem (x.times 0) (Prose.capitalize g.phrase) = true ↔ x = g.thing

instance (things : List Thing) (g : Guest) : Decidable (Clear things g) :=
  decidable_of_iff ('<' ∉ g.phrase ∧ Prose.decapitalize (Prose.capitalize g.phrase) = g.phrase ∧
      (∀ x ∈ things, Prose.mentionsItem (x.times 0) g.phrase = true ↔ x = g.thing) ∧
      ∀ x ∈ things, Prose.mentionsItem (x.times 0) (Prose.capitalize g.phrase) = true ↔ x = g.thing)
    ⟨fun h => ⟨h.1, h.2.1, h.2.2.1, h.2.2.2⟩,
      fun h => ⟨h.untagged, h.restored, h.mentions, h.mentionsCapital⟩⟩

/-! ### The entries of guests -/

variable {opens : Bool} {things : List Thing} {guests : List Guest} {g : Guest} {m : Member}

theorem row_cons (opens : Bool) (g : Guest) (guests : List Guest) :
    row opens (g :: guests) =
      ⟨if opens then Prose.capitalize g.phrase else g.phrase, true, none⟩ :: row false guests := by
  cases opens <;> rfl

theorem row_append (opens : Bool) (xs ys : List Guest) :
    row opens (xs ++ ys) = row opens xs ++ row (opens && xs.isEmpty) ys := by
  cases xs with
  | nil => cases opens <;> rfl
  | cons x xs =>
    rw [List.cons_append, row_cons, row_cons, List.isEmpty_cons, Bool.and_false, row, row, row]
    simp

theorem length_row (opens : Bool) (guests : List Guest) :
    (row opens guests).length = guests.length := by
  rw [row]
  split <;> simp

theorem exists_of_mem_row (h : m ∈ row opens guests) :
    ∃ g ∈ guests, m = ⟨g.phrase, true, none⟩ ∨ m = ⟨Prose.capitalize g.phrase, true, none⟩ := by
  cases guests with
  | nil => cases opens <;> cases h
  | cons g guests =>
    rw [row_cons, List.mem_cons] at h
    rcases h with rfl | h
    · refine ⟨g, List.mem_cons_self, ?_⟩
      cases opens
      · exact .inl rfl
      · exact .inr rfl
    · obtain ⟨g', hg', rfl⟩ := List.mem_map.1 h
      exact ⟨g', List.mem_cons_of_mem _ hg', .inl rfl⟩

theorem tagged_of_mem_row (h : m ∈ row opens guests) : m.tagged = true := by
  obtain ⟨g, -, rfl | rfl⟩ := exists_of_mem_row h
  · rfl
  · rfl

theorem map_bare_row (opens : Bool) (guests : List Guest) :
    (row opens guests).map Member.bare = row opens guests := by
  have hbare : ∀ m ∈ row opens guests, m.bare = id m := by
    intro m hm
    obtain ⟨g, -, rfl | rfl⟩ := exists_of_mem_row hm
    · rfl
    · rfl
  rw [List.map_congr_left hbare, List.map_id]

theorem plainRow_row (h : ∀ g ∈ guests, g.Clear things) (opens : Bool) :
    Member.PlainRow (Member.enumerated (row opens guests)) := by
  apply Member.plainRow_of_writable
  intro m hm
  rw [Member.Writable, if_pos (tagged_of_mem_row hm)]
  obtain ⟨g, hg, rfl | rfl⟩ := exists_of_mem_row hm
  · exact plain_of_not_mem (h g hg).untagged _
  · apply plain_of_not_mem
    exact (Prose.recased_capitalize g.phrase).not_mem (by decide) (h g hg).untagged

/-- Every entry is the entry of a guest, and mentions that one alone. -/
theorem exists_of_row_eq_append (h : ∀ g ∈ guests, g.Clear things) {A B : List Member}
    (hrow : row opens guests = A ++ m :: B) :
    ∃ xs g ys, guests = xs ++ g :: ys ∧ A = row opens xs ∧ B = row false ys ∧
      ∀ x ∈ things, Prose.mentionsItem (x.times 0) m.text = true ↔ x = g.thing := by
  have hlength := congrArg List.length hrow
  rw [length_row, List.length_append, List.length_cons] at hlength
  obtain ⟨xs, ys, rfl, hxs⟩ : ∃ xs ys, guests = xs ++ ys ∧ xs.length = A.length := by
    refine ⟨guests.take A.length, guests.drop A.length, (List.take_append_drop _ _).symm, ?_⟩
    rw [List.length_take]
    omega
  rw [row_append] at hrow
  obtain ⟨hA, hB⟩ := List.append_inj hrow ((length_row opens xs).trans hxs)
  cases ys with
  | nil =>
    rw [List.length_append, List.length_nil] at hlength
    omega
  | cons g ys =>
    have hg := h g (List.mem_append_right _ List.mem_cons_self)
    rw [row_cons] at hB
    obtain ⟨rfl, rfl⟩ := List.cons.inj hB
    refine ⟨xs, g, ys, rfl, hA.symm, rfl, ?_⟩
    intro x hx
    show Prose.mentionsItem (x.times 0) (if _ then _ else _) = true ↔ _
    split
    · exact hg.mentionsCapital x hx
    · exact hg.mentions x hx

/-- Every guest has an entry. -/
theorem exists_mem_row (h : ∀ g ∈ guests, g.Clear things) (opens : Bool) (hg : g ∈ guests) :
    ∃ m ∈ row opens guests, ∀ x ∈ things,
      Prose.mentionsItem (x.times 0) m.text = true ↔ x = g.thing := by
  obtain ⟨xs, ys, rfl⟩ := List.append_of_mem hg
  refine ⟨⟨if opens && xs.isEmpty then Prose.capitalize g.phrase else g.phrase, true, none⟩, ?_, ?_⟩
  · rw [row_append, row_cons]
    exact List.mem_append_right _ List.mem_cons_self
  · intro x hx
    show Prose.mentionsItem (x.times 0) (if _ then _ else _) = true ↔ _
    split
    · exact (h g hg).mentionsCapital x hx
    · exact (h g hg).mentions x hx

/-- Of the guests only one is that thing. -/
theorem filter_thing_ne {xs ys : List Guest} (h : ((xs ++ g :: ys).map thing).Nodup) :
    (xs ++ g :: ys).filter (·.thing ≠ g.thing) = xs ++ ys := by
  rw [List.map_append, List.map_cons, List.perm_middle.nodup_iff, List.nodup_cons, List.mem_append,
    not_or] at h
  obtain ⟨⟨hxs, hys⟩, -⟩ := h
  have hothers {gs : List Guest} (hgs : g.thing ∉ gs.map thing) :
      gs.filter (·.thing ≠ g.thing) = gs := by
    rw [List.filter_eq_self]
    intro g' hg'
    rw [decide_eq_true_eq]
    intro hsame
    rw [← hsame] at hgs
    exact hgs (List.mem_map_of_mem hg')
  rw [List.filter_append, List.filter_cons_of_neg (by simp), hothers hxs, hothers hys]

/-- Taking the capital from the first of the old entries and giving one to the new one. -/
theorem map_bare_inserted (s : ListSite) (h : ∀ g ∈ guests, g.Clear things)
    {members : List Member} (hm : members.map Member.bare = row s.opensSentence guests)
    (g : Guest) :
    (ListChange.inserted s g.phrase members).map Member.bare =
      row s.opensSentence (g :: guests) := by
  rw [ListChange.inserted, row_cons]
  rcases hopens : s.opensSentence with _ | _
  · rw [hopens] at hm
    rw [if_neg (by simp), List.map_cons, hm]
    rfl
  · rw [hopens] at hm
    rw [if_pos rfl, List.map_cons, ListChange.map_bare_mapFirst, hm]
    cases guests with
    | nil => rfl
    | cons g' guests =>
      have hrestored := (h g' List.mem_cons_self).restored
      simp only [row_cons, ListChange.mapFirst, Bool.false_eq_true, if_true, if_false, hrestored]
      rfl

/-- Giving the capital to the entry that comes first when one has been taken out. -/
theorem map_bare_deleted (s : ListSite) {A B : List Member} {xs ys : List Guest} (m : Member)
    (hA : A.map Member.bare = row s.opensSentence xs)
    (hB : B.map Member.bare = row false ys) :
    (ListChange.deleted s A.length (A ++ m :: B)).map Member.bare =
      row s.opensSentence (xs ++ ys) := by
  have hlength := congrArg List.length hA
  rw [List.length_map, length_row] at hlength
  rw [ListChange.deleted_middle, row_append]
  by_cases hfirst : s.opensSentence = true ∧ A = []
  · obtain ⟨hopens, rfl⟩ := hfirst
    obtain rfl : xs = [] := List.length_eq_zero_iff.1 hlength.symm
    rw [if_pos ⟨hopens, rfl⟩, ListChange.map_bare_mapFirst, hB, hopens]
    rfl
  · have hrest : (s.opensSentence && xs.isEmpty) = false := by
      rw [← Bool.not_eq_true, Bool.and_eq_true]
      rintro ⟨hopens, hxs⟩
      rw [List.isEmpty_iff.1 hxs] at hlength
      exact hfirst ⟨hopens, List.length_eq_zero_iff.1 hlength⟩
    rw [if_neg hfirst, List.map_append, hA, hB, hrest]

end Guest

namespace ListChange

open Branch

variable {list : Option Text} {w : Setting} {b : Branch}

/-! ### Lists that are written over -/

/-- The template with these members in a list and nothing else. -/
def refilled (w : Setting) (b : Branch) (members : List Member) : Text :=
  sourceAll (w.fill (b.withContent (weave [] (Member.enumerated members))))

theorem agreeing_of_copulaWord?_eq_none (h : w.copulaWord? = none) (members : List Member)
    (before : Nat) : agreeing w members before = w := by
  rw [agreeing, h]
  split <;> rfl

/-- New members are written over the old ones, where no copula has to agree with them. -/
theorem withMembers_refilled (h : Found list w b) (hword : w.copulaWord? = none)
    {old members row : List Member} (hold : Member.PlainRow (Member.enumerated old))
    (hrow : members.map Member.bare = row.map Member.bare) (before : Nat) :
    withMembers (refilled w b old)
        (w.site (b.withContent (weave [] (Member.enumerated old)))) members before =
      .changed (refilled w b row) := by
  have hfound := found_agreeing h before hold
  rw [agreeing_of_copulaWord?_eq_none hword] at hfound
  rw [refilled, withMembers_of_map_bare hfound hrow, agreeing_of_copulaWord?_eq_none hword,
    withContent_withContent]
  rfl

/-- A list that has been written over holds what has been written. -/
theorem found_refilled (h : Found list w b) (hword : w.copulaWord? = none)
    {members : List Member} (hplain : Member.PlainRow (Member.enumerated members))
    (htagged : ∀ m ∈ members, m.tagged = true) :
    Finds (refilled w b members) list
        (w.site (b.withContent (weave [] (Member.enumerated members)))) ∧
      (w.site (b.withContent (weave [] (Member.enumerated members)))).isConditional = false ∧
      (Member.ofNodes (w.site (b.withContent (weave []
        (Member.enumerated members)))).children).map Member.bare = members.map Member.bare := by
  have hfound := found_agreeing h 0 hplain
  rw [agreeing_of_copulaWord?_eq_none hword] at hfound
  have hcontent := content_withContent h.isList (weave [] (Member.enumerated members))
  have hcond : (w.site (b.withContent (weave [] (Member.enumerated members)))).isConditional =
      false := by
    rw [hfound.isConditional_site, hcontent, any_isConditional_weave]
  refine ⟨hfound.finds, hcond, ?_⟩
  rw [hfound.ofNodes_children hcond, hfound.map_bare_below, hcontent, membersAll_weave]
  apply Member.gathered_enumerated
  intro m hm hloose
  rw [htagged m hm] at hloose
  cases hloose

variable {things : List Thing} {x : Thing} {guests : List Guest} {g : Guest}

/-! ### One step -/

/-- **A thing enters**: its phrase becomes the first entry. -/
theorem add_refilled (h : Found list w b) (hword : w.copulaWord? = none)
    (hguests : ∀ g ∈ guests, g.Clear things) (hx : x ∈ things) {count : Nat} (hcount : 1 ≤ count)
    (hnew : x ∉ guests.map Guest.thing) :
    add (refilled w b (Guest.row w.opens guests)) (x.times count) list =
      .ok (.changed (refilled w b (Guest.row w.opens (⟨x, count⟩ :: guests)))) := by
  have hplain := Guest.plainRow_row hguests w.opens
  obtain ⟨hfinds, hcond, hmembers⟩ :=
    found_refilled h hword hplain fun m hm => Guest.tagged_of_mem_row hm
  rw [Guest.map_bare_row] at hmembers
  have hnone : ListSite.findEntry? (w.site (b.withContent (weave [] (Member.enumerated
      (Guest.row w.opens guests))))) (x.times count) = none := by
    rw [Option.eq_none_iff_forall_ne_some]
    intro e he
    -- the entry would be the one of a guest
    obtain ⟨A, B, hsplit, -⟩ := hfinds.exists_findIdx? hcond he
    rw [hsplit, List.map_append, List.map_cons] at hmembers
    obtain ⟨xs, g, ys, rfl, -, -, hiff⟩ := Guest.exists_of_row_eq_append hguests hmembers.symm
    have hmentions : Prose.mentionsItem (x.times 0) e.text = true :=
      (List.find?_eq_some_iff_append.1 he).1
    apply hnew
    rw [(hiff x hx).1 hmentions]
    simp
  rw [add_of_finds hfinds rfl, if_neg (by omega), hnone]
  simp only [hcond, Bool.false_eq_true, if_false]
  apply congrArg Except.ok
  apply withMembers_refilled h hword hplain
  rw [Guest.map_bare_row]
  exact Guest.map_bare_inserted _ hguests hmembers ⟨x, count⟩

/-- **A guest leaves**: its entry is taken out. -/
theorem remove_refilled (h : Found list w b) (hword : w.copulaWord? = none)
    (hguests : ∀ g ∈ guests, g.Clear things) (hx : x ∈ things)
    (hdistinct : (guests.map Guest.thing).Nodup) (hmem : x ∈ guests.map Guest.thing) :
    remove (refilled w b (Guest.row w.opens guests)) (x.times 0) list =
      .ok (.changed (refilled w b (Guest.row w.opens (guests.filter (·.thing ≠ x))))) := by
  have hplain := Guest.plainRow_row hguests w.opens
  obtain ⟨hfinds, hcond, hmembers⟩ :=
    found_refilled h hword hplain fun m hm => Guest.tagged_of_mem_row hm
  rw [Guest.map_bare_row] at hmembers
  obtain ⟨e, he⟩ : ∃ e, ListSite.findEntry? (w.site (b.withContent (weave [] (Member.enumerated
      (Guest.row w.opens guests))))) (x.times 0) = some e := by
    obtain ⟨g, hg, rfl⟩ := List.mem_map.1 hmem
    obtain ⟨m, hm, hiff⟩ := Guest.exists_mem_row hguests w.opens hg
    have htagged := Guest.tagged_of_mem_row hm
    rw [← hmembers] at hm
    obtain ⟨m, hmem, rfl⟩ := List.mem_map.1 hm
    rw [hfinds.ofNodes_children hcond] at hmem
    exact ListSite.exists_findEntry? hmem htagged ((hiff g.thing hx).2 rfl)
  obtain ⟨A, B, hsplit, hindex⟩ := hfinds.exists_findIdx? hcond he
  rw [hsplit, List.map_append, List.map_cons] at hmembers
  obtain ⟨xs, g, ys, rfl, hA, hB, hiff⟩ := Guest.exists_of_row_eq_append hguests hmembers.symm
  obtain rfl : x = g.thing := (hiff x hx).1 (List.find?_eq_some_iff_append.1 he).1
  rw [remove_of_finds hfinds rfl he, if_neg (Nat.lt_irrefl 0)]
  simp only [hcond, Bool.false_eq_true, if_false, hindex]
  rw [Guest.filter_thing_ne hdistinct, hsplit]
  apply congrArg Except.ok
  apply withMembers_refilled h hword hplain
  rw [Guest.map_bare_row]
  exact Guest.map_bare_deleted _ _ hA hB

/-! ### Runs -/

/-- A thing enters a list, so many of it, or leaves it. -/
inductive Step where
  | enter (thing : Thing) (count : Nat)
  | leave (thing : Thing)
  deriving DecidableEq, Repr

namespace Step

def thing : Step → Thing
  | .enter x _ => x
  | .leave x => x

/-- The guest that comes. -/
def guest? : Step → Option Guest
  | .enter x count => some ⟨x, count⟩
  | .leave _ => none

/-- The change of a list. -/
def change (list : Option Text) (template : Text) : Step → Except MarkupError ListChange
  | .enter x count => add template (x.times count) list
  | .leave x => remove template (x.times 0) list

/-- The guests after a step.  Only what is not there can enter, and only what is there can
    leave. -/
def guests? (guests : List Guest) : Step → Option (List Guest)
  | .enter x count =>
    if 1 ≤ count ∧ x ∉ guests.map Guest.thing then some (⟨x, count⟩ :: guests) else none
  | .leave x => if x ∈ guests.map Guest.thing then some (guests.filter (·.thing ≠ x)) else none

/-- The guests after a run, if every step of it is possible. -/
def guestsAfter? (guests : List Guest) (steps : List Step) : Option (List Guest) :=
  steps.foldlM guests? guests

end Step

/-- The template that a change comes to, if it is one. -/
def changed? : Except MarkupError ListChange → Option Text
  | .ok (.changed template) => some template
  | _ => none

/-- The template after a run, if every step of it changes the template. -/
def run? (list : Option Text) (template : Text) (steps : List Step) : Option Text :=
  steps.foldlM (fun template step => changed? (step.change list template)) template

/-- One step of the template for one step of the guests. -/
theorem change_refilled (h : Found list w b) (hword : w.copulaWord? = none)
    (hguests : ∀ g ∈ guests, g.Clear things) (hdistinct : (guests.map Guest.thing).Nodup)
    {step : Step} (hstep : step.thing ∈ things) {guests' : List Guest}
    (hnext : step.guests? guests = some guests') :
    step.change list (refilled w b (Guest.row w.opens guests)) =
      .ok (.changed (refilled w b (Guest.row w.opens guests'))) := by
  cases step with
  | enter x count =>
    obtain ⟨⟨hcount, hnew⟩, hguests'⟩ := Option.ite_none_right_eq_some.1 hnext
    cases hguests'
    exact add_refilled h hword hguests hstep hcount hnew
  | leave x =>
    obtain ⟨hmem, hguests'⟩ := Option.ite_none_right_eq_some.1 hnext
    cases hguests'
    exact remove_refilled h hword hguests hstep hdistinct hmem

/-- What a step leaves of the guests: they are clear, and no two are the same thing. -/
theorem clear_of_step {step : Step} {guests' : List Guest}
    (hnext : step.guests? guests = some guests') (hguests : ∀ g ∈ guests, g.Clear things)
    (hdistinct : (guests.map Guest.thing).Nodup)
    (hstep : ∀ g ∈ step.guest?, g.Clear things) :
    (∀ g ∈ guests', g.Clear things) ∧ (guests'.map Guest.thing).Nodup := by
  cases step with
  | enter x count =>
    obtain ⟨⟨-, hnew⟩, hguests'⟩ := Option.ite_none_right_eq_some.1 hnext
    cases hguests'
    constructor
    · intro g hg
      rcases List.mem_cons.1 hg with rfl | hg
      · exact hstep _ rfl
      · exact hguests g hg
    · exact List.nodup_cons.2 ⟨hnew, hdistinct⟩
  | leave x =>
    obtain ⟨-, hguests'⟩ := Option.ite_none_right_eq_some.1 hnext
    cases hguests'
    constructor
    · intro g hg
      exact hguests g (List.mem_filter.1 hg).1
    · exact hdistinct.sublist (List.filter_sublist.map _)

/-- The steps of the template follow the steps of the guests. -/
theorem run?_refilled (h : Found list w b) (hword : w.copulaWord? = none) {steps : List Step}
    (hthings : ∀ step ∈ steps, step.thing ∈ things)
    (hsteps : ∀ g ∈ steps.filterMap Step.guest?, g.Clear things)
    (hguests : ∀ g ∈ guests, g.Clear things) (hdistinct : (guests.map Guest.thing).Nodup)
    {guests' : List Guest} (hafter : Step.guestsAfter? guests steps = some guests') :
    run? list (refilled w b (Guest.row w.opens guests)) steps =
      some (refilled w b (Guest.row w.opens guests')) := by
  induction steps generalizing guests with
  | nil =>
    cases hafter
    rfl
  | cons step steps ih =>
    rw [Step.guestsAfter?, List.foldlM_cons, Option.bind_eq_bind] at hafter
    obtain ⟨guests₁, hnext, hrest⟩ := Option.bind_eq_some_iff.1 hafter
    have hchange := change_refilled h hword hguests hdistinct
      (hthings step List.mem_cons_self) hnext
    have hstep : ∀ g ∈ step.guest?, g.Clear things := by
      intro g hg
      exact hsteps g (List.mem_filterMap.2 ⟨step, List.mem_cons_self, hg⟩)
    obtain ⟨hguests₁, hdistinct₁⟩ := clear_of_step hnext hguests hdistinct hstep
    rw [run?, List.foldlM_cons, hchange]
    apply ih
    · intro step hstep
      exact hthings step (List.mem_cons_of_mem _ hstep)
    · intro g hg
      obtain ⟨step', hstep', hg⟩ := List.mem_filterMap.1 hg
      exact hsteps g (List.mem_filterMap.2 ⟨step', List.mem_cons_of_mem _ hstep', hg⟩)
    · exact hguests₁
    · exact hdistinct₁
    · exact hrest

/-- Where nothing stands between the tags of a list, new members are put there. -/
theorem replace_inner (h : Found list w b)
    (hblock : ['/', '>'].isSuffixOf ((w.site b).place.span.slice (sourceAll (w.fill b))) = false)
    (members : List Member) :
    (w.site b).place.inner.replace (Member.joined members) (sourceAll (w.fill b)) =
      refilled w b members := by
  obtain ⟨name, ho, -⟩ := exists_of_isList h.isList
  rw [w.slice_site] at hblock
  have hstands := h.stands
  cases b with
  | var | text => cases ho
  | single opening attributes o =>
    rw [source_single, isSuffixOf_single hstands] at hblock
    cases hblock
  | block opening attributes o closing bs =>
    obtain rfl : o = .element (.list name) := by simpa [opened?] using ho
    have hreplace := Span.replace_behind (w.textBefore ++ opening) (sourceAll bs)
      (closing ++ w.textAfter) (Member.joined members)
    rw [w.inner_site, refilled, w.sourceAll_fill, w.sourceAll_fill, withContent, source_block,
      source_block, sourceAll_weave, Member.flatMap_markup_enumerated]
    simpa using hreplace

/-- **Every run of insertions and deletions writes the guests that are there**, the last one
    first, each with its phrase between tags.  A list from which everything has left is
    what it was. -/
theorem run?_eq {template : Text} {s : ListSite} (h : Finds template list s)
    (hblock : ['/', '>'].isSuffixOf (s.place.span.slice template) = false)
    (hempty : s.place.inner.slice template = []) (hcopula : adjacentCopula? s = none)
    {steps : List Step}
    (hclear : ∀ g ∈ steps.filterMap Step.guest?, g.Clear (steps.map Step.thing))
    {guests : List Guest} (hafter : Step.guestsAfter? [] steps = some guests) :
    run? list template steps = some (s.place.inner.replace
        (Member.joined (Guest.row s.opensSentence guests)) template) ∧
      (guests = [] → run? list template steps = some template) := by
  obtain ⟨w, b, hfound, rfl, rfl⟩ := Found.exists_of_finds h
  obtain ⟨hinner, hsource⟩ := source_of_not_single hfound hblock
  rw [hinner] at hempty
  have hword : w.copulaWord? = none := by
    rw [← w.word_adjacentCopula?_site b, hcopula]
    rfl
  -- the list that is there at first is one without guests
  have hstart : sourceAll (w.fill b) = refilled w b (Guest.row w.opens []) := by
    have hrow : Guest.row w.opens [] = [] := by cases w.opens <;> rfl
    rw [hrow, refilled, w.sourceAll_fill, w.sourceAll_fill, hsource]
    rw [sourceAll_weave, Member.flatMap_markup_enumerated, hempty]
    rfl
  have hnobody : ∀ g ∈ ([] : List Guest), g.Clear (steps.map Step.thing) := by simp
  have hrun := run?_refilled hfound hword (fun step hstep => List.mem_map_of_mem hstep) hclear
    hnobody List.nodup_nil hafter
  rw [← hstart] at hrun
  constructor
  · rw [hrun, replace_inner hfound hblock]
    rfl
  · rintro rfl
    rw [hrun, ← hstart]

/-- A sentence about the animals on a mat. -/
def mat : Text := "<s><il></il> sit on the mat.</s>".toList

def aDog : Thing := ⟨"DOG".toList, "a DOG".toList, none⟩

def aCat : Thing := ⟨"CAT".toList, "a CAT".toList, some "CATS".toList⟩

def aBird : Thing := ⟨"BIRD".toList, "a BIRD".toList, none⟩

/-- The dog goes while others are there, and comes back. -/
def visits : List Step :=
  [.enter aDog 1, .enter aCat 3, .enter aBird 1, .leave aDog, .leave aBird, .enter aBird 1,
    .enter aDog 1]

def departures : List Step := [.leave aBird, .leave aDog, .leave aCat]

/-- The one that comes last has the capital, and when all have gone the mat is empty. -/
theorem run?_eq_of_visits :
    ∃ s, Finds mat none s ∧ ['/', '>'].isSuffixOf (s.place.span.slice mat) = false ∧
      s.place.inner.slice mat = [] ∧ adjacentCopula? s = none ∧ s.opensSentence = true ∧
      (∀ g ∈ visits.filterMap Step.guest?, g.Clear (visits.map Step.thing)) ∧
      run? none mat visits = some ("<s><il><item>A DOG</item>, <item>a BIRD</item>, " ++
        "and <item>3 CATS</item></il> sit on the mat.</s>").toList ∧
      run? none mat (visits ++ departures) = some mat := by
  obtain ⟨s, hs, hblock, hempty, hcopula, hopens, htext⟩ := exists_finds mat none
    (fun s => ['/', '>'].isSuffixOf (s.place.span.slice mat) = false ∧
      s.place.inner.slice mat = [] ∧ adjacentCopula? s = none ∧ s.opensSentence = true ∧
      s.place.inner.replace
          (Member.joined (Guest.row true [⟨aDog, 1⟩, ⟨aBird, 1⟩, ⟨aCat, 3⟩])) mat =
        ("<s><il><item>A DOG</item>, <item>a BIRD</item>, " ++
          "and <item>3 CATS</item></il> sit on the mat.</s>").toList) (by decide +kernel)
  have hclear : ∀ g ∈ visits.filterMap Step.guest?, g.Clear (visits.map Step.thing) := by
    decide +kernel
  have hleft : ∀ g ∈ (visits ++ departures).filterMap Step.guest?,
      g.Clear ((visits ++ departures).map Step.thing) := by decide +kernel
  have hguests : Step.guestsAfter? [] visits = some [⟨aDog, 1⟩, ⟨aBird, 1⟩, ⟨aCat, 3⟩] := by
    decide +kernel
  have hnobody : Step.guestsAfter? [] (visits ++ departures) = some [] := by decide +kernel
  obtain ⟨hrun, -⟩ := run?_eq hs hblock hempty hcopula hclear hguests
  obtain ⟨-, hback⟩ := run?_eq hs hblock hempty hcopula hleft hnobody
  rw [hopens, htext] at hrun
  exact ⟨s, hs, hblock, hempty, hcopula, hopens, hclear, hrun, hback rfl⟩

end ListChange

end Scenery
