/-
  Scenery/Proofs/ItemList/Capitals.lean
  =====================================
  **The capital at the start of a sentence.**  Where a list starts its sentence, no
  member that enters or leaves puts a small letter there.  Another number in the first
  entry can: that number is one then, the entry did not start with a word such as `A`,
  and the singular phrase starts with a small letter (`LosesCapital`).  All other
  changes keep the capital, and so does every run of them.  Left out are deletions that
  make a tag of the loose text in front of an `and` (`Member.FormsTag`).

  A small letter is one that has a capital.
-/
import Scenery.Proofs.ItemList.Wellformed

namespace Scenery

namespace Member

/-- The first of some members starts with a small letter. -/
def opensSmall : List Member → Bool
  | [] => false
  | m :: _ => Prose.startsSmall m.text

theorem opensSmall_map_bare (members : List Member) :
    opensSmall (members.map bare) = opensSmall members := by
  cases members <;> rfl

/-! ### The first member that is read -/

/-- Text that has been started is read first, up to its first connector. -/
theorem exists_gathered_cons {c : Char} (hb : Text.isBlank c = false) (hcomma : c ≠ ',')
    (ha : c ≠ 'a') (t : Text) (ms : List Member) :
    ∃ q found, gathered (c :: t) ms = loose (c :: q) :: found := by
  have htext (t : Text) : ∃ q found, ofText (c :: t) = loose (c :: q) :: found := by
    obtain ⟨q, ps, hsplit⟩ := Prose.exists_split_cons hb hcomma ha t
    exact ⟨q, ps.map loose, by rw [ofText, hsplit]; rfl⟩
  induction ms generalizing t with
  | nil => exact htext t
  | cons m ms ih =>
    rcases htagged : m.tagged with _ | _
    · rw [gathered_untagged htagged, List.cons_append]
      exact ih _
    · obtain ⟨q, found, hfound⟩ := htext t
      refine ⟨q, found ++ m.bare :: gathered [] ms, ?_⟩
      rw [gathered_tagged htagged, hfound, List.cons_append]

/-- An enumeration starts with a small letter only if its first member does. -/
theorem opensSmall_gathered {members : List Member} (h : ∀ m ∈ members, m.Trimmed)
    (hsmall : opensSmall members = false) :
    opensSmall (gathered [] (enumerated members)) = false := by
  cases members with
  | nil =>
    rw [enumerated, gathered_nil, ofText_nil]
    rfl
  | cons m ms =>
    obtain ⟨rest, hrest⟩ := exists_enumerated_cons ms
    rw [hrest]
    rcases htagged : m.tagged with _ | _
    · obtain ⟨hne, hcomma, hstart⟩ := h m List.mem_cons_self htagged
      obtain ⟨c, t, hct⟩ := List.exists_cons_of_ne_nil hne
      rw [hct, Text.notStarting_cons] at hstart
      rw [opensSmall, hct, Prose.startsSmall_cons hstart] at hsmall
      have ha : c ≠ 'a' := by
        rintro rfl
        exact absurd hsmall (by decide +kernel)
      have hc : c ≠ ',' := by
        rintro rfl
        exact hcomma (by simp [hct])
      obtain ⟨q, found, hfound⟩ := exists_gathered_cons hstart hc ha t rest
      rw [gathered_untagged htagged, List.nil_append, hct, hfound, opensSmall, loose_text,
        Prose.startsSmall_cons hstart, hsmall]
    · rw [gathered_tagged htagged, ofText_nil, List.nil_append]
      exact hsmall

end Member

namespace ListChange

/-- A list starts its sentence, and not with a small letter. -/
structure Capitalized (s : ListSite) : Prop where
  opens : s.opensSentence = true
  capital : Member.opensSmall (Member.below s.children) = false

/-- A change gives the first member the singular phrase of an item, that starts with a
    small letter, and the member did not start with a word such as `A`. -/
def LosesCapital (s : ListSite) (item : Item) : Prop :=
  ∃ e, item.quantity = .count 1 ∧ s.findEntry? item = some e ∧
    (∃ m ∈ (Member.below s.children).head?, m.source = some e.place.span) ∧
    Prose.isTitleWord (Text.firstWord (Text.trim e.text)) = false ∧
    Prose.startsSmall item.singular = true

/-- The phrase that a change writes has no `<`. -/
def WritesPlainly (item : Item) : Prop :=
  ∀ count, 1 ≤ count → item.quantity = .count count → '<' ∉ Prose.quantityPhrase item count

variable {template : Text} {list : Option Text} {s : ListSite} {item : Item}

/-- Members that are written behind a capital are read behind it. -/
theorem capitalized_of_written (h : Finds template list s) (hs : Capitalized s)
    {members : List Member} (hrow : Member.PlainRow (Member.enumerated members))
    (ht : ∀ m ∈ members, m.Trimmed) (hcapital : Member.opensSmall members = false)
    (before : Nat) :
    ∃ template' s', withMembers template s members before = .changed template' ∧
      Finds template' list s' ∧ Capitalized s' := by
  obtain ⟨template', s', hresult, hfinds, hplace, hcond, hmembers, -⟩ :=
    h.withMembers hrow before
  rw [hfinds.ofNodes_children hcond] at hmembers
  refine ⟨template', s', hresult, hfinds, hplace.opensSentence.trans hs.opens, ?_⟩
  rw [← Member.opensSmall_map_bare, hmembers]
  exact Member.opensSmall_gathered ht hcapital

theorem capitalized_of_inserted (h : Finds template list s) (hcond : s.isConditional = false)
    (hs : Capitalized s) {phrase : Text} (hphrase : '<' ∉ phrase) :
    ∃ template' s', withMembers template s (inserted s phrase (Member.ofNodes s.children))
        (Member.ofNodes s.children).length = .changed template' ∧
      Finds template' list s' ∧ Capitalized s' := by
  apply capitalized_of_written h hs
  · exact plainRow_inserted h hcond hphrase
  · exact trimmed_of_mem_inserted s phrase
  · rw [inserted, if_pos hs.opens]
    exact Prose.startsSmall_capitalize phrase

theorem capitalized_of_deleted (h : Finds template list s) (hcond : s.isConditional = false)
    (hs : Capitalized s) (hq : item.quantity = .count 0) {e : ListSite.Entry}
    (he : s.findEntry? item = some e) {index : Nat}
    (hindex : (Member.ofNodes s.children).findIdx? (fun m => m.source == some e.place.span) =
      some index)
    (hleaves : ¬Leaves Member.FormsTag template item list) :
    ∃ template' s', withMembers template s (deleted s index (Member.ofNodes s.children))
        (Member.ofNodes s.children).length = .changed template' ∧
      Finds template' list s' ∧ Capitalized s' := by
  apply capitalized_of_written h hs
  · exact plainRow_deleted h hcond hq he hindex hleaves
  · exact trimmed_of_mem_deleted s index
  · obtain ⟨A, B, hbelow, hindex'⟩ := h.exists_findIdx? hcond he
    obtain rfl : index = A.length := Option.some.inj (hindex.symm.trans hindex')
    rw [hbelow, deleted_middle]
    cases A with
    | nil =>
      rw [if_pos ⟨hs.opens, rfl⟩]
      cases B with
      | nil => rfl
      | cons m B => exact Prose.startsSmall_capitalize m.text
    | cons m A =>
      -- the first member stays where it is
      have hcapital := hs.capital
      rw [← h.ofNodes_children hcond, hbelow] at hcapital
      rw [if_neg (by simp)]
      exact hcapital

theorem opensSmall_of_requantified (h : Finds template list s) (hs : Capitalized s)
    {e : ListSite.Entry} (he : s.findEntry? item = some e) {count : Nat} (hcount : 1 ≤ count)
    (hq : item.quantity = .count count) (hphrase : '<' ∉ Prose.quantityPhrase item count) :
    ∃ template' s', withQuantity template e item count = .changed template' ∧
      Finds template' list s' ∧ s'.opensSentence = true ∧
      (Member.opensSmall (Member.below s'.children) = true ↔ LosesCapital s item) := by
  obtain ⟨template', s', A, B, hresult, hfinds, hplace, -, hbelow, hsource, hbelow', -⟩ :=
    h.withQuantity he hphrase
  refine ⟨template', s', hresult, hfinds, hplace.opensSentence.trans hs.opens, ?_⟩
  rw [← Member.opensSmall_map_bare, hbelow']
  cases A with
  | nil =>
    rw [List.map_nil, List.nil_append, Member.opensSmall,
      Prose.startsSmall_requantify e.text item hcount]
    constructor
    · rintro ⟨rfl, htitle, hsmall⟩
      exact ⟨e, hq, he, ⟨_, by rw [hbelow]; rfl, rfl⟩, htitle, hsmall⟩
    · rintro ⟨e', hq', he', -, htitle, hsmall⟩
      cases hq.symm.trans hq'
      cases he.symm.trans he'
      exact ⟨rfl, htitle, hsmall⟩
  | cons m A =>
    -- the first member stays as it is
    have hcapital := hs.capital
    rw [hbelow, List.cons_append, Member.opensSmall] at hcapital
    rw [List.map_cons, List.cons_append, Member.opensSmall, Member.bare_text, hcapital]
    refine ⟨fun h => Bool.noConfusion h, ?_⟩
    rintro ⟨e', -, he', ⟨m', hm', hsource'⟩, -⟩
    cases he.symm.trans he'
    rw [hbelow, List.cons_append, List.head?_cons, Option.mem_some_iff] at hm'
    exact absurd (hm' ▸ hsource') (hsource m List.mem_cons_self)

/-- A list that starts its sentence with a capital goes on doing so unless the change is
    one that loses the capital. -/
theorem opensSmall_iff_of_changed {template' : Text} (h : Finds template list s)
    (hs : Capitalized s) (hplain : WritesPlainly item)
    (hleaves : ¬Leaves Member.FormsTag template item list)
    (hchange : add template item list = .ok (.changed template') ∨
      remove template item list = .ok (.changed template')) :
    ∃ s', Finds template' list s' ∧ s'.opensSentence = true ∧
      (Member.opensSmall (Member.below s'.children) = true ↔ LosesCapital s item) := by
  have hkept {s' : ListSite} (hs' : Capitalized s') (hkeeps : ¬LosesCapital s item) :
      s'.opensSentence = true ∧
        (Member.opensSmall (Member.below s'.children) = true ↔ LosesCapital s item) :=
    ⟨hs'.opens, iff_of_false (by simp [hs'.capital]) hkeeps⟩
  rcases changed_cases h hchange with ⟨count, e, hq, hcount, he, hresult⟩ |
    ⟨count, hq, hcount, hnone, hcond, hresult⟩ | ⟨e, index, hq, he, hcond, hindex, hresult⟩
  · obtain ⟨_, s', hresult', hfinds, hs'⟩ :=
      opensSmall_of_requantified h hs he hcount hq (hplain count hcount hq)
    cases hresult.symm.trans hresult'
    exact ⟨s', hfinds, hs'⟩
  · obtain ⟨_, s', hresult', hfinds, hs'⟩ :=
      capitalized_of_inserted h hcond hs (hplain count hcount hq)
    cases hresult.symm.trans hresult'
    refine ⟨s', hfinds, hkept hs' ?_⟩
    rintro ⟨e, -, he, -⟩
    cases hnone.symm.trans he
  · obtain ⟨_, s', hresult', hfinds, hs'⟩ :=
      capitalized_of_deleted h hcond hs hq he hindex hleaves
    cases hresult.symm.trans hresult'
    refine ⟨s', hfinds, hkept hs' ?_⟩
    rintro ⟨e, hq', -⟩
    cases hq.symm.trans hq'

/-- Changes of one list after another, none of which loses its capital or leaves a tag that
    is not one. -/
inductive Run (list : Option Text) : Text → Text → Prop where
  | none (template : Text) : Run list template template
  | change {template template' template'' : Text} {s : ListSite} {item : Item} :
    Run list template template' → Finds template' list s → WritesPlainly item →
    ¬Leaves Member.FormsTag template' item list → ¬LosesCapital s item →
    (add template' item list = .ok (.changed template'') ∨
      remove template' item list = .ok (.changed template'')) →
    Run list template template''

theorem capitalized_of_run {template' : Text} (h : Finds template list s) (hs : Capitalized s)
    (hrun : Run list template template') : ∃ s', Finds template' list s' ∧ Capitalized s' := by
  induction hrun with
  | none => exact ⟨s, h, hs⟩
  | change _ hfinds hplain hleaves hkeeps hchange ih =>
    obtain ⟨s', hfinds', hs'⟩ := ih
    cases finds_unique hfinds hfinds'
    obtain ⟨s'', hfinds'', hopens, hiff⟩ :=
      opensSmall_iff_of_changed hfinds hs' hplain hleaves hchange
    have hcapital := (not_congr hiff).2 hkeeps
    exact ⟨s'', hfinds'', hopens, by simpa using hcapital⟩

/-- **The capital of a sentence stays where a list starts it.**  A change that leaves no
    false tag puts a small letter there exactly if it loses the capital; so no run of other
    changes does. -/
theorem capital_kept (h : Finds template list s) (hs : Capitalized s) :
    (∀ item template', WritesPlainly item → ¬Leaves Member.FormsTag template item list →
      (add template item list = .ok (.changed template') ∨
        remove template item list = .ok (.changed template')) →
      ∃ s', Finds template' list s' ∧ s'.opensSentence = true ∧
        (Member.opensSmall (Member.below s'.children) = true ↔ LosesCapital s item)) ∧
    (∀ template', Run list template template' →
      ∃ s', Finds template' list s' ∧ s'.opensSentence = true ∧
        Member.opensSmall (Member.below s'.children) = false) := by
  constructor
  · intro item template' hplain hleaves hchange
    exact opensSmall_iff_of_changed h hs hplain hleaves hchange
  · intro template' hrun
    obtain ⟨s', hfinds, hs'⟩ := capitalized_of_run h hs hrun
    exact ⟨s', hfinds, hs'.opens, hs'.capital⟩

/-- A sentence that starts with a dog. -/
def dogSentence : Text :=
  "<s><il><item>A DOG</item>, two of each, and <item>a BIRD</item></il> are in.</s>".toList

/-- The dog leaves, and what comes first then has the capital. -/
theorem capital_kept_of_dog :
    ∃ s template', Finds dogSentence none s ∧ Capitalized s ∧
      WritesPlainly ⟨"DOG".toList, .count 0, "a DOG".toList, none⟩ ∧
      ¬Leaves Member.FormsTag dogSentence ⟨"DOG".toList, .count 0, "a DOG".toList, none⟩ none ∧
      remove dogSentence ⟨"DOG".toList, .count 0, "a DOG".toList, none⟩ none =
        .ok (.changed template') ∧
      Run none dogSentence template' ∧
      (∃ s', Finds template' none s' ∧
        (Member.opensSmall (Member.below s'.children) = true ↔
          LosesCapital s ⟨"DOG".toList, .count 0, "a DOG".toList, none⟩)) ∧
      ∃ s', Finds template' none s' ∧ s'.opensSentence = true ∧
        Member.opensSmall (Member.below s'.children) = false := by
  obtain ⟨s, hs, hopens, hcapital, e, he, hindex, hdeleted⟩ := exists_finds dogSentence none
    (fun s => s.opensSentence = true ∧ Member.opensSmall (Member.below s.children) = false ∧
      ∃ e ∈ s.findEntry? ⟨"DOG".toList, .count 0, "a DOG".toList, none⟩,
        (Member.ofNodes s.children).findIdx? (fun m => m.source == some e.place.span) = some 0 ∧
        ∀ m ∈ deleted s 0 (Member.ofNodes s.children), m.tagged = false → '<' ∉ m.text)
    (by decide +kernel)
  have hremove : remove dogSentence ⟨"DOG".toList, .count 0, "a DOG".toList, none⟩ none =
      .ok (.changed "<s><il>Two of each and <item>a BIRD</item></il> are in.</s>".toList) :=
    eq_ok_of_toOption (by decide +kernel)
  have hplain : WritesPlainly ⟨"DOG".toList, .count 0, "a DOG".toList, none⟩ := by
    intro count hcount hq
    cases hq
    exact absurd hcount (by decide)
  have hleaves : ¬Leaves Member.FormsTag dogSentence
      ⟨"DOG".toList, .count 0, "a DOG".toList, none⟩ none := by
    rw [leaves_iff hs rfl he hindex]
    exact Member.not_formsTag_of_not_mem hdeleted
  have hkeeps : ¬LosesCapital s ⟨"DOG".toList, .count 0, "a DOG".toList, none⟩ := by
    rintro ⟨e, hq, -⟩
    cases hq
  have hrun := Run.change (.none dogSentence) hs hplain hleaves hkeeps (.inr hremove)
  have hkept := capital_kept hs ⟨hopens, hcapital⟩
  obtain ⟨s', hfinds, -, hiff⟩ := hkept.1 _ _ hplain hleaves (.inr hremove)
  exact ⟨s, _, hs, ⟨hopens, hcapital⟩, hplain, hleaves, hremove, hrun, ⟨s', hfinds, hiff⟩,
    hkept.2 _ hrun⟩

/-- Of fifteen pencils one is left, and the sentence starts with a small letter. -/
theorem opensSmall_of_pencil :
    ∃ s template' s', Finds "<s><il><item>15 PENCILS</item></il> are here.</s>".toList none s ∧
      s.opensSentence = true ∧ Member.opensSmall (Member.ofNodes s.children) = false ∧
      remove "<s><il><item>15 PENCILS</item></il> are here.</s>".toList
        ⟨"PENCIL".toList, .count 1, "a PENCIL".toList, some "PENCILS".toList⟩ none =
          .ok (.changed template') ∧
      Finds template' none s' ∧ s'.opensSentence = true ∧
      Member.opensSmall (Member.ofNodes s'.children) = true := by
  obtain ⟨s, hs, hopens, hcapital⟩ := exists_finds
    "<s><il><item>15 PENCILS</item></il> are here.</s>".toList none
    (fun s => s.opensSentence = true ∧ Member.opensSmall (Member.ofNodes s.children) = false)
    (by decide +kernel)
  obtain ⟨s', hs', hopens', hsmall⟩ := exists_finds
    "<s><il><item>a PENCIL</item></il> are here.</s>".toList none
    (fun s => s.opensSentence = true ∧ Member.opensSmall (Member.ofNodes s.children) = true)
    (by decide +kernel)
  exact ⟨s, _, s', hs, hopens, hcapital, eq_ok_of_toOption (by decide +kernel), hs', hopens',
    hsmall⟩

end ListChange

end Scenery
