/-
  Scenery/Proofs/ItemList/Agreement.lean
  ======================================
  **Agreement of a list with the copula next to it.**  A copula that agrees with a list
  goes on agreeing with it when members enter or leave, for the copula changes when
  the list crosses between one member and several.  A member that leaves must not make a
  tag of the loose text in front of an `and` (`Member.FormsTag`), for the list that is
  written then is not the one that is read.

  Another number in an entry leaves the copula alone.  So the agreement is kept there
  exactly if the list has several members or the entry is as plural as it was
  (`agrees_of_changed`), and a single entry that becomes plural is left with `is`
  (`not_agrees_of_pencils`).
-/
import Scenery.Proofs.ItemList.Wellformed

namespace Scenery

namespace Prose

theorem plural_eq_of_isForm {word : Text} {p q : Bool} (hp : IsForm (copulaFor p) word)
    (hq : IsForm (copulaFor q) word) : p = q := by
  have h := (Text.length_of_afterFolded? hp).symm.trans (Text.length_of_afterFolded? hq)
  revert h
  cases p <;> cases q <;> decide

end Prose

namespace Member

theorem gathered_and_ne_nil {m : Member} (h : m.Trimmed) : gathered " and ".toList [m] ≠ [] := by
  rcases htagged : m.tagged with _ | _
  · obtain ⟨hne, hcomma, hstart⟩ := h htagged
    rw [gathered_untagged htagged, gathered_nil, ofText, Prose.split_and_append hstart hcomma]
    obtain ⟨c, t, hct⟩ := List.exists_cons_of_ne_nil hne
    rw [hct, Text.notStarting_cons] at hstart
    rw [hct, ne_eq, List.map_eq_nil_iff]
    exact Prose.filterMap_splitInner_ne_nil hstart t
  · rw [gathered_tagged htagged]
    simp

/-- Members behind the first of three or more make members apart from the text before
    them. -/
theorem exists_gathered_enumeratedTail {ms : List Member} (hne : ms ≠ [])
    (h : ∀ m ∈ ms, m.Trimmed) (pending : Text) :
    ∃ found, found ≠ [] ∧ gathered pending (enumeratedTail ms) = ofText pending ++ found := by
  induction ms generalizing pending with
  | nil => exact absurd rfl hne
  | cons m ms ih =>
    cases ms with
    | nil =>
      refine ⟨gathered " and ".toList [m], gathered_and_ne_nil (h m List.mem_cons_self), ?_⟩
      rw [enumeratedTail, gathered_untagged rfl]
      exact gathered_comma pending " and ".toList [m]
    | cons m' ms =>
      have hms := ih (by simp) (fun m₁ hm₁ => h m₁ (List.mem_cons_of_mem _ hm₁))
      refine ⟨gathered [' '] (m :: enumeratedTail (m' :: ms)), ?_, ?_⟩
      · rcases htagged : m.tagged with _ | _
        · obtain ⟨found, hfound, hgathered⟩ := hms ([' '] ++ m.text)
          rw [gathered_untagged htagged, hgathered]
          simp [hfound]
        · rw [gathered_tagged htagged]
          simp
      · rw [enumeratedTail_cons, gathered_untagged rfl]
        exact gathered_comma pending [' '] _

/-- An entry with members behind it is read as two members at least, however its loose
    phrases come apart. -/
theorem two_le_length_gathered {m : Member} (hm : m.tagged = true) {ms : List Member}
    (hne : ms ≠ []) (h : ∀ m ∈ ms, m.Trimmed) :
    2 ≤ (gathered [] (enumerated (m :: ms))).length := by
  match ms with
  | [] => exact absurd rfl hne
  | [m'] =>
    have hlast := List.length_pos_iff.2 (gathered_and_ne_nil (h m' List.mem_cons_self))
    rw [enumerated, gathered_tagged hm, gathered_untagged rfl, List.nil_append, loose_text]
    simp only [List.length_append, List.length_cons]
    omega
  | m' :: m'' :: ms =>
    obtain ⟨found, hfound, hgathered⟩ :=
      exists_gathered_enumeratedTail (by simp : m' :: m'' :: ms ≠ []) h []
    have hlast := List.length_pos_iff.2 hfound
    rw [enumerated_cons, gathered_tagged hm, hgathered]
    simp only [List.length_append, List.length_cons]
    omega

end Member

namespace ListChange

theorem two_le_length_gathered_inserted (s : ListSite) (phrase : Text) {members : List Member}
    (hne : members ≠ []) (h : ∀ m ∈ members, m.Trimmed) :
    2 ≤ (Member.gathered [] (Member.enumerated (inserted s phrase members))).length := by
  rw [inserted]
  split
  · refine Member.two_le_length_gathered rfl ?_ (of_mem_mapFirst h fun m hm =>
      (h m hm).recased (Prose.recased_decapitalize m.text))
    intro hnil
    rw [← List.length_eq_zero_iff, length_mapFirst, List.length_eq_zero_iff] at hnil
    exact hne hnil
  · exact Member.two_le_length_gathered rfl hne h

/-- The copula next to a list agrees with it. -/
def Agrees (s : ListSite) : Prop :=
  ∃ w, adjacentCopula? s = some w ∧
    Prose.IsForm (Prose.copulaFor (isPlural (Member.ofNodes s.children))) w.word

instance (s : ListSite) : Decidable (Agrees s) :=
  decidable_of_iff ((adjacentCopula? s).any fun w =>
    decide (Prose.IsForm (Prose.copulaFor (isPlural (Member.ofNodes s.children))) w.word))
    (by rw [Option.any_eq_true]; simp [Agrees])

theorem agrees_iff {s : ListSite} :
    Agrees s ↔ ∃ word, (adjacentCopula? s).map (·.word) = some word ∧
      Prose.IsForm (Prose.copulaFor (isPlural (Member.ofNodes s.children))) word := by
  rw [Agrees]
  rcases adjacentCopula? s with _ | w <;> simp

theorem isPlural_of_two_le {members : List Member} (h : 2 ≤ members.length) :
    isPlural members = true := by
  simp [isPlural, h]

variable {template : Text} {list : Option Text} {s s' : ListSite} {item : Item}

/-- A list that keeps its copula goes on agreeing exactly if it is as plural as it was. -/
theorem agrees_iff_of_word_eq (h : Agrees s)
    (hword : (adjacentCopula? s').map (·.word) = (adjacentCopula? s).map (·.word)) :
    Agrees s' ↔ isPlural (Member.ofNodes s'.children) = isPlural (Member.ofNodes s.children) := by
  obtain ⟨word, hw, hform⟩ := agrees_iff.1 h
  rw [agrees_iff, hword, hw]
  constructor
  · rintro ⟨word', hw', hform'⟩
    obtain rfl := Option.some.inj hw'
    exact Prose.plural_eq_of_isForm hform' hform
  · intro hplural
    exact ⟨word, rfl, hplural ▸ hform⟩

/-- A copula that is written anew agrees with what it is written for. -/
theorem agrees_of_word_agree {plural : Bool} (h : Agrees s)
    (hword : (adjacentCopula? s').map (·.word) =
      ((adjacentCopula? s).map (·.word)).map (Prose.agree · plural))
    (hplural : isPlural (Member.ofNodes s'.children) = plural) : Agrees s' := by
  obtain ⟨word, hw, -⟩ := agrees_iff.1 h
  rw [hw, Option.map_some] at hword
  exact agrees_iff.2 ⟨_, hword, hplural ▸ Prose.isForm_agree word plural⟩

/-- Members that are written instead of others bring the copula along. -/
theorem agrees_of_written {members : List Member} (h : Agrees s)
    (hword : (adjacentCopula? s').map (·.word) =
      if members ≠ [] ∧ (decide (2 ≤ (Member.ofNodes s.children).length) ≠
          decide (2 ≤ members.length)) then
        ((adjacentCopula? s).map (·.word)).map (Prose.agree · (isPlural members))
      else (adjacentCopula? s).map (·.word))
    (hmembers : members ≠ [])
    (hplural : isPlural (Member.ofNodes s'.children) = isPlural members)
    (hsingle : (Member.ofNodes s.children).length < 2 → 2 ≤ members.length) : Agrees s' := by
  by_cases hcrosses : decide (2 ≤ (Member.ofNodes s.children).length) ≠ decide (2 ≤ members.length)
  · rw [if_pos ⟨hmembers, hcrosses⟩] at hword
    exact agrees_of_word_agree h hword hplural
  · rw [if_neg fun hc => hcrosses hc.2] at hword
    rw [agrees_iff_of_word_eq h hword, hplural]
    -- without crossing there were several members and still are
    have hboth : 2 ≤ (Member.ofNodes s.children).length ∧ 2 ≤ members.length := by
      rw [Decidable.not_not, decide_eq_decide] at hcrosses
      omega
    rw [isPlural_of_two_le hboth.1, isPlural_of_two_le hboth.2]

/-- Another number in an entry keeps the list as plural as it was exactly if it has
    several members or the entry stays as plural. -/
theorem isPlural_of_requantified {A B : List Member} {old new : Text} (span : Span) :
    isPlural (A.map Member.bare ++ ⟨new, true, none⟩ :: B.map Member.bare) =
        isPlural (A ++ ⟨old, true, some span⟩ :: B) ↔
      2 ≤ (A ++ ⟨old, true, some span⟩ :: B).length ∨
        Prose.isPluralPhrase new = Prose.isPluralPhrase old := by
  by_cases hlength : 2 ≤ (A ++ (⟨old, true, some span⟩ : Member) :: B).length
  · have hlength' : 2 ≤ (A.map Member.bare ++ ⟨new, true, none⟩ :: B.map Member.bare).length := by
      simpa using hlength
    simp only [isPlural_of_two_le hlength, isPlural_of_two_le hlength', hlength, true_or]
  · obtain ⟨rfl, rfl⟩ : A = [] ∧ B = [] := by
      simp only [List.length_append, List.length_cons] at hlength
      exact ⟨List.eq_nil_of_length_eq_zero (by omega), List.eq_nil_of_length_eq_zero (by omega)⟩
    simp [isPlural]

theorem agrees_of_inserted (h : Finds template list s) (hcond : s.isConditional = false)
    (hne : Member.ofNodes s.children ≠ []) (hagrees : Agrees s) {phrase : Text}
    (hphrase : '<' ∉ phrase) :
    ∃ template' s', withMembers template s (inserted s phrase (Member.ofNodes s.children))
        (Member.ofNodes s.children).length = .changed template' ∧
      Finds template' list s' ∧ SamePlace template template' s s' ∧ Agrees s' := by
  obtain ⟨template', s', hresult, hfinds, hplace, -, hmembers, hword⟩ :=
    h.withMembers (plainRow_inserted h hcond hphrase) (Member.ofNodes s.children).length
  have hlength := length_inserted s phrase (Member.ofNodes s.children)
  have hpos := List.length_pos_iff.2 hne
  have hread : 2 ≤ (Member.ofNodes s'.children).length := by
    rw [← List.length_map Member.bare, hmembers]
    exact two_le_length_gathered_inserted s phrase hne Member.trimmed_of_mem_ofNodes
  refine ⟨template', s', hresult, hfinds, hplace, agrees_of_written hagrees hword ?_ ?_ ?_⟩
  · exact List.ne_nil_of_length_pos (by omega)
  · rw [isPlural_of_two_le hread, isPlural_of_two_le (by omega)]
  · exact fun _ => by omega

theorem agrees_of_deleted (h : Finds template list s) (hcond : s.isConditional = false)
    (hagrees : Agrees s) (hq : item.quantity = .count 0) {e : ListSite.Entry}
    (he : s.findEntry? item = some e) {index : Nat}
    (hindex : (Member.ofNodes s.children).findIdx? (fun m => m.source == some e.place.span) =
      some index)
    (hleaves : ¬Leaves Member.FormsTag template item list)
    (hphrases : ∀ m ∈ Member.ofNodes s.children, m.Phrased) :
    ∃ template' s', withMembers template s (deleted s index (Member.ofNodes s.children))
        (Member.ofNodes s.children).length = .changed template' ∧
      Finds template' list s' ∧ SamePlace template template' s s' ∧
      (Member.ofNodes s'.children ≠ [] → Agrees s') := by
  obtain ⟨template', s', hresult, hfinds, hplace, -, hmembers, hword⟩ :=
    h.withMembers (plainRow_deleted h hcond hq he hindex hleaves)
      (Member.ofNodes s.children).length
  rw [Member.gathered_enumerated (of_mem_deleted s index hphrases fun m hm =>
    (hphrases m hm).capitalize)] at hmembers
  refine ⟨template', s', hresult, hfinds, hplace, ?_⟩
  intro hleft
  have hne : deleted s index (Member.ofNodes s.children) ≠ [] := by
    intro hnil
    rw [hnil, List.map_nil, List.map_eq_nil_iff] at hmembers
    exact hleft hmembers
  apply agrees_of_written hagrees hword hne
  · rw [← isPlural_map_bare, hmembers, isPlural_map_bare]
  · intro hsingle
    -- nothing is left of a single member
    exfalso
    obtain ⟨A, B, hbelow, hindex'⟩ := h.exists_findIdx? hcond he
    obtain rfl : index = A.length := Option.some.inj (hindex.symm.trans hindex')
    have hpos := List.length_pos_iff.2 hne
    rw [hbelow, length_deleted_middle] at hpos
    rw [hbelow, List.length_append, List.length_cons] at hsingle
    omega

theorem agrees_of_requantified (h : Finds template list s) (hcond : s.isConditional = false)
    (hagrees : Agrees s) {e : ListSite.Entry} (he : s.findEntry? item = some e) {count : Nat}
    (hphrase : '<' ∉ Prose.quantityPhrase item count) :
    ∃ template' s', withQuantity template e item count = .changed template' ∧
      Finds template' list s' ∧ SamePlace template template' s s' ∧
      (Agrees s' ↔ 2 ≤ (Member.ofNodes s.children).length ∨
        Prose.isPluralPhrase (Prose.requantify e.text item count) =
          Prose.isPluralPhrase e.text) := by
  obtain ⟨template', s', A, B, hresult, hfinds, hplace, hcond', hbelow, -, hbelow', hword⟩ :=
    h.withQuantity he hphrase
  refine ⟨template', s', hresult, hfinds, hplace, ?_⟩
  rw [agrees_iff_of_word_eq hagrees hword, ← isPlural_map_bare, h.ofNodes_children hcond,
    hfinds.ofNodes_children (hcond'.trans hcond), hbelow', hbelow]
  exact isPlural_of_requantified e.place.span

/-- **A copula that agrees with a list goes on agreeing with it** when a member enters, and
    when one leaves and others are left that are read as they are written.  Another number
    in an entry keeps the agreement exactly if the list has several members or the entry is
    as plural as it was. -/
theorem agrees_of_changed {template' : Text} (h : Finds template list s)
    (hcond : s.isConditional = false) (hne : Member.ofNodes s.children ≠ []) (hagrees : Agrees s)
    (hphrase : ∀ count, 1 ≤ count → item.quantity = .count count →
      '<' ∉ Prose.quantityPhrase item count)
    (hleaves : ¬Leaves Member.FormsTag template item list)
    (hphrases : item.quantity = .count 0 →
      ∀ m ∈ Member.ofNodes s.children, m.tagged = false → Prose.IsPhrase m.text)
    (hchange : add template item list = .ok (.changed template') ∨
      remove template item list = .ok (.changed template')) :
    ∃ s', Finds template' list s' ∧ SamePlace template template' s s' ∧
      (Member.ofNodes s'.children ≠ [] →
        (item.quantity = .count 0 ∨ s.findEntry? item = none → Agrees s') ∧
        (∀ e count, s.findEntry? item = some e → item.quantity = .count count → 1 ≤ count →
          (Agrees s' ↔ 2 ≤ (Member.ofNodes s.children).length ∨
            Prose.isPluralPhrase (Prose.requantify e.text item count) =
              Prose.isPluralPhrase e.text))) := by
  rcases changed_cases h hchange with ⟨count, e, hq, hcount, he, hresult⟩ |
    ⟨count, hq, hcount, hnone, -, hresult⟩ | ⟨e, index, hq, he, -, hindex, hresult⟩
  · obtain ⟨_, s', hresult', hfinds, hplace, hiff⟩ :=
      agrees_of_requantified h hcond hagrees he (hphrase count hcount hq)
    cases hresult.symm.trans hresult'
    refine ⟨s', hfinds, hplace, fun _ => ⟨fun hor => ?_, fun e' count' he' hq' _ => ?_⟩⟩
    · rw [he, hq, Quantity.count.injEq] at hor
      rcases hor with hor | hor
      · omega
      · cases hor
    · cases he.symm.trans he'
      cases hq.symm.trans hq'
      exact hiff
  · obtain ⟨_, s', hresult', hfinds, hplace, hagrees'⟩ :=
      agrees_of_inserted h hcond hne hagrees (hphrase count hcount hq)
    cases hresult.symm.trans hresult'
    refine ⟨s', hfinds, hplace, fun _ => ⟨fun _ => hagrees', fun e' count' he' => ?_⟩⟩
    cases hnone.symm.trans he'
  · obtain ⟨_, s', hresult', hfinds, hplace, hagrees'⟩ :=
      agrees_of_deleted h hcond hagrees hq he hindex hleaves (hphrases hq)
    cases hresult.symm.trans hresult'
    refine ⟨s', hfinds, hplace, fun hleft => ⟨fun _ => hagrees' hleft, fun e' count' _ hq' => ?_⟩⟩
    cases hq.symm.trans hq'
    intro hcount
    exact absurd hcount (by decide)

/-- A sentence with a list of two. -/
def petsSentence : Text := "<s>Here are <il>a cat <3 and <item>a DOG</item></il>.</s>".toList

/-- The sentence without the dog. -/
def catSentence : Text := "<s>Here is <il>a cat <3</il>.</s>".toList

/-- The dog leaves, and the cat is left alone. -/
theorem agrees_of_changed_pets :
    ∃ s, Finds petsSentence none s ∧ s.isConditional = false ∧
      Member.ofNodes s.children ≠ [] ∧ Agrees s ∧
      ¬Leaves Member.FormsTag petsSentence ⟨"DOG".toList, .count 0, "a DOG".toList, none⟩ none ∧
      (∀ m ∈ Member.ofNodes s.children, m.tagged = false → Prose.IsPhrase m.text) ∧
      remove petsSentence ⟨"DOG".toList, .count 0, "a DOG".toList, none⟩ none =
        .ok (.changed catSentence) ∧
      ∃ s', Finds catSentence none s' ∧ Member.ofNodes s'.children ≠ [] ∧ Agrees s' := by
  obtain ⟨s, hs, hcond, hne, hagrees, hphrases, e, he, hindex, hdeleted, hedits⟩ := exists_finds
    petsSentence none (fun s => s.isConditional = false ∧ Member.ofNodes s.children ≠ [] ∧
      Agrees s ∧
      (∀ m ∈ Member.ofNodes s.children, m.tagged = false → Prose.IsPhrase m.text) ∧
      ∃ e ∈ s.findEntry? ⟨"DOG".toList, .count 0, "a DOG".toList, none⟩,
        (Member.ofNodes s.children).findIdx? (fun m => m.source == some e.place.span) = some 1 ∧
        deleted s 1 (Member.ofNodes s.children) = [Member.loose "a cat <3".toList] ∧
        memberEdits petsSentence s (deleted s 1 (Member.ofNodes s.children))
          (Member.ofNodes s.children).length =
            [⟨⟨16, 47⟩, "a cat <3".toList⟩, ⟨⟨8, 11⟩, "is".toList⟩]) (by decide +kernel)
  have hremove : remove petsSentence ⟨"DOG".toList, .count 0, "a DOG".toList, none⟩ none =
      .ok (.changed catSentence) := by
    rw [remove_of_finds hs rfl he, if_neg (Nat.lt_irrefl 0), hcond]
    simp only [hindex, withMembers, hedits, Bool.false_eq_true, if_false]
    rw [Edit.applyAll, Edit.mergeSort_pair]
    rfl
  have hleaves : ¬Leaves Member.FormsTag petsSentence
      ⟨"DOG".toList, .count 0, "a DOG".toList, none⟩ none := by
    rw [leaves_iff hs rfl he hindex, hdeleted]
    exact id
  obtain ⟨s', hfinds, -, hagrees'⟩ := agrees_of_changed hs hcond hne hagrees
    (fun count hcount hq => by cases hq; exact absurd hcount (by decide)) hleaves
    (fun _ => hphrases) (.inr hremove)
  obtain ⟨s'', hfinds', hleft⟩ := exists_finds catSentence none
    (fun s => Member.ofNodes s.children ≠ []) (by decide +kernel)
  obtain rfl := finds_unique hfinds hfinds'
  exact ⟨s, hs, hcond, hne, hagrees, hleaves, hphrases, hremove, s', hfinds, hleft,
    (hagrees' hleft).1 (.inl rfl)⟩

/-- A pencil becomes three, and what is next to the list is still `is`. -/
theorem not_agrees_of_pencils :
    ∃ s template' s', Finds "<s>Here is <il><item>a PENCIL</item></il>.</s>".toList none s ∧
      s.isConditional = false ∧ Member.ofNodes s.children ≠ [] ∧ Agrees s ∧
      add "<s>Here is <il><item>a PENCIL</item></il>.</s>".toList
        ⟨"PENCIL".toList, .count 3, "a PENCIL".toList, some "PENCILS".toList⟩ none =
          .ok (.changed template') ∧
      Finds template' none s' ∧ Member.ofNodes s'.children ≠ [] ∧ ¬Agrees s' := by
  obtain ⟨s, hs, hcond, hne, hagrees⟩ := exists_finds
    "<s>Here is <il><item>a PENCIL</item></il>.</s>".toList none
    (fun s => s.isConditional = false ∧ Member.ofNodes s.children ≠ [] ∧ Agrees s)
    (by decide +kernel)
  obtain ⟨s', hs', hne', hagrees'⟩ := exists_finds
    "<s>Here is <il><item>3 PENCILS</item></il>.</s>".toList none
    (fun s => Member.ofNodes s.children ≠ [] ∧ ¬Agrees s) (by decide +kernel)
  exact ⟨s, _, s', hs, hcond, hne, hagrees, eq_ok_of_toOption (by decide +kernel), hs', hne',
    hagrees'⟩

end ListChange

end Scenery
