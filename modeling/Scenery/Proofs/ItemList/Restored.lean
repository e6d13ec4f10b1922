/-
  Scenery/Proofs/ItemList/Restored.lean
  =====================================
  **Taking a member out again.**  A list that is written as an enumeration of its own
  members is read the same with one more entry in front (`gathered_inserted`), so
  removing that entry writes the old members again, and the copula next to them is what
  it was (`agreeing_agreeing`).

  There is one list of which this does not hold.  Of two connecting words in a row the
  first is a member if they stand before an entry, but not any more once there is a
  comma between them (`Member.StandingAnd`).
-/
import Scenery.Proofs.ItemList.Wellformed

namespace Scenery

namespace Member

/-- A connecting word that has been read as a member, in front of the only entry. -/
def StandingAnd : List Member → Prop
  | [m, m'] => m.tagged = false ∧ m.text = Prose.andWord ∧ m'.tagged = true
  | _ => False

theorem exists_of_standingAnd {ms : List Member} (h : StandingAnd ms) :
    ∃ m m', ms = [m, m'] := by
  match ms with
  | [m, m'] => exact ⟨m, m', rfl⟩

theorem not_standingAnd_of_isPhrase {m : Member} {ms : List Member}
    (h : m.tagged = false → Prose.IsPhrase m.text) : ¬StandingAnd (m :: ms) := by
  match ms with
  | [] => exact id
  | [m'] =>
    rintro ⟨htagged, hword, -⟩
    have hphrase := h htagged
    rw [hword] at hphrase
    exact absurd hphrase (by decide +kernel)
  | m' :: m'' :: ms => exact id

theorem joined_map_bare (ms : List Member) : joined (ms.map bare) = joined ms := by
  rw [joined, joined, List.map_map]
  rfl

theorem formsTag_map_bare (ms : List Member) : FormsTag (ms.map bare) ↔ FormsTag ms := by
  match ms with
  | [] | [_] | [_, _] | _ :: _ :: _ :: _ => exact Iff.rfl

theorem map_text_ofText (raw : Text) : (ofText raw).map text = Prose.split raw := by
  rw [ofText, List.map_map]
  exact List.map_id _

/-! ### Reading behind another member -/

theorem gathered_cons_blank {c : Char} (hc : Text.isBlank c) (pending : Text)
    (ms : List Member) : gathered (c :: pending) ms = gathered pending ms := by
  induction ms generalizing pending with
  | nil => rw [gathered_nil, gathered_nil, ofText, ofText, Prose.split_cons_blank hc]
  | cons m ms ih =>
    rcases htagged : m.tagged with _ | _
    · rw [gathered_untagged htagged, gathered_untagged htagged]
      exact ih _
    · rw [gathered_tagged htagged, gathered_tagged htagged, ofText, ofText,
        Prose.split_cons_blank hc]

theorem gathered_comma_and (pending : Text) (m : Member) :
    gathered pending (enumeratedTail [m]) = ofText pending ++ gathered " and ".toList [m] := by
  rw [enumeratedTail, gathered_untagged rfl]
  exact gathered_comma pending " and ".toList [m]

theorem gathered_comma_blank (pending : Text) (m m' : Member) (ms : List Member) :
    gathered pending (enumeratedTail (m :: m' :: ms)) =
      ofText pending ++ gathered [] (m :: enumeratedTail (m' :: ms)) := by
  rw [enumeratedTail_cons, gathered_untagged rfl, ← gathered_cons_blank (c := ' ') (by decide) []]
  exact gathered_comma pending [' '] _

/-- The text before a comma is read by itself. -/
theorem gathered_before_tail {ms : List Member} (hne : ms ≠ []) (pending : Text) :
    gathered pending (enumeratedTail ms) = ofText pending ++ gathered [] (enumeratedTail ms) := by
  match ms with
  | [] => exact absurd rfl hne
  | [m] => rw [gathered_comma_and, gathered_comma_and, ofText_nil, List.nil_append]
  | m :: m' :: ms =>
    rw [gathered_comma_blank, gathered_comma_blank, ofText_nil, List.nil_append]

/-- Whatever entry or phrase comes first, the members behind it are read as behind a
    comma. -/
theorem gathered_first {m : Member} {ms : List Member}
    (hm : m.tagged = false → Prose.IsPhrase m.text) (h : ∀ m ∈ ms, m.Trimmed) :
    gathered [] (enumerated (m :: ms)) = m.bare :: gathered [] (enumeratedTail ms) := by
  match ms with
  | [] =>
    have hnil : gathered [] (enumeratedTail []) = [] := ofText_nil
    rw [hnil]
    exact gathered_lead isLead_nil hm gathered_nil_append
  | [m'] =>
    rw [gathered_comma_and, ofText_nil, List.nil_append, enumerated]
    rcases htagged : m.tagged with _ | _
    · rw [gathered_untagged htagged, gathered_untagged rfl, List.nil_append, loose_text,
        bare_of_not_tagged htagged]
      rcases htagged' : m'.tagged with _ | _
      · obtain ⟨-, hcomma, hstart⟩ := h m' List.mem_cons_self htagged'
        rw [gathered_untagged htagged', gathered_untagged htagged', gathered_nil, gathered_nil]
        exact ofText_append_and (hm htagged) hstart hcomma
      · have hsplit := ofText_append_and (hm htagged) (q := []) (by simp) (by simp)
        rw [List.append_nil, List.append_nil, isLead_and.1] at hsplit
        rw [gathered_tagged htagged', gathered_tagged htagged', hsplit, isLead_and.1]
        rfl
    · rw [gathered_tagged htagged, gathered_untagged rfl, ofText_nil]
      rfl
  | m' :: m'' :: ms =>
    rw [enumerated_cons]
    exact gathered_lead isLead_nil hm (gathered_before_tail (by simp))

/-- Of two members that are read as they are written, the first is an entry or a phrase,
    but for a standing `and`. -/
theorem isPhrase_of_gathered_pair {m m' : Member} (hm' : m'.Trimmed)
    (h : gathered [] (enumerated [m, m']) = [m.bare, m'.bare]) (hand : ¬StandingAnd [m, m'])
    (htagged : m.tagged = false) : Prose.IsPhrase m.text := by
  rw [enumerated, gathered_untagged htagged, gathered_untagged rfl, List.nil_append,
    loose_text] at h
  rcases htagged' : m'.tagged with _ | _
  · obtain ⟨-, hcomma, -⟩ := hm' htagged'
    rw [gathered_untagged htagged', gathered_nil] at h
    have hsplit := congrArg (List.map text) h
    rw [map_text_ofText] at hsplit
    rcases Prose.isPhrase_of_split_and hcomma hsplit with hphrase | hword
    · exact hphrase
    · rw [hword, List.map_cons, List.map_cons, bare_text, hword] at hsplit
      exact absurd hsplit (Prose.split_andWord_and_ne hcomma)
  · rw [gathered_tagged htagged', gathered_nil, ofText_nil] at h
    have htext : ofText (m.text ++ " and ".toList) = [m.bare] := List.append_cancel_right h
    have hsplit := congrArg (List.map text) htext
    rw [map_text_ofText, ← List.append_nil (m.text ++ _)] at hsplit
    rcases Prose.isPhrase_of_split_and (by simp) hsplit with hphrase | hword
    · exact hphrase
    · exact absurd ⟨htagged, hword, htagged'⟩ hand

/-- A standing `and` is lost behind another entry: there is a comma on either side of it. -/
theorem gathered_standingAnd {new : Member} (hnew : new.tagged = true) {m m' : Member}
    (hand : StandingAnd [m, m']) :
    gathered [] (enumerated [new, m, m']) = [new.bare, m'.bare] := by
  obtain ⟨htagged, hword, htagged'⟩ := hand
  have hnone : ofText Prose.andWord = [] := by
    rw [ofText, (Prose.split_eq_nil_iff _).2 (by decide)]
    rfl
  rw [enumerated_cons, gathered_tagged hnew, gathered_comma_blank, gathered_untagged htagged,
    gathered_comma_and, gathered_tagged htagged', List.nil_append, hword, hnone, isLead_and.1,
    gathered_nil, ofText_nil]
  rfl

/-- **An entry in front leaves the other members as they are**, if they were read as they
    are written: the first of them stands between commas now, where it stood before one or
    before a connecting word. -/
theorem gathered_behind_entry {new : Member} (hnew : new.tagged = true) {ms : List Member}
    (ht : ∀ m ∈ ms, m.Trimmed) (h : gathered [] (enumerated ms) = ms.map bare)
    (hand : ¬StandingAnd ms) :
    gathered [] (enumerated (new :: ms)) = new.bare :: ms.map bare := by
  match ms with
  | [] => exact gathered_lead isLead_nil (by simp [hnew]) gathered_nil_append
  | [m] =>
    have hphrase (htagged : m.tagged = false) : Prose.IsPhrase m.text := by
      rw [enumerated, gathered_untagged htagged, gathered_nil] at h
      have hsplit := congrArg (List.map text) h
      rw [map_text_ofText] at hsplit
      exact hsplit
    rw [gathered_first (by simp [hnew]) ht, gathered_comma_and, ofText_nil, List.nil_append,
      gathered_lead isLead_and hphrase gathered_nil_append]
    rfl
  | m :: m' :: ms =>
    have hfirst : gathered [] (m :: enumeratedTail (m' :: ms)) = (m :: m' :: ms).map bare := by
      rw [← h]
      cases ms with
      | nil =>
        have hphrase := isPhrase_of_gathered_pair (ht m' (by simp)) h hand
        rw [gathered_first hphrase fun m hm => ht m (List.mem_cons_of_mem _ hm)]
        exact gathered_lead isLead_nil hphrase (gathered_before_tail (by simp))
      | cons m'' ms =>
        rw [enumerated_cons]
    rw [gathered_first (by simp [hnew]) ht, gathered_comma_blank, ofText_nil, List.nil_append,
      hfirst]

end Member

namespace Branch

/-! ### Lists that are written as they are read -/

variable {around : List Tag} {bs : List Branch} {m : Member} {ms : List Member}

/-- Where no text comes first, the first member is an entry. -/
theorem tagged_of_tagFirst (hlist : .list ∈ around) (h : NestedAll around bs)
    (hcond : bs.any isConditional = false) (hfirst : Lexeme.TagFirst (lexemesAll bs))
    (hmembers : membersAll bs = m :: ms) : m.tagged = true := by
  cases bs with
  | nil =>
    rw [membersAll_nil] at hmembers
    cases hmembers
  | cons b bs =>
    obtain ⟨hb, -⟩ := nestedAll_cons.1 h
    rw [List.any_cons, Bool.or_eq_false_iff] at hcond
    rw [membersAll_cons] at hmembers
    cases b with
    | text raw =>
      rw [lexemesAll_cons, lexemes] at hfirst
      exact absurd hfirst (Lexeme.not_tagFirst_text _ _)
    | var s attributes sc path =>
      rw [Nested] at hb
      exact absurd (hb.1.1 .list hlist) (by simp [Tag.forbids])
    | single s attributes o | block s attributes o c content =>
      rw [Nested] at hb
      rcases opened_of_fitsIn_list hlist hb.1 with rfl | ⟨condition, rfl⟩
      · rw [members] at hmembers
        cases hmembers
        rfl
      · cases hcond.1

/-- A loose first member stands in the text that the list starts with. -/
theorem exists_text_first (hlist : .list ∈ around) (h : NestedAll around bs)
    (hspelled : Lexeme.Spelled ['<'] (lexemesAll bs)) (hcond : bs.any isConditional = false)
    (hmembers : membersAll bs = m :: ms) (htagged : m.tagged = false) :
    ∃ raw rest, bs = .text raw :: rest ∧ m.text ∈ Prose.split raw := by
  have hnot : ¬Lexeme.TagFirst (lexemesAll bs) := by
    intro hfirst
    rw [tagged_of_tagFirst hlist h hcond hfirst hmembers] at htagged
    cases htagged
  cases bs with
  | nil => exact absurd Lexeme.tagFirst_nil hnot
  | cons b bs =>
    cases b with
    | text raw =>
      refine ⟨raw, bs, rfl, ?_⟩
      rw [membersAll_cons, members_text] at hmembers
      rw [lexemesAll_cons, lexemes, List.singleton_append] at hspelled
      rcases hraw : Member.ofText raw with _ | ⟨m', ms'⟩
      · -- then the text has no phrase, and an entry would come first
        rw [hraw, List.nil_append] at hmembers
        rw [List.any_cons, Bool.or_eq_false_iff] at hcond
        have htag := tagged_of_tagFirst hlist (nestedAll_cons.1 h).2 hcond.2 hspelled.2.1 hmembers
        rw [htag] at htagged
        cases htagged
      · rw [hraw] at hmembers
        cases hmembers
        rw [← Member.map_text_ofText, hraw]
        exact List.mem_cons_self
    | var | single | block =>
      rw [lexemesAll_cons, lexemes] at hnot
      exact absurd (Lexeme.tagFirst_tag _ _ _) hnot

/-- The `and` behind the first of two members makes no tag with it, if that is how the list
    is written. -/
theorem not_formsTag_membersAll (hlist : .list ∈ around) (h : NestedAll around bs)
    (hspelled : Lexeme.Spelled ['<'] (lexemesAll bs)) (hcond : bs.any isConditional = false)
    (hsource : sourceAll bs = Member.joined (membersAll bs)) :
    ¬Member.FormsTag (membersAll bs) := by
  intro hforms
  match hmembers : membersAll bs with
  | [] | [_] | _ :: _ :: _ :: _ =>
    rw [hmembers] at hforms
    cases hforms
  | [m, m'] =>
    rw [hmembers] at hforms hsource
    obtain ⟨htagged, u, closes, name, tag, htext, hname⟩ := hforms
    obtain ⟨raw, rest, rfl, hmem⟩ := exists_text_first hlist h hspelled hcond hmembers htagged
    obtain ⟨-, -, hinfix, -⟩ := Prose.of_mem_split hmem
    rw [lexemesAll_cons, lexemes, List.singleton_append] at hspelled
    obtain ⟨-, hfirst, hplain, hrest⟩ := hspelled
    have hblank (y : Text) : sourceAll rest ≠ ' ' :: y := by
      intro hy
      rcases hl : lexemesAll rest with _ | ⟨l, ls⟩
      · rw [sourceAll, hl] at hy
        cases hy
      · rw [hl] at hfirst hrest
        obtain ⟨x, hx⟩ := Lexeme.exists_sources_of_tagFirst hrest hfirst
        rw [sourceAll, hl, hx] at hy
        cases hy
    have hjoined : raw ++ sourceAll rest = m.text ++ ' ' :: ("and ".toList ++ m'.markup) := by
      have hmarkup : m.markup = m.text := by rw [Member.markup, if_neg (by simp [htagged])]
      rw [sourceAll_cons, source_text, Member.joined, List.map_cons, List.map_cons, List.map_nil,
        hmarkup, Prose.join, List.append_assoc] at hsource
      exact hsource
    -- the text goes on behind the name of the tag, and then the name is one
    obtain ⟨v, rfl⟩ : ∃ v, raw = m.text ++ ' ' :: v := by
      rcases List.append_eq_append_iff.1 hjoined with ⟨v, hv, hv'⟩ | ⟨v, hv, hv'⟩
      · have hlength := hinfix.length_le
        rw [hv, List.length_append] at hlength
        have hnil : v = [] := List.length_eq_zero_iff.1 (by omega)
        rw [hnil] at hv'
        exact absurd hv' (hblank _)
      · cases v with
        | nil => exact absurd hv'.symm (hblank _)
        | cons c v =>
          obtain ⟨rfl, -⟩ := List.cons.inj hv'
          exact ⟨v, hv⟩
    have hnone := hplain u (TagText.slash closes ++ name ++ ' ' :: v) (by simp [htext])
    rw [List.append_assoc, List.cons_append, readTag_eq_none_iff,
      TagText.readName?_name hname closes rfl] at hnone
    cases hnone

end Branch

namespace ListChange

open Branch

variable {list : Option Text} {w : Setting} {b : Branch} {s : ListSite} {members : List Member}

/-! ### The new list -/

/-- A list that is written as an enumeration of its members is read as one. -/
theorem gathered_of_source (h : Found list w b) (hcond : (w.site b).isConditional = false)
    (hsource : sourceAll b.content = Member.joined (Member.ofNodes (w.site b).children)) :
    Member.gathered [] (Member.enumerated (Member.ofNodes (w.site b).children)) =
      (Member.ofNodes (w.site b).children).map Member.bare := by
  have hbare := h.map_bare_below
  have hplain := h.plain_of_mem_below
  rw [h.ofNodes_children hcond] at hsource ⊢
  generalize Member.below (w.site b).children = members at hsource hbare hplain
  by_cases hne : b.content = []
  · rw [hne, membersAll_nil, List.map_eq_nil_iff] at hbare
    rw [hbare]
    exact Member.ofText_nil
  · obtain ⟨hnested, hspelled⟩ := content_of_stands h.isList h.stands
    have hforms : ¬Member.FormsTag members := by
      rw [← Member.formsTag_map_bare, hbare]
      apply not_formsTag_membersAll List.mem_cons_self hnested hspelled
      · rw [← h.isConditional_site, hcond]
      · rw [← hbare, Member.joined_map_bare, hsource]
    have hfound := h.withContent (.refl w) h.sound
      (nestedAll_weave (fitsIn_item (ListSite.fitsIn_of_isList h.isList h.stands.nested)) [] _)
      (spelled_weave (plain_nil _) (Member.plainRow_enumerated hplain hforms))
    -- the characters are the same, so the list that is read is the same
    obtain ⟨closing, hb, hb'⟩ := exists_closingSource h.isList hne
    have hsame : sourceAll (w.fill (b.withContent (weave [] (Member.enumerated members)))) =
        sourceAll (w.fill b) := by
      rw [w.sourceAll_fill, w.sourceAll_fill, hb, hb', sourceAll_weave,
        Member.flatMap_markup_enumerated, ← hsource, List.nil_append]
    have hfinds := hfound.finds
    rw [hsame] at hfinds
    have hmembers := hfound.map_bare_below
    rw [finds_unique hfinds h.finds, h.map_bare_below, content_withContent h.isList,
      membersAll_weave] at hmembers
    rw [← hmembers, hbare]

/-- A first member that loses its capital to a new one can get it back. -/
def LendsCapital (m : Member) : Prop :=
  Prose.capitalize (Prose.decapitalize m.text) = m.text ∧
    (m.tagged = false → Prose.IsPhrase (Prose.decapitalize m.text))

instance (m : Member) : Decidable (LendsCapital m) := inferInstanceAs (Decidable (_ ∧ _))

theorem LendsCapital.isPhrase {m : Member} (h : LendsCapital m) (htagged : m.tagged = false) :
    Prose.IsPhrase m.text := by
  rw [← h.1]
  exact Prose.isPhrase_capitalize (h.2 htagged)

/-- A list with a new entry in front is read as it is written. -/
theorem gathered_inserted (s : ListSite) (phrase : Text) (ht : ∀ m ∈ members, m.Trimmed)
    (h : Member.gathered [] (Member.enumerated members) = members.map Member.bare)
    (hfirst : s.opensSentence = true → ∀ m ∈ members.head?, LendsCapital m)
    (hand : ¬Member.StandingAnd members) :
    Member.gathered [] (Member.enumerated (inserted s phrase members)) =
      (inserted s phrase members).map Member.bare := by
  rw [inserted]
  split
  · next hopens =>
    cases members with
    | nil => exact Member.gathered_behind_entry rfl ht h hand
    | cons m ms =>
      have hlends := hfirst hopens m rfl
      have hms : ∀ m' ∈ ms, m'.Trimmed := fun m' hm' => ht m' (List.mem_cons_of_mem _ hm')
      rw [Member.gathered_first hlends.isPhrase hms] at h
      rw [mapFirst]
      apply Member.gathered_behind_entry rfl
      · intro m' hm'
        rcases List.mem_cons.1 hm' with rfl | hm'
        · exact (ht m List.mem_cons_self).recased (Prose.recased_decapitalize m.text)
        · exact hms m' hm'
      · rw [Member.gathered_first hlends.2 hms, (List.cons.inj h).2]
        rfl
      · exact Member.not_standingAnd_of_isPhrase hlends.2
  · exact Member.gathered_behind_entry rfl ht h hand

/-! ### The copula -/

/-- The copula of one member, and `are` while there is another. -/
def LendsCopula (word : Text) (members : List Member) : Prop :=
  ∀ m, members = [m] → Prose.agree (Prose.agree word true) (Prose.isPluralPhrase m.text) = word

theorem lendsCopula_map_bare (word : Text) (ms : List Member) :
    LendsCopula word (ms.map Member.bare) ↔ LendsCopula word ms := by
  constructor
  · rintro h m rfl
    exact h m.bare rfl
  · intro h m hm
    obtain ⟨m', rfl, rfl⟩ := List.map_eq_singleton_iff.1 hm
    exact h m' rfl

/-- The copula next to a list is what it was after one member more and one less. -/
theorem agreeing_agreeing {new : List Member} (hnew : new.length = members.length + 1)
    (hcopula : ∀ word, w.copulaWord? = some word → LendsCopula word members) :
    agreeing (agreeing w new members.length) members new.length = w := by
  by_cases hone : members.length = 1
  · obtain ⟨m, rfl⟩ := List.length_eq_one_iff.1 hone
    have hne : new ≠ [] := by
      rintro rfl
      cases hnew
    have hplural : isPlural new = true := by simp [isPlural, hnew]
    have hsingle : isPlural [m] = Prose.isPluralPhrase m.text := by simp [isPlural]
    have hcrosses : new ≠ [] ∧ decide (2 ≤ [m].length) ≠ decide (2 ≤ new.length) := by
      simp [hnew, hne]
    have hback : [m] ≠ [] ∧ decide (2 ≤ new.length) ≠ decide (2 ≤ [m].length) := by
      simp [hnew]
    rcases hword : w.copulaWord? with _ | word
    · have hw : agreeing w new [m].length = w := by rw [agreeing, if_pos hcrosses, hword]
      rw [hw, agreeing, if_pos hback, hword]
    · obtain ⟨hfound, hold⟩ := Setting.reworded_found (Prose.agree_mem word true) hword
      have hw : agreeing w new [m].length = w.reworded (Prose.agree word true) := by
        rw [agreeing, if_pos hcrosses, hword, hplural]
      rw [hw, agreeing, if_pos hback, hfound, hsingle]
      show (w.reworded _).reworded _ = w
      rw [hcopula word hword m rfl, hold]
  · -- neither way the list crosses between one member and several
    have hsame : decide (2 ≤ members.length) = decide (2 ≤ new.length) := by
      rw [decide_eq_decide, hnew]
      omega
    rw [agreeing, agreeing, hsame, if_neg (by simp), if_neg (by simp)]

/-! ### Taking the new entry out -/

/-- The item that the first entry mentions leaves, and the other members stay. -/
theorem remove_first {template : Text} {item : Item} (h : Finds template list s)
    (hcond : s.isConditional = false) {phrase : Text} {place : Place} {ns : List Node}
    (hchildren : s.children = .entry phrase place :: ns)
    (hmentions : Prose.mentionsItem item phrase = true) (hq : item.quantity = .count 0) :
    remove template item list = .ok (withMembers template s
      (if s.opensSentence then mapFirst Prose.capitalize (Member.ofNodes ns)
        else Member.ofNodes ns) ((Member.ofNodes ns).length + 1)) := by
  have hentry : s.findEntry? item = some ⟨phrase, place⟩ := by
    rw [ListSite.findEntry?, ListSite.entries, hchildren, Node.descendantsOfAll, Node.descendants,
      List.singleton_append, List.filterMap_cons_some
        (show ListSite.entryOf? (.entry phrase place) = some ⟨phrase, place⟩ from rfl)]
    exact List.find?_cons_of_pos hmentions
  have hmembers : Member.ofNodes s.children =
      ⟨phrase, true, some place.span⟩ :: Member.ofNodes ns := by
    rw [hchildren]
    rfl
  have hindex : (Member.ofNodes s.children).findIdx? (fun m => m.source == some place.span) =
      some 0 := by
    rw [hmembers, List.findIdx?_cons, if_pos (by simp)]
  rw [remove_of_finds h hq hentry, if_neg (Nat.lt_irrefl 0), hcond]
  simp only [hindex, Bool.false_eq_true, if_false]
  rw [hmembers]
  have hdeleted := deleted_middle s [] (Member.ofNodes ns) ⟨phrase, true, some place.span⟩
  simp only [List.length_nil, List.nil_append, and_true] at hdeleted
  rw [hdeleted]
  rfl

section Inserted

variable {new : Member} {ms : List Member} {item : Item}

theorem withContent_withContent (b : Branch) (content content' : List Branch) :
    (b.withContent content).withContent content' = b.withContent content' := by
  cases b <;> rfl

/-- The entry that has been written in front comes first when the list is read. -/
theorem exists_children_cons (h : Found list w b)
    (hcontent : b.content = weave [] (Member.enumerated (new :: ms))) (hnew : new.tagged = true) :
    (w.site b).isConditional = false ∧
    ∃ place ns, (w.site b).children = .entry new.text place :: ns ∧
      Member.gathered [] (Member.enumerated (new :: ms)) =
        new.bare :: (Member.ofNodes ns).map Member.bare := by
  have hcond : (w.site b).isConditional = false := by
    rw [h.isConditional_site, hcontent, any_isConditional_weave]
  refine ⟨hcond, ?_⟩
  obtain ⟨rest, hrest⟩ := Member.exists_enumerated_cons ms
  have hweave : weave [] (Member.enumerated (new :: ms)) = entry new.text :: weave [] rest := by
    rw [hrest, weave, if_pos hnew]
    rfl
  obtain ⟨place, hplace⟩ := exists_node_entry new.text (w.offset + Text.bytes b.openingSource)
  have hchildren := h.children
  rw [hcontent, hweave, nodes_cons, hplace] at hchildren
  refine ⟨place, _, hchildren, ?_⟩
  have hbare : new.bare = Member.bare ⟨new.text, true, some place.span⟩ := by
    rw [Member.bare, Member.bare, hnew]
  rw [← membersAll_weave, ← hcontent, ← h.map_bare_below, ← h.ofNodes_children hcond, hchildren,
    hbare]
  rfl

/-- What it comes to to take that entry out: the capital goes back to the member behind it. -/
theorem exists_remove_new (h : Found list w b)
    (hcontent : b.content = weave [] (Member.enumerated (new :: ms))) (hnew : new.tagged = true)
    (hmentions : Prose.mentionsItem item new.text = true) (hq : item.quantity = .count 0) :
    ∃ left, Member.gathered [] (Member.enumerated (new :: ms)) =
        new.bare :: left.map Member.bare ∧
      remove (sourceAll (w.fill b)) item list =
        .ok (withMembers (sourceAll (w.fill b)) (w.site b)
          (if (w.site b).opensSentence then mapFirst Prose.capitalize left else left)
          (left.length + 1)) := by
  obtain ⟨hcond, place, ns, hchildren, hread⟩ := exists_children_cons h hcontent hnew
  exact ⟨Member.ofNodes ns, hread, remove_first h.finds hcond hchildren hmentions hq⟩

end Inserted

/-! ### There and back -/

section Restored

variable {phrase : Text} {item : Item}

/-- The phrase of an item as it is written in front of a list. -/
def written (s : ListSite) (phrase : Text) : Text :=
  if s.opensSentence then Prose.capitalize phrase else phrase

/-- The members behind a new one. -/
def behindNew (s : ListSite) (members : List Member) : List Member :=
  if s.opensSentence then mapFirst Prose.decapitalize members else members

theorem inserted_eq (s : ListSite) (phrase : Text) (members : List Member) :
    inserted s phrase members = ⟨written s phrase, true, none⟩ :: behindNew s members := by
  rw [inserted, written, behindNew]
  split
  · rfl
  · rfl

theorem mapFirst_behindNew (s : ListSite)
    (hfirst : s.opensSentence = true → ∀ m ∈ members.head?, LendsCapital m) :
    (if s.opensSentence then mapFirst Prose.capitalize (behindNew s members)
      else behindNew s members) = members := by
  rw [behindNew]
  split
  · next hopens =>
    cases members with
    | nil => rfl
    | cons m ms =>
      rw [mapFirst, mapFirst, (hfirst hopens m rfl).1]
  · rfl

theorem map_bare_recapitalized (s : ListSite) {left : List Member}
    (hfirst : s.opensSentence = true → ∀ m ∈ members.head?, LendsCapital m)
    (hleft : left.map Member.bare = (behindNew s members).map Member.bare) :
    (if s.opensSentence then mapFirst Prose.capitalize left else left).map Member.bare =
      members.map Member.bare := by
  have hback := congrArg (List.map Member.bare) (mapFirst_behindNew s hfirst)
  split
  · next hopens =>
    rw [if_pos hopens, map_bare_mapFirst] at hback
    rw [map_bare_mapFirst, hleft, hback]
  · next hopens =>
    rw [if_neg hopens] at hback
    rw [hleft, hback]

theorem plainRow_written (s : ListSite) (hphrase : '<' ∉ written s phrase)
    (h : ∀ m ∈ members, Plain m.text ['<']) :
    Member.PlainRow (Member.enumerated (inserted s phrase members)) := by
  rw [inserted_eq]
  apply Member.plainRow_enumerated
  · intro m hm
    rcases List.mem_cons.1 hm with rfl | hm
    · exact plain_of_not_mem hphrase _
    · rw [behindNew] at hm
      split at hm
      · refine of_mem_mapFirst h ?_ m hm
        intro m hm
        exact (Prose.recased_decapitalize m.text).plain (h m hm)
      · exact h m hm
  · exact Member.not_formsTag_cons_tagged rfl _

/-- The old members are written again, and the copula next to them. -/
theorem withMembers_restored (h : Found list w b)
    (hsource : ∀ content, sourceAll content = sourceAll b.content →
      (b.withContent content).source = b.source)
    {old new restored : List Member} (hold : sourceAll b.content = Member.joined old)
    (hnew : new.length = old.length + 1)
    (hrestored : restored.map Member.bare = old.map Member.bare)
    (hrow : Member.PlainRow (Member.enumerated new))
    (hcopula : ∀ word, w.copulaWord? = some word → LendsCopula word old) :
    withMembers
        (sourceAll ((agreeing w new old.length).fill
          (b.withContent (weave [] (Member.enumerated new)))))
        ((agreeing w new old.length).site (b.withContent (weave [] (Member.enumerated new))))
        restored new.length = .changed (sourceAll (w.fill b)) := by
  have hlength : restored.length = old.length := by
    simpa using congrArg List.length hrestored
  have hlends (word : Text) (hword : w.copulaWord? = some word) : LendsCopula word restored := by
    rw [← lendsCopula_map_bare, hrestored, lendsCopula_map_bare]
    exact hcopula word hword
  have hcontent : sourceAll (weave [] (Member.enumerated restored)) = sourceAll b.content := by
    rw [sourceAll_weave, Member.flatMap_markup_enumerated, ← Member.joined_map_bare, hrestored,
      Member.joined_map_bare, hold, List.nil_append]
  rw [withMembers_fill (found_agreeing h old.length hrow), ← hlength,
    agreeing_agreeing (hnew.trans (by rw [hlength])) hlends, withContent_withContent,
    w.sourceAll_fill, w.sourceAll_fill, hsource _ hcontent]

/-- A list with two tags keeps them, and what stands between them is its content. -/
theorem source_of_not_single (h : Found list w b)
    (hblock : ['/', '>'].isSuffixOf ((w.site b).place.span.slice (sourceAll (w.fill b))) = false) :
    (w.site b).place.inner.slice (sourceAll (w.fill b)) = sourceAll b.content ∧
    ∀ content, sourceAll content = sourceAll b.content →
      (b.withContent content).source = b.source := by
  obtain ⟨name, ho, -⟩ := exists_of_isList h.isList
  rw [w.slice_site] at hblock
  have hstands := h.stands
  cases b with
  | var | text => cases ho
  | single opening attributes o =>
    rw [source_single, isSuffixOf_single hstands] at hblock
    cases hblock
  | block opening attributes o closing bs =>
    obtain rfl : o = .element (.list name) := by simpa [opened?] using ho
    constructor
    · have hslice := Span.slice_behind (w.textBefore ++ opening) (sourceAll bs)
        (closing ++ w.textAfter)
      rw [w.inner_site, w.sourceAll_fill, source_block, content]
      simpa using hslice
    · intro content hcontent
      rw [withContent, source_block, source_block, hcontent]
      rfl

/-- One member is not written where there were two. -/
theorem withMembers_ne_of_single {template template' : Text} {s' : ListSite}
    (h : Finds template list s) (htwo : 2 ≤ (Member.ofNodes s.children).length)
    (h' : Finds template' list s') {m : Member} (hm : m.tagged = true) (hplain : Plain m.text ['<'])
    (before : Nat) : withMembers template' s' [m] before ≠ .changed template := by
  intro hchange
  have hrow : Member.PlainRow (Member.enumerated [m]) := Member.plainRow_singleton hplain
  obtain ⟨template'', s'', hresult, hfinds, -, -, hmembers, -⟩ := h'.withMembers hrow before
  cases hresult.symm.trans hchange
  obtain rfl := finds_unique h hfinds
  rw [Member.enumerated, Member.gathered_tagged hm, Member.gathered_nil, Member.ofText_nil]
    at hmembers
  have hone := congrArg List.length hmembers
  simp only [List.length_map, List.nil_append, List.length_cons, List.length_nil] at hone
  omega

/-- **Taking out what has just been put in restores the template**, byte for byte, unless a
    standing `and` has been read as a member.  The list is written as the enumeration of
    its members; at the start of a sentence its first member can get its capital back,
    and so can the copula next to a single member its form. -/
theorem remove_add_iff {template template' : Text} (h : Finds template list s)
    (hblock : ['/', '>'].isSuffixOf (s.place.span.slice template) = false)
    (hinner : s.place.inner.slice template = Member.joined (Member.ofNodes s.children))
    {count : Nat} (hq : item.quantity = .count count) (hnone : s.findEntry? item = none)
    (hlt : '<' ∉ written s (Prose.quantityPhrase item count))
    (hmentions : Prose.mentionsItem item (written s (Prose.quantityPhrase item count)) = true)
    (hfirst : s.opensSentence = true →
      ∀ m ∈ (Member.ofNodes s.children).head?, LendsCapital m)
    (hcopula : ∀ c, adjacentCopula? s = some c →
      LendsCopula c.word (Member.ofNodes s.children))
    (hadd : add template item list = .ok (.changed template')) :
    remove template' { item with quantity := .count 0 } list = .ok (.changed template) ↔
      ¬Member.StandingAnd (Member.ofNodes s.children) := by
  rcases changed_cases h (.inl hadd) with ⟨-, e, -, -, he, -⟩ |
    ⟨count', hq', -, -, hcond, hresult⟩ | ⟨e, -, -, he, -⟩
  · cases hnone.symm.trans he
  · cases hq.symm.trans hq'
    obtain ⟨w, b, hfound, rfl, rfl⟩ := Found.exists_of_finds h
    obtain ⟨hslice, hsource⟩ := source_of_not_single hfound hblock
    rw [hslice] at hinner
    have hread := gathered_of_source hfound hcond hinner
    have htrimmed : ∀ m ∈ Member.ofNodes (w.site b).children, m.Trimmed :=
      Member.trimmed_of_mem_ofNodes
    have hplain := plain_of_mem_ofNodes h hcond
    have hrow := plainRow_written (w.site b) hlt hplain
    rw [withMembers_fill hfound, changed.injEq] at hresult
    subst hresult
    generalize hmembers : Member.ofNodes (w.site b).children = members at *
    generalize Prose.quantityPhrase item count = phrase at *
    -- the list as it is after the new entry has been written
    have hfound' := found_agreeing hfound members.length hrow
    have hopens := (hfound.samePlace (alike_agreeing w _ _) hfound').opensSentence
    have hcontent : (b.withContent (weave [] (Member.enumerated
        (inserted (w.site b) phrase members)))).content = weave [] (Member.enumerated
          (⟨written (w.site b) phrase, true, none⟩ :: behindNew (w.site b) members)) := by
      rw [content_withContent hfound.isList, inserted_eq]
    obtain ⟨left, hleft, hremove⟩ := exists_remove_new hfound' hcontent rfl
      (show Prose.mentionsItem { item with quantity := .count 0 } _ = true from hmentions) rfl
    rw [hremove, hopens]
    constructor
    · intro hback hstanding
      obtain ⟨m, m', rfl⟩ := Member.exists_of_standingAnd hstanding
      have hsmall : (w.site b).opensSentence = false := by
        rw [← Bool.not_eq_true]
        intro htrue
        exact Member.not_standingAnd_of_isPhrase (hfirst htrue m rfl).isPhrase hstanding
      rw [behindNew, hsmall, if_neg (by simp), Member.gathered_standingAnd rfl hstanding] at hleft
      obtain ⟨x, rfl, hx⟩ := List.map_eq_singleton_iff.1 (List.cons.inj hleft).2.symm
      have hxtagged : x.tagged = true := by
        rw [← Member.bare_tagged, hx]
        exact hstanding.2.2
      have hxplain : Plain x.text ['<'] := by
        rw [← Member.bare_text, hx]
        exact hplain m' (by simp)
      rw [hsmall, Except.ok.injEq] at hback
      exact withMembers_ne_of_single h (by rw [hmembers]; exact Nat.le_refl 2) hfound'.finds
        hxtagged hxplain _ hback
    · intro hand
      have hread' := gathered_inserted (w.site b) phrase htrimmed hread hfirst hand
      rw [inserted_eq, hleft, List.map_cons] at hread'
      have hrestored := map_bare_recapitalized (w.site b) hfirst (List.cons.inj hread').2
      have hlength : left.length + 1 = (inserted (w.site b) phrase members).length := by
        have hlength := congrArg List.length hread'
        rw [inserted_eq]
        simpa using hlength
      rw [hlength]
      apply congrArg Except.ok
      apply withMembers_restored hfound hsource hinner (length_inserted _ _ _) hrestored hrow
      intro word hword
      rw [← Setting.word_adjacentCopula?_site w b, Option.map_eq_some_iff] at hword
      obtain ⟨c, hc, rfl⟩ := hword
      exact hcopula c hc
  · cases hnone.symm.trans he

end Restored

/-- A dog that nobody has mentioned yet. -/
def strayDog : Item := ⟨"DOG".toList, .count 1, "a DOG".toList, none⟩

/-- A dog joins a cat and leaves again: the cat gets its capital back and the copula its
    form. -/
theorem remove_add_strayDog :
    ∃ template', add "<s><il>A cat</il> is here.</s>".toList strayDog none =
        .ok (.changed template') ∧
      remove template' { strayDog with quantity := .count 0 } none =
        .ok (.changed "<s><il>A cat</il> is here.</s>".toList) := by
  obtain ⟨s, hs, hblock, hinner, hnone, hcond, hmembers, hopens, hcopula⟩ := exists_finds
    "<s><il>A cat</il> is here.</s>".toList none
    (fun s =>
      ['/', '>'].isSuffixOf (s.place.span.slice "<s><il>A cat</il> is here.</s>".toList) = false ∧
      s.place.inner.slice "<s><il>A cat</il> is here.</s>".toList =
        Member.joined (Member.ofNodes s.children) ∧
      s.findEntry? strayDog = none ∧ s.isConditional = false ∧
      Member.ofNodes s.children = [Member.loose "A cat".toList] ∧ s.opensSentence = true ∧
      (adjacentCopula? s).map (·.word) = some "is".toList) (by decide +kernel)
  have hadd : ∃ template', add "<s><il>A cat</il> is here.</s>".toList strayDog none =
      .ok (.changed template') := by
    rw [add_of_finds hs rfl, hnone, hcond]
    exact ⟨_, rfl⟩
  obtain ⟨template', hadd⟩ := hadd
  have hwritten : written s (Prose.quantityPhrase strayDog 1) = "A DOG".toList := by
    rw [written, hopens]
    decide +kernel
  refine ⟨template', hadd, ?_⟩
  apply (remove_add_iff hs hblock hinner rfl hnone _ _ _ _ hadd).2
  · rw [hmembers]
    exact id
  · rw [hwritten]
    decide
  · rw [hwritten]
    decide +kernel
  · intro _ m hm
    rw [hmembers] at hm
    cases hm
    decide +kernel
  · intro c hc m hm
    rw [hc, Option.map_some, Option.some.injEq] at hcopula
    rw [hmembers] at hm
    cases hm
    rw [hcopula]
    decide +kernel

/-- A list with a connecting word too many. -/
def standingAnd : Text := "<s>I see <il>and and <item>a CAT</item></il>.</s>".toList

/-- A standing `and` is lost with the dog that came and went. -/
theorem remove_add_ne_of_and :
    ∃ s template' template'', Finds standingAnd none s ∧
      ['/', '>'].isSuffixOf (s.place.span.slice standingAnd) = false ∧
      s.place.inner.slice standingAnd = Member.joined (Member.ofNodes s.children) ∧
      s.findEntry? strayDog = none ∧ '<' ∉ written s (Prose.quantityPhrase strayDog 1) ∧
      Prose.mentionsItem strayDog (written s (Prose.quantityPhrase strayDog 1)) = true ∧
      s.opensSentence = false ∧ adjacentCopula? s = none ∧
      add standingAnd strayDog none =
        .ok (.changed template') ∧
      remove template' { strayDog with quantity := .count 0 } none = .ok (.changed template'') ∧
      template'' ≠ standingAnd := by
  obtain ⟨s, hs, h⟩ := exists_finds standingAnd none
    (fun s => ['/', '>'].isSuffixOf (s.place.span.slice standingAnd) = false ∧
      s.place.inner.slice standingAnd = Member.joined (Member.ofNodes s.children) ∧
      s.findEntry? strayDog = none ∧ '<' ∉ written s (Prose.quantityPhrase strayDog 1) ∧
      Prose.mentionsItem strayDog (written s (Prose.quantityPhrase strayDog 1)) = true ∧
      s.opensSentence = false ∧ adjacentCopula? s = none) (by decide +kernel)
  obtain ⟨hblock, hinner, hnone, hlt, hmentions, hopens, hcopula⟩ := h
  exact ⟨s, "<s>I see <il><item>a DOG</item>, and, and <item>a CAT</item></il>.</s>".toList,
    "<s>I see <il><item>a CAT</item></il>.</s>".toList, hs, hblock, hinner, hnone, hlt, hmentions,
    hopens, hcopula, eq_ok_of_toOption (by decide +kernel), eq_ok_of_toOption (by decide +kernel),
    by decide⟩

end ListChange

end Scenery
