/-
  Scenery/Proofs/ItemList/Total.lean
  ==================================
  **The last total wins.**  Adding more than one of a thing leaves an entry that starts
  with the number, whether the entry was there before or is new (`exists_counter`).  The
  next addition finds that entry and changes its number and nothing else
  (`add_counter`).  So of two additions only the second can be seen, and an addition that
  is made twice is made once (`add_add`).
-/
import Scenery.Proofs.ItemList.Agreement
import Scenery.Proofs.ItemList.Mentioned
import Scenery.Proofs.ItemList.Restored
import Scenery.Proofs.Prose.Mention

namespace Scenery

open Branch

/-- An entry of a list that starts with a number. -/
structure Counter where
  list : Branch
  place : Setting
  opening : Text
  attributes : List Attribute
  closing : Text
  lead : Text
  tail : Text

namespace Counter

def entry (k : Counter) (n : Nat) : Branch :=
  .block k.opening k.attributes .entry k.closing (ofText (Prose.numbered k.lead n k.tail))

/-- The list with a number in the entry. -/
def branch (k : Counter) (n : Nat) : Branch := k.list.withContent (k.place.fill (k.entry n))

/-- The entry counts a thing: it is the first that mentions it, whatever the number. -/
structure Counts (k : Counter) (x : Thing) : Prop where
  isList : k.list.IsList
  lead : ∀ c ∈ k.lead, Text.isBlank c
  tail : Prose.IsTail k.tail
  unmentioned : k.place.Unmentioned (x.times 0)
  mentions : ∀ n, Prose.mentionsItem (x.times 0) (Prose.numbered k.lead n k.tail) = true

end Counter

namespace ListChange

variable {list : Option Text} {template : Text} {s : ListSite} {w : Setting} {b : Branch}
  {k : Counter} {x : Thing} {n m : Nat}

/-- **The entry that counts a thing gets the new number.** -/
theorem add_counter (h : Found list w (k.branch n)) (hk : k.Counts x) (hm : 1 < m) :
    add (sourceAll (w.fill (k.branch n))) (x.times m) list =
      .ok (.changed (sourceAll (w.fill (k.branch m)))) := by
  have hcontent : (k.branch n).content = k.place.fill (k.entry n) := content_withContent hk.isList _
  have hmentions : Prose.mentionsItem (x.times m) (sourceAll (k.entry n).content) = true := by
    show Prose.mentionsItem (x.times m) (sourceAll (ofText _)) = true
    rw [sourceAll_ofText]
    exact hk.mentions n
  have hentry : ListSite.findEntry? (w.site (k.branch n)) (x.times m) = some _ :=
    h.findEntry?_of_content hcontent rfl hk.unmentioned hmentions
  have hedit := withQuantity_entryAt h hcontent (x.times m) m
  rw [sourceAll_ofText, Prose.requantify_numbered hk.lead hk.tail _ n hm, Counter.branch,
    withContent_withContent] at hedit
  rw [add_of_finds h.finds rfl, if_neg (by omega), hentry]
  exact congrArg Except.ok hedit

/-- A new entry makes the copula agree in the same way, whatever its words. -/
theorem agreeing_inserted (w : Setting) (s : ListSite) (members : List Member)
    (phrase phrase' : Text) :
    agreeing w (inserted s phrase members) members.length =
      agreeing w (inserted s phrase' members) members.length := by
  have hne (t : Text) : inserted s t members ≠ [] := by
    rw [inserted_eq]
    exact List.cons_ne_nil _ _
  by_cases htwo : 2 ≤ members.length + 1
  · have hplural (t : Text) : isPlural (inserted s t members) = true := by
      apply isPlural_of_two_le
      rw [length_inserted]
      exact htwo
    simp only [agreeing, length_inserted, hplural, ne_eq, hne, not_false_eq_true]
  · -- with one member the list does not cross
    have hsame : decide (2 ≤ members.length) = decide (2 ≤ members.length + 1) := by
      rw [decide_eq_decide]
      omega
    rw [agreeing, agreeing, length_inserted, length_inserted, hsame, if_neg (by simp),
      if_neg (by simp)]

/-- A thing that is new in a list is counted by the first entry. -/
theorem exists_counter_of_new (h : Found list w b) (hx : x.Named)
    (hnone : ListSite.findEntry? (w.site b) (x.times 0) = none)
    (hcond : (w.site b).isConditional = false) :
    ∃ w' k, Counter.Counts k x ∧ ∀ m, 1 < m → Found list w' (k.branch m) ∧
      add (sourceAll (w.fill b)) (x.times m) list =
        .ok (.changed (sourceAll (w'.fill (k.branch m)))) := by
  generalize hmembers : Member.ofNodes (w.site b).children = members
  have hplain := plain_of_mem_ofNodes h.finds hcond
  rw [hmembers] at hplain
  obtain ⟨rest, hrest⟩ := Member.exists_enumerated_cons (behindNew (w.site b) members)
  have hwritten {m : Nat} (hm : 1 < m) :
      written (w.site b) (Prose.quantityPhrase (x.times m) m) =
        Prose.numbered [] m (' ' :: (x.times 0).pluralOrName) := by
    rw [written, Prose.quantityPhrase_eq_numbered _ hm, Prose.numbered, List.nil_append,
      Prose.capitalize_numeral, ite_self]
    rfl
  refine ⟨agreeing w (inserted (w.site b) [] members) members.length,
    ⟨b, ⟨[], [], weave [] rest⟩, "<item>".toList, [], "</item>".toList, [],
      ' ' :: (x.times 0).pluralOrName⟩, ?_, ?_⟩
  · constructor
    · exact h.isList
    · simp
    · exact Prose.isTail_cons (by decide) _
    · intro m hm
      simp [Setting.membersBefore] at hm
    · intro n
      have hfresh : Prose.mentionsItem (x.times 0)
          (Prose.numbered [] n (' ' :: ((x.times 0).pluralOrName ++ []))) = true :=
        Prose.mentionsItem_fresh hx (by simp) (by simp) 0 n
      rwa [List.append_nil] at hfresh
  · intro m hm
    have hbranch : Counter.branch ⟨b, ⟨[], [], weave [] rest⟩, "<item>".toList, [],
        "</item>".toList, [], ' ' :: (x.times 0).pluralOrName⟩ m =
        b.withContent (weave [] (Member.enumerated (inserted (w.site b)
          (Prose.quantityPhrase (x.times m) m) members))) := by
      rw [inserted_eq, hrest, weave, if_pos rfl, hwritten hm]
      rfl
    have hlt : '<' ∉ written (w.site b) (Prose.quantityPhrase (x.times m) m) := by
      rw [hwritten hm, ← Prose.quantityPhrase_eq_numbered (x.times 0) hm]
      exact Prose.lt_not_mem_phrase hx 0 hm
    have hrow := plainRow_written (w.site b) hlt hplain
    rw [hbranch, agreeing_inserted w (w.site b) members [] (Prose.quantityPhrase (x.times m) m)]
    refine ⟨found_agreeing h members.length hrow, ?_⟩
    rw [add_of_finds h.finds rfl, if_neg (by omega),
      show ListSite.findEntry? (w.site b) (x.times m) = none from hnone]
    simp only [hcond, Bool.false_eq_true, if_false, hmembers]
    rw [withMembers_fill h]

/-- A thing that is mentioned in a list is counted by the entry that mentions it. -/
theorem exists_counter_of_mentioned (h : Found list w b) (hx : x.Named) {e : ListSite.Entry}
    (he : ListSite.findEntry? (w.site b) (x.times 0) = some e) :
    ∃ k, Counter.Counts k x ∧ ∀ m, 1 < m → Found list w (k.branch m) ∧
      add (sourceAll (w.fill b)) (x.times m) list =
        .ok (.changed (sourceAll (w.fill (k.branch m)))) := by
  obtain ⟨v, opening, attributes, closing, bs, hcontent, rfl, hbefore, hmentions⟩ :=
    h.exists_of_findEntry? he
  obtain ⟨lead, tail, hlead, htail, hrequantify, hkept⟩ := Prose.exists_numbered hx (sourceAll bs)
  obtain ⟨hnested, hspelled⟩ := content_of_stands h.isList h.stands
  rw [hcontent] at hnested hspelled
  obtain ⟨hsound, hstands⟩ := (Setting.sound_and_stands (o := .entry) rfl).1 ⟨hspelled, hnested⟩
  refine ⟨⟨b, v, opening, attributes, closing, lead, tail⟩, ?_, ?_⟩
  · exact ⟨h.isList, hlead, htail, hbefore, fun n => hkept 0 n hmentions⟩
  · intro m hm
    have hplain : Plain (Prose.numbered lead m tail) ['<'] := by
      rw [← hrequantify m m hm]
      exact Prose.plain_requantify (plain_of_stands hstands) (Prose.lt_not_mem_phrase hx m hm)
    obtain ⟨hspelled', hnested'⟩ := (Setting.sound_and_stands (o := .entry) rfl).2
      ⟨hsound, stands_ofText hplain hstands⟩
    refine ⟨h.withContent (.refl w) h.sound hnested' hspelled', ?_⟩
    rw [add_of_finds h.finds rfl, if_neg (by omega),
      show ListSite.findEntry? (w.site b) (x.times m) = _ from he]
    apply congrArg Except.ok
    have hedit := withQuantity_entryAt h hcontent (x.times m) m
    rw [hrequantify m m hm] at hedit
    exact hedit

/-- After an addition of more than one there is an entry that counts. -/
theorem exists_counter (hx : x.Named) {template' : Text} (hn : 1 < n)
    (hadd : add template (x.times n) list = .ok (.changed template')) :
    ∃ w k, Counter.Counts k x ∧ ∀ m, 1 < m → Found list w (k.branch m) ∧
      add template (x.times m) list = .ok (.changed (sourceAll (w.fill (k.branch m)))) := by
  obtain ⟨s, hs⟩ := exists_finds_of_changed (.inl hadd)
  obtain ⟨w, b, hfound, rfl, rfl⟩ := Found.exists_of_finds hs
  rcases changed_cases hs (.inl hadd) with ⟨-, e, -, -, he, -⟩ | ⟨-, -, -, hnone, hcond, -⟩ |
    ⟨-, -, hq, -⟩
  · obtain ⟨k, hk, hcounts⟩ := exists_counter_of_mentioned hfound hx he
    exact ⟨w, k, hk, hcounts⟩
  · exact exists_counter_of_new hfound hx hnone hcond
  · have hzero : n = 0 := Quantity.count.inj hq
    omega

/-- **The last total wins.**  An addition of more than one that follows another one changes
    the template, and to what it would have been without the other; so an addition that is
    made again changes nothing, and lists nothing twice. -/
theorem add_add (hx : x.Named) {template' : Text} (hn : 2 ≤ n) (hm : 2 ≤ m)
    (hadd : add template (x.times n) list = .ok (.changed template')) :
    (∃ template'', add template' (x.times m) list = .ok (.changed template'') ∧
      add template (x.times m) list = .ok (.changed template'')) ∧
    add template' (x.times n) list = .ok (.changed template') := by
  obtain ⟨w, k, hk, hcounts⟩ := exists_counter hx hn hadd
  obtain ⟨hfound, hfirst⟩ := hcounts n hn
  obtain ⟨-, hsecond⟩ := hcounts m hm
  cases hadd.symm.trans hfirst
  constructor
  · exact ⟨_, add_counter hfound hk hm, hsecond⟩
  · exact add_counter hfound hk hn

/-- Some pencils and a lamp. -/
def deskSentence : Text :=
  "<s><il><item>some Pencils</item> and <item>a LAMP</item></il> are on the desk.</s>".toList

def pencil : Thing := ⟨"PENCIL".toList, "a PENCIL".toList, some "PENCILS".toList⟩

/-- The entry is put into numbers by the first addition and found again by the second. -/
theorem add_add_of_pencils :
    pencil.Named ∧ ∃ template',
      add deskSentence (pencil.times 3) none = .ok (.changed template') ∧
      template' = ("<s><il><item>3 PENCILS</item> and <item>a LAMP</item></il> " ++
        "are on the desk.</s>").toList ∧
      (∃ template'', add template' (pencil.times 12) none = .ok (.changed template'') ∧
        add deskSentence (pencil.times 12) none = .ok (.changed template'')) ∧
      add template' (pencil.times 3) none = .ok (.changed template') := by
  have hnamed : pencil.Named := by decide
  have hadd : add deskSentence (pencil.times 3) none = .ok (.changed
      ("<s><il><item>3 PENCILS</item> and <item>a LAMP</item></il> " ++
        "are on the desk.</s>").toList) := eq_ok_of_toOption (by decide +kernel)
  exact ⟨hnamed, _, hadd, rfl, add_add hnamed (by decide) (by decide) hadd⟩

end ListChange

end Scenery
