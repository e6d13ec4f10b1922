/-
  Scenery/Proofs/ItemList/Plan.lean
  =================================
  **What a change does to a list.**  A change finds out what to do from the item, the
  list itself, and whether the list opens its sentence.  Where the list stands and what
  else is in the template does not matter (`exists_settles`).

  What it does is a plan: it leaves the list alone, gives it other content, or writes
  members into it, and then the copula next to the list follows.
-/
import Scenery.Proofs.ItemList.Members
import Scenery.Proofs.ItemList.Mentioned

namespace Scenery

open Branch

namespace ListChange

/-- What can be done with an item. -/
inductive Verb where
  | add
  | remove
  deriving DecidableEq, Repr

/-- The change of a list. -/
def Verb.change : Verb → Text → Item → Option Text → Except MarkupError ListChange
  | .add => ListChange.add
  | .remove => ListChange.remove

/-- Why a change leaves the template alone, if it does. -/
def reason? : ListChange → Option Reason
  | changed _ => none
  | unchanged reason => some reason

/-! ### Members and the start of a sentence -/

theorem inserted_congr {s s' : ListSite} (h : s'.opensSentence = s.opensSentence) :
    inserted s' = inserted s := by
  funext phrase members
  rw [inserted, inserted, h]

theorem deleted_congr {s s' : ListSite} (h : s'.opensSentence = s.opensSentence) :
    deleted s' = deleted s := by
  funext index members
  simp only [deleted, h]

end ListChange

/-! ### Plans -/

/-- What a change does to a list: nothing, other content, or other members instead of some
    number of them. -/
inductive Plan where
  | unchanged (reason : ListChange.Reason)
  | requantified (content : List Branch)
  | rewritten (members : List Member) (before : Nat)

namespace Plan

/-- The list after the change. -/
def branch (b : Branch) : Plan → Branch
  | unchanged _ => b
  | requantified content => b.withContent content
  | rewritten members _ => b.withContent (weave [] (Member.enumerated members))

/-- What is around the list after the change. -/
def setting (w : Setting) : Plan → Setting
  | unchanged _ => w
  | requantified _ => w
  | rewritten members before => ListChange.agreeing w members before

def result (w : Setting) (b : Branch) : Plan → ListChange
  | unchanged reason => .unchanged reason
  | requantified content => .changed (sourceAll (w.fill (b.withContent content)))
  | rewritten members before =>
    .changed (sourceAll ((ListChange.agreeing w members before).fill
      (b.withContent (weave [] (Member.enumerated members)))))

def reason? : Plan → Option ListChange.Reason
  | unchanged reason => some reason
  | requantified _ => none
  | rewritten _ _ => none

theorem templateOr_result (p : Plan) (w : Setting) (b : Branch) :
    (p.result w b).templateOr (sourceAll (w.fill b)) =
      sourceAll ((p.setting w).fill (p.branch b)) := by
  cases p with
  | unchanged | requantified | rewritten => rfl

theorem reason?_result (p : Plan) (w : Setting) (b : Branch) :
    (p.result w b).reason? = p.reason? := by
  cases p with
  | unchanged | requantified | rewritten => rfl

theorem alike_setting (p : Plan) (w : Setting) : Setting.Alike w (p.setting w) := by
  cases p with
  | unchanged | requantified => exact .refl w
  | rewritten members before => exact ListChange.alike_agreeing w members before

theorem opened?_branch (p : Plan) (b : Branch) : (p.branch b).opened? = b.opened? := by
  cases p with
  | unchanged => rfl
  | requantified | rewritten => exact opened?_withContent _

/-- A plan is what the change comes to, and the list is found again after it, wherever the
    list stands in that way in its sentence. -/
def Settles (p : Plan) (verb : ListChange.Verb) (item : Item) (b : Branch) (opens : Bool) : Prop :=
  ∀ {list : Option Text} {w : Setting}, Found list w b → w.opens = opens →
    verb.change (sourceAll (w.fill b)) item list = .ok (p.result w b) ∧
      Found list (p.setting w) (p.branch b)

end Plan

namespace Found

open ListChange

variable {list list' : Option Text} {w w' : Setting} {b : Branch} {item : Item} {count : Nat}

theorem isConditional_eq (h : Found list w b) (h' : Found list' w' b) :
    (w'.site b).isConditional = (w.site b).isConditional := by
  rw [h'.isConditional_site, h.isConditional_site]

/-- The members of a list are the same wherever the list stands. -/
theorem map_bare_ofNodes (h : Found list w b) (h' : Found list' w' b)
    (hcond : (w.site b).isConditional = false) :
    (Member.ofNodes (w'.site b).children).map Member.bare =
      (Member.ofNodes (w.site b).children).map Member.bare := by
  have hcond' : (w'.site b).isConditional = false := (h.isConditional_eq h').trans hcond
  rw [h.ofNodes_children hcond, h'.ofNodes_children hcond', h.map_bare_below, h'.map_bare_below]

/-- The entry that mentions an item can be given another number wherever the list stands. -/
theorem exists_requantified (h : Found list w b) {e : ListSite.Entry}
    (he : ListSite.findEntry? (w.site b) item = some e)
    (hphrase : '<' ∉ Prose.quantityPhrase item count) :
    ∃ content, ∀ {list' : Option Text} {w' : Setting}, Found list' w' b →
      (∃ e', ListSite.findEntry? (w'.site b) item = some e' ∧
        withQuantity (sourceAll (w'.fill b)) e' item count =
          .changed (sourceAll (w'.fill (b.withContent content)))) ∧
      Found list' w' (b.withContent content) := by
  obtain ⟨v, opening, attributes, closing, bs, hcontent, -, hbefore, hmentions⟩ :=
    h.exists_of_findEntry? he
  obtain ⟨hnested, hspelled⟩ := content_of_stands h.isList h.stands
  rw [hcontent] at hnested hspelled
  refine ⟨v.fill (.block opening attributes .entry closing
    (ofText (Prose.requantify (sourceAll bs) item count))), ?_⟩
  intro list' w' h'
  obtain ⟨hnested, hspelled⟩ := content_of_stands h'.isList h'.stands
  rw [hcontent] at hnested hspelled
  obtain ⟨hsound, hstands⟩ := (Setting.sound_and_stands (o := .entry) rfl).1 ⟨hspelled, hnested⟩
  have hplain : Plain (Prose.requantify (sourceAll bs) item count) ['<'] :=
    Prose.plain_requantify (plain_of_stands hstands) hphrase
  obtain ⟨hspelled', hnested'⟩ := (Setting.sound_and_stands (o := .entry) rfl).2
    ⟨hsound, stands_ofText hplain hstands⟩
  constructor
  · exact ⟨_, h'.findEntry?_of_content hcontent rfl hbefore hmentions,
      withQuantity_entryAt h' hcontent item count⟩
  · exact h'.withContent (.refl w') h'.sound hnested' hspelled'

end Found

namespace Plan

open ListChange

variable {list : Option Text} {w : Setting} {b : Branch} {item : Item} {count : Nat}

/-- The phrases of a list whose texts have no `<` have none. -/
theorem lt_not_mem_of_mem_ofNodes {ns : List Node} (h : ∀ n ∈ ns, '<' ∉ n.rawText) {m : Member}
    (hm : m ∈ Member.ofNodes ns) (htagged : m.tagged = false) : '<' ∉ m.text := by
  obtain ⟨n, hn, hmember⟩ := List.mem_flatMap.1 hm
  cases n with
  | entry t p =>
    rw [Member.ofNode, List.mem_singleton] at hmember
    subst hmember
    cases htagged
  | text raw span =>
    obtain ⟨p, hp, rfl⟩ := List.mem_map.1 hmember
    obtain ⟨-, -, hpart, -⟩ := Prose.of_mem_split hp
    intro hlt
    exact h _ hn (hpart.subset hlt)
  | element | var => cases hmember

/-- The entry that mentions an item gets another number, whatever is done with the item. -/
theorem exists_settles_requantified (h : Found list w b) (hq : item.quantity = .count count)
    (hcount : 0 < count) {e : ListSite.Entry}
    (he : ListSite.findEntry? (w.site b) item = some e)
    (hphrase : '<' ∉ Prose.quantityPhrase item count) (verb : Verb) :
    ∃ p : Plan, p.Settles verb item b w.opens := by
  obtain ⟨content, hcontent⟩ := h.exists_requantified he hphrase
  refine ⟨.requantified content, ?_⟩
  intro list' w' h' _
  obtain ⟨⟨e', he', hedit⟩, hfound⟩ := hcontent h'
  refine ⟨?_, hfound⟩
  cases verb with
  | add =>
    show add _ _ _ = _
    rw [add_of_finds h'.finds hq, if_neg (Nat.ne_of_gt hcount), he']
    exact congrArg Except.ok hedit
  | remove =>
    show remove _ _ _ = _
    rw [remove_of_finds h'.finds hq he', if_pos hcount]
    exact congrArg Except.ok hedit

/-- An item that no entry mentions becomes the first member. -/
theorem settles_inserted (h : Found list w b) (hcond : (w.site b).isConditional = false)
    (hloose : ∀ n ∈ (w.site b).children, '<' ∉ n.rawText) (hq : item.quantity = .count count)
    (hcount : count ≠ 0) (hnone : ListSite.findEntry? (w.site b) item = none)
    (hphrase : '<' ∉ Prose.quantityPhrase item count) :
    (rewritten (inserted (w.site b) (Prose.quantityPhrase item count)
      (Member.ofNodes (w.site b).children)) (Member.ofNodes (w.site b).children).length).Settles
        .add item b w.opens := by
  have hw := writable_of_mem_inserted (w.site b) hphrase (writable_of_mem_ofNodes h.finds hcond
    fun m hm => lt_not_mem_of_mem_ofNodes hloose hm)
  intro list' w' h' hopens
  have hsite : (w'.site b).opensSentence = (w.site b).opensSentence := hopens
  have hmembers := h.map_bare_ofNodes h' hcond
  have hlength := congrArg List.length hmembers
  rw [List.length_map, List.length_map] at hlength
  constructor
  · show add _ _ _ = _
    rw [add_of_finds h'.finds hq, if_neg hcount, h.findEntry?_eq_none h' hnone,
      h.isConditional_eq h', hcond]
    simp only [Bool.false_eq_true, if_false]
    rw [withMembers_of_map_bare h', hlength]
    · rfl
    · rw [map_bare_inserted, map_bare_inserted, hmembers, inserted_congr hsite]
  · exact found_agreeing h' _ (Member.plainRow_of_writable hw)

/-- The member of the entry that mentions an item is taken out. -/
theorem exists_settles_deleted (h : Found list w b) (hcond : (w.site b).isConditional = false)
    (hloose : ∀ n ∈ (w.site b).children, '<' ∉ n.rawText) (hq : item.quantity = .count 0)
    {e : ListSite.Entry} (he : ListSite.findEntry? (w.site b) item = some e) :
    ∃ p : Plan, p.Settles .remove item b w.opens := by
  obtain ⟨v, opening, attributes, closing, bs, hcontent, -, hbefore, hmentions⟩ :=
    h.exists_of_findEntry? he
  have hw := writable_of_mem_deleted (w.site b) v.membersBefore.length
    (writable_of_mem_ofNodes h.finds hcond fun m hm => lt_not_mem_of_mem_ofNodes hloose hm)
  refine ⟨.rewritten (deleted (w.site b) v.membersBefore.length
    (Member.ofNodes (w.site b).children)) (Member.ofNodes (w.site b).children).length, ?_⟩
  intro list' w' h' hopens
  have hcond' : (w'.site b).isConditional = false := (h.isConditional_eq h').trans hcond
  have hsite : (w'.site b).opensSentence = (w.site b).opensSentence := hopens
  have hmembers := h.map_bare_ofNodes h' hcond
  have hlength := congrArg List.length hmembers
  rw [List.length_map, List.length_map] at hlength
  constructor
  · have hindex := h'.findIdx?_of_content hcond' hcontent rfl
    show remove _ _ _ = _
    rw [remove_of_finds h'.finds hq (h'.findEntry?_of_content hcontent rfl hbefore hmentions),
      if_neg (Nat.lt_irrefl 0), if_neg (by simp [hcond'])]
    simp only [hindex]
    rw [withMembers_of_map_bare h', hlength]
    · rfl
    · rw [map_bare_deleted, map_bare_deleted, hmembers, deleted_congr hsite]
  · exact found_agreeing h' _ (Member.plainRow_of_writable hw)

/-- **What a change does to a list is settled by the item, the list and its standing in the
    sentence.** -/
theorem exists_settles (h : Found list w b)
    (hloose : ∀ n ∈ (w.site b).children, '<' ∉ n.rawText) (hitem : item.Plain) (verb : Verb) :
    ∃ p : Plan, p.Settles verb item b w.opens := by
  rcases hq : item.quantity with count | _
  · have hphrase := Prose.lt_not_mem_quantityPhrase hitem count
    cases verb with
    | add =>
      by_cases hcount : count = 0
      · refine ⟨.unchanged .zeroQuantity, fun h' _ => ⟨?_, h'⟩⟩
        show add _ _ _ = _
        rw [add_of_finds h'.finds hq, if_pos hcount]
        rfl
      · rcases he : ListSite.findEntry? (w.site b) item with _ | e
        · rcases hcond : (w.site b).isConditional with _ | _
          · exact ⟨_, settles_inserted h hcond hloose hq hcount he hphrase⟩
          · refine ⟨.unchanged .conditionalList, fun h' _ => ⟨?_, h'⟩⟩
            show add _ _ _ = _
            rw [add_of_finds h'.finds hq, if_neg hcount, h.findEntry?_eq_none h' he,
              h.isConditional_eq h', hcond]
            rfl
        · exact exists_settles_requantified h hq (Nat.pos_of_ne_zero hcount) he hphrase .add
    | remove =>
      rcases he : ListSite.findEntry? (w.site b) item with _ | e
      · refine ⟨.unchanged .noMatchingEntry, fun h' _ => ⟨?_, h'⟩⟩
        exact remove_of_findEntry?_eq_none h'.finds hq (h.findEntry?_eq_none h' he)
      · rcases Nat.eq_zero_or_pos count with rfl | hcount
        · rcases hcond : (w.site b).isConditional with _ | _
          · exact exists_settles_deleted h hcond hloose hq he
          · refine ⟨.unchanged .conditionalList, fun h' _ => ⟨?_, h'⟩⟩
            obtain ⟨v, opening, attributes, closing, bs, hcontent, -, hbefore, hmentions⟩ :=
              h.exists_of_findEntry? he
            show remove _ _ _ = _
            rw [remove_of_finds h'.finds hq
              (h'.findEntry?_of_content hcontent rfl hbefore hmentions),
              if_neg (Nat.lt_irrefl 0), if_pos ((h.isConditional_eq h').trans hcond)]
            rfl
        · exact exists_settles_requantified h hq hcount he hphrase .remove
  · refine ⟨.unchanged .uncountable, fun h' _ => ⟨?_, h'⟩⟩
    cases verb with
    | add =>
      show add _ _ _ = _
      rw [add, hq]
      rfl
    | remove =>
      show remove _ _ _ = _
      rw [remove, hq]
      rfl

end Plan

end Scenery
