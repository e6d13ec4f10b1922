/-
  Scenery/Proofs/Content/Lookup.lean
  ==================================
  **Checks and changes look for a list alike.**  The check of a placement goes through all
  the nodes of a tree and asks for the names of the lists among them.  A change goes from
  element to element, stops at every list that it meets and keeps what is next to it.  In a
  tree that was read from a template no list stands in a list, so both come to the same
  lists in the same order (`map_name_all`), and they compare names by the same rule.

  So a placement is reported exactly if an item that is added where it says would find no
  list in any template of the description (`Content.placementIssues_iff`).
-/
import Scenery.Proofs.Content.Clean
import Scenery.Proofs.Render.Coverage

namespace Scenery

/-! ### The lists of a tree -/

namespace ListSite

open Node

/-- No list is met below a list of these nodes. -/
def NoInnerLists (ns : List Node) : Prop :=
  ∀ name place children, .element (.list name) place children ∈ descendantsOfAll ns →
    (descendantsOfAll children).filter isList = []

mutual
theorem map_name_ofNode_descendants (n : Node) (h : NoInnerLists [n]) (opens : Bool)
    (previous next : Option Node) :
    (ofNode opens previous next n).map (·.name) =
      (n.descendants.filter isList).map Node.listName? := by
  cases n with
  | entry | var | text => rfl
  | element kind place children =>
    have hinner : NoInnerLists children := by
      intro name place' children' hmem
      apply h name place' children'
      rw [descendantsOfAll, descendants, List.cons_append, List.mem_cons, List.mem_append]
      exact .inr (.inl hmem)
    rw [descendants]
    cases kind with
    | wrapper => exact map_name_ofNodes_descendants children hinner false none
    | sentence => exact map_name_ofNodes_descendants children hinner true none
    | conditional c => exact map_name_ofNodes_descendants children hinner opens none
    | list name =>
      have hnone : (descendantsOfAll children).filter isList = [] := by
        apply h name place children
        rw [descendantsOfAll, descendants]
        exact List.mem_cons_self
      rw [List.filter_cons_of_pos rfl, hnone]
      rfl

/-- The lists that are met on the way down are all the lists there are. -/
theorem map_name_ofNodes_descendants (ns : List Node) (h : NoInnerLists ns) (opens : Bool)
    (previous : Option Node) :
    (ofNodes opens previous ns).map (·.name) =
      ((descendantsOfAll ns).filter isList).map Node.listName? := by
  cases ns with
  | nil => rfl
  | cons n ns =>
    have hn : NoInnerLists [n] := by
      intro name place children hmem
      apply h name place children
      rw [descendantsOfAll, List.mem_append]
      rw [descendantsOfAll, descendantsOfAll, List.append_nil] at hmem
      exact .inl hmem
    have hns : NoInnerLists ns := by
      intro name place children hmem
      apply h name place children
      rw [descendantsOfAll, List.mem_append]
      exact .inr hmem
    rw [ofNodes, List.map_append, descendantsOfAll, List.filter_append, List.map_append,
      map_name_ofNode_descendants n hn, map_name_ofNodes_descendants ns hns]
end

variable {template : Text} {root : Node}

theorem noInnerLists_of_parse (hparse : Node.parse template = .ok root) :
    NoInnerLists [root] := by
  intro name place children hmem
  rw [descendantsOfAll, descendantsOfAll, List.append_nil] at hmem
  apply List.filter_eq_nil_iff.2
  intro n hn hlist
  have hcontent := isListContent_of_parse hparse hmem n hn
  cases n with
  | entry | var | text => cases hlist
  | element kind place children =>
    cases kind with
    | wrapper | sentence | conditional => cases hlist
    | list => cases hcontent

/-- **The lists that a change can be about are the lists of the tree**, in its order. -/
theorem map_name_all (hparse : Node.parse template = .ok root) :
    (all root).map (·.name) = root.lists.map Node.listName? := by
  obtain ⟨place, children, rfl⟩ := exists_of_parse_eq_ok hparse
  have hinner : NoInnerLists children := by
    intro name place' children' hmem
    apply noInnerLists_of_parse hparse name place' children'
    rw [descendantsOfAll, descendants, List.cons_append, List.mem_cons, List.mem_append]
    exact .inr (.inl hmem)
  have hall : all (.element .wrapper place children) = ofNodes false none children := rfl
  rw [hall, lists, descendants]
  exact map_name_ofNodes_descendants children hinner false none

/-! ### Looking a list up -/

theorem all_eq_nil_iff (hparse : Node.parse template = .ok root) :
    all root = [] ↔ root.lists = [] := by
  rw [← List.map_eq_nil_iff, map_name_all hparse, List.map_eq_nil_iff]

theorem find?_hasName_eq_none_iff (hparse : Node.parse template = .ok root) (wanted : Text) :
    (all root).find? (hasName wanted) = none ↔ Content.hasListNamed wanted root = false := by
  have hnames : (∀ s ∈ all root, hasName wanted s = false) ↔
      ∀ name ∈ root.lists.map Node.listName?, agrees wanted name = false := by
    rw [← map_name_all hparse]
    simp only [List.forall_mem_map, hasName_eq]
  simp only [List.find?_eq_none, Bool.not_eq_true]
  rw [hnames, Content.hasListNamed, List.any_eq_false, listNames]
  constructor
  · intro h name hname
    obtain ⟨n, hn, hof⟩ := List.mem_filterMap.1 hname
    have hagrees := h _ (List.mem_map_of_mem hn)
    rw [hof] at hagrees
    simpa [agrees] using hagrees
  · intro h name? hname?
    obtain ⟨n, hn, rfl⟩ := List.mem_map.1 hname?
    rcases hof : n.listName? with _ | name
    · rfl
    · simpa [agrees] using h name (List.mem_filterMap.2 ⟨n, hn, hof⟩)

end ListSite

/-! ### Changes that find no list -/

/-- Adding some of an item comes to nothing for want of a list exactly if none is found. -/
theorem ListChange.add_eq_noList_iff {template : Text} {root : Node}
    (hparse : Node.parse template = .ok root) {item : Item} {n : Nat}
    (hitem : item.quantity = .count n) (list : Option Text) :
    add template item list = .ok (.unchanged .noList) ↔ ListSite.find? root list = none := by
  rw [add, hitem]
  simp only [hparse]
  rcases ListSite.find? root list with _ | s
  · exact iff_of_true rfl rfl
  · apply iff_of_false
    · simp only
      intro h
      split at h
      · cases h
      split at h
      · cases h
      split at h
      · cases h
      · cases h
    · intro h
      cases h

namespace Content

/-- A tree has the list that a placement is for. -/
def servesList (list : Option Text) (root : Node) : Bool :=
  match list.bind Text.trimmed? with
  | some wanted => hasListNamed wanted root
  | none => !root.lists.isEmpty

theorem servesList_eq_false_iff {template : Text} {root : Node}
    (hparse : Node.parse template = .ok root) (list : Option Text) :
    servesList list root = false ↔ ListSite.find? root list = none := by
  rw [servesList, ListSite.find?]
  rcases list.bind Text.trimmed? with _ | wanted
  · simp [List.head?_eq_none_iff, ListSite.all_eq_nil_iff hparse]
  · exact (ListSite.find?_hasName_eq_none_iff hparse wanted).symm

theorem mem_parsedTemplates_iff {d : Description} {root : Node} :
    root ∈ parsedTemplates d ↔ ∃ t ∈ d.templates, Node.parse t.2 = .ok root := by
  rw [parsedTemplates, List.mem_filterMap]
  constructor
  · rintro ⟨t, ht, hroot⟩
    refine ⟨t, ht, ?_⟩
    rcases hparse : Node.parse t.2 with e | root'
    · simp [hparse, Except.toOption] at hroot
    · simpa [hparse, Except.toOption] using hroot
  · rintro ⟨t, ht, hparse⟩
    exact ⟨t, ht, by simp [hparse, Except.toOption]⟩

end Content

/-! ### The issue of a placement -/

/-- The issue that says that the list of a placement is not there: by its name, unless none
    is given or it is blank. -/
def Placement.listIssue (p : Placement) : LintIssue :=
  match p.list with
  | none => .noList p.container p.item
  | some name =>
    if Text.isAllBlank name then .noList p.container p.item
    else .missingList p.container (Text.trim name) p.item

/-- Some template of a description can be read, and an item that is added to any of those
    does not find its list. -/
def Description.Lacks (d : Description) (list : Option Text) (item : Item) : Prop :=
  (∃ t ∈ d.templates, ∃ root, Node.parse t.2 = .ok root) ∧
    ∀ t ∈ d.templates, ∀ root, Node.parse t.2 = .ok root →
      ListChange.add t.2 item list = .ok (.unchanged .noList)

/-- The issues that are about the list of a placement. -/
def LintIssue.isAboutList : LintIssue → Bool
  | .missingList _ _ _ | .noList _ _ => true
  | .content _ | .markup _ _ | .unknownPath _ _ | .render _ _ => false

theorem Placement.listIssue_eq (p : Placement) :
    p.listIssue = match p.list.bind Text.trimmed? with
      | some wanted => .missingList p.container wanted p.item
      | none => .noList p.container p.item := by
  rw [listIssue]
  rcases p.list with _ | name
  · rfl
  rw [Option.bind_some]
  by_cases hblank : Text.isAllBlank name
  · simp [hblank, Text.trimmed?_of_isAllBlank hblank]
  · have hne : Text.trim name ≠ [] := by
      intro hnil
      exact hblank (Text.trim_eq_nil_iff.1 hnil)
    simp [hblank, Text.trimmed?_eq_some.2 ⟨rfl, hne⟩]

theorem Placement.isAboutList_listIssue (p : Placement) : p.listIssue.isAboutList = true := by
  rw [p.listIssue_eq]
  split <;> rfl

namespace Content

variable {c : Content} {p : Placement} {d : Description}

theorem description?_id {id : Text} (h : c.description? id = some d) : d.id = id := by
  simpa using List.find?_some h

/-- A placement is reported if there are trees and none of them has its list. -/
theorem placementIssues_eq (hd : c.description? p.container = some d) :
    placementIssues c p =
      if parsedTemplates d = [] ∨ ∃ root ∈ parsedTemplates d, servesList p.list root then []
      else [p.listIssue] := by
  rw [placementIssues, hd, p.listIssue_eq]
  simp only [description?_id hd, List.isEmpty_iff]
  by_cases hnil : parsedTemplates d = []
  · rw [if_pos hnil, if_pos (.inl hnil)]
  rw [if_neg hnil]
  rcases hlist : p.list.bind Text.trimmed? with _ | wanted
  · simp only [List.any_eq_true, hnil, servesList, hlist, false_or]
  · simp only [List.any_eq_true, hnil, servesList, hlist, false_or]

theorem lacks_iff (list : Option Text) {item : Item} {n : Nat} (hitem : item.quantity = .count n) :
    d.Lacks list item ↔
      parsedTemplates d ≠ [] ∧ ∀ root ∈ parsedTemplates d, servesList list root = false := by
  have hexists : (∃ t ∈ d.templates, ∃ root, Node.parse t.2 = .ok root) ↔
      parsedTemplates d ≠ [] := by
    constructor
    · rintro ⟨t, ht, root, hparse⟩
      exact List.ne_nil_of_mem (mem_parsedTemplates_iff.2 ⟨t, ht, hparse⟩)
    · intro hne
      obtain ⟨root, hroot⟩ := List.exists_mem_of_ne_nil _ hne
      obtain ⟨t, ht, hparse⟩ := mem_parsedTemplates_iff.1 hroot
      exact ⟨t, ht, root, hparse⟩
  rw [Description.Lacks, hexists]
  apply and_congr_right
  intro _
  constructor
  · intro h root hroot
    obtain ⟨t, ht, hparse⟩ := mem_parsedTemplates_iff.1 hroot
    rw [servesList_eq_false_iff hparse, ← ListChange.add_eq_noList_iff hparse hitem]
    exact h t ht root hparse
  · intro h t ht root hparse
    rw [ListChange.add_eq_noList_iff hparse hitem, ← servesList_eq_false_iff hparse]
    exact h root (mem_parsedTemplates_iff.2 ⟨t, ht, hparse⟩)

/-- **A placement is reported if adding an item where it says finds no list.** -/
theorem placementIssues_iff (hd : c.description? p.container = some d) {item : Item} {n : Nat}
    (hitem : item.quantity = .count n) (issue : LintIssue) :
    issue ∈ placementIssues c p ↔ issue = p.listIssue ∧ d.Lacks p.list item := by
  rw [placementIssues_eq hd, lacks_iff p.list hitem]
  split
  · next h =>
    refine iff_of_false (by simp) ?_
    rintro ⟨-, hne, hserves⟩
    rcases h with hnil | ⟨root, hroot, hserve⟩
    · exact hne hnil
    · rw [hserves root hroot] at hserve
      cases hserve
  · next h =>
    obtain ⟨hne, hnone⟩ := not_or.1 h
    rw [List.mem_singleton, iff_self_and]
    intro _
    refine ⟨hne, ?_⟩
    intro root hroot
    rw [← Bool.not_eq_true]
    intro hserve
    exact hnone ⟨root, hroot, hserve⟩

/-! ### The issues about lists in a report -/

theorem isAboutList_of_mem_templateIssues {ctx : Option Context} {name : TemplateName}
    {template : Text} {issue : LintIssue} (h : issue ∈ templateIssues ctx name template) :
    issue.isAboutList = false := by
  rw [templateIssues] at h
  rcases hparse : Node.parse template with e | root
  · simp only [hparse] at h
    rw [List.mem_singleton.1 h]
    rfl
  simp only [hparse] at h
  cases ctx with
  | none => cases h
  | some ctx =>
    obtain ⟨unknown, -, hissues⟩ | ⟨text, -, hissues⟩ | ⟨e, -, -, hissues⟩ :=
      contextIssues_cases ctx name root
    · simp only [hissues] at h
      obtain ⟨path, -, rfl⟩ := List.mem_map.1 h
      rfl
    · simp only [hissues] at h
      cases h
    · simp only [hissues] at h
      rw [List.mem_singleton.1 h]
      rfl

/-- An issue about a list is one of a placement. -/
theorem mem_lint_iff_of_isAboutList {ctx : Option Context} {issue : LintIssue}
    (h : issue.isAboutList = true) :
    issue ∈ c.lint ctx ↔ ∃ p ∈ c.placements, issue ∈ placementIssues c p := by
  have hcontent : issue ∉ c.validate.map LintIssue.content := by
    intro hmem
    obtain ⟨e, -, rfl⟩ := List.mem_map.1 hmem
    cases h
  have hdescriptions : issue ∉ c.descriptions.flatMap (descriptionIssues ctx) := by
    intro hmem
    obtain ⟨d, -, hd⟩ := List.mem_flatMap.1 hmem
    obtain ⟨t, -, ht⟩ := List.mem_flatMap.1 hd
    rw [isAboutList_of_mem_templateIssues ht] at h
    cases h
  simp only [lint, List.mem_append, hcontent, hdescriptions, false_or, List.mem_flatMap]

theorem exists_description_of_mem_placementIssues {issue : LintIssue}
    (h : issue ∈ placementIssues c p) : ∃ d, c.description? p.container = some d := by
  rcases hd : c.description? p.container with _ | d
  · rw [placementIssues, hd] at h
    cases h
  · exact ⟨d, rfl⟩

/-- Placements with one issue are for one list of one container. -/
theorem eq_of_listIssue_eq {q : Placement} (h : p.listIssue = q.listIssue) :
    p.container = q.container ∧ p.list.bind Text.trimmed? = q.list.bind Text.trimmed? := by
  rw [p.listIssue_eq, q.listIssue_eq] at h
  rcases hp : p.list.bind Text.trimmed? with _ | wanted
  · rcases hq : q.list.bind Text.trimmed? with _ | wanted'
    · simp only [hp, hq, LintIssue.noList.injEq] at h
      exact ⟨h.1, rfl⟩
    · simp only [hp, hq] at h
      cases h
  · rcases hq : q.list.bind Text.trimmed? with _ | wanted'
    · simp only [hp, hq] at h
      cases h
    · simp only [hp, hq, LintIssue.missingList.injEq] at h
      exact ⟨h.1, by rw [h.2.1]⟩

/-- **A report misses the lists that changes do not find.**  The issues about lists are those
    of the placements.  A placement into a description has its issue exactly if an item that
    is added to the list of the placement finds none in the templates that can be read, and
    it has no other issue. -/
theorem lint_placement_iff (c : Content) (ctx : Option Context) :
    (∀ issue : LintIssue, issue.isAboutList = true →
      (issue ∈ c.lint ctx ↔ ∃ p ∈ c.placements, issue ∈ placementIssues c p)) ∧
    ∀ p ∈ c.placements, ∀ d, c.description? p.container = some d →
      ∀ (item : Item) (n : Nat), item.quantity = .count n →
        (p.listIssue ∈ c.lint ctx ↔ d.Lacks p.list item) ∧
        ∀ issue, issue ∈ placementIssues c p ↔ issue = p.listIssue ∧ d.Lacks p.list item := by
  refine ⟨fun issue h => mem_lint_iff_of_isAboutList h, ?_⟩
  intro p hp d hd item n hitem
  refine ⟨?_, placementIssues_iff hd hitem⟩
  rw [mem_lint_iff_of_isAboutList p.isAboutList_listIssue]
  constructor
  · -- the issue can be that of another placement, which then is for the same list
    rintro ⟨q, -, hissue⟩
    obtain ⟨d', hd'⟩ := exists_description_of_mem_placementIssues hissue
    obtain ⟨heq, hlacks⟩ := (placementIssues_iff hd' hitem _).1 hissue
    obtain ⟨hcontainer, hlist⟩ := eq_of_listIssue_eq heq
    have hsame : d = d' := by
      rw [hcontainer, hd', Option.some.injEq] at hd
      exact hd.symm
    rw [hsame, lacks_iff p.list hitem]
    rw [lacks_iff q.list hitem] at hlacks
    simp only [servesList, hlist]
    exact hlacks
  · intro hlacks
    exact ⟨p, hp, (placementIssues_iff hd hitem _).2 ⟨rfl, hlacks⟩⟩

/-- A shed that has one shelf before its puzzle is solved, and cannot be read after that. -/
def shedPuzzle : Description :=
  ⟨"shed".toList, .puzzle, "<s>Here is <il name='Left Shelf'></il>.</s>".toList,
    some "<s>Here is <il name='right shelf'>.</s>".toList⟩

/-- An axe on the shelf, and a saw on a shelf that is not there. -/
def shed : Content :=
  { descriptions := [shedPuzzle]
    placements := [⟨"axe".toList, "shed".toList, some " LEFT shelf ".toList, .count 1⟩,
      ⟨"saw".toList, "shed".toList, some "right shelf".toList, .count 1⟩] }

theorem lint_placement_iff_of_shed :
    (.missingList "shed".toList "right shelf".toList "saw".toList ∈ shed.lint none ∧
      shedPuzzle.Lacks (some "right shelf".toList)
        ⟨"SAW".toList, .count 2, "a SAW".toList, none⟩) ∧
    .missingList "shed".toList "LEFT shelf".toList "axe".toList ∉ shed.lint none ∧
      ¬shedPuzzle.Lacks (some " LEFT shelf ".toList)
        ⟨"AXE".toList, .count 1, "an AXE".toList, none⟩ := by
  have hsaw := (lint_placement_iff shed none).2
    ⟨"saw".toList, "shed".toList, some "right shelf".toList, .count 1⟩ (by decide) shedPuzzle rfl
    ⟨"SAW".toList, .count 2, "a SAW".toList, none⟩ 2 rfl
  have haxe := (lint_placement_iff shed none).2
    ⟨"axe".toList, "shed".toList, some " LEFT shelf ".toList, .count 1⟩ (by decide) shedPuzzle rfl
    ⟨"AXE".toList, .count 1, "an AXE".toList, none⟩ 1 rfl
  have hreported : LintIssue.missingList "shed".toList "right shelf".toList "saw".toList ∈
      shed.lint none := by decide +kernel
  have hfound : LintIssue.missingList "shed".toList "LEFT shelf".toList "axe".toList ∉
      shed.lint none := by decide +kernel
  exact ⟨⟨hreported, hsaw.1.1 hreported⟩, hfound, fun hlacks => hfound (haxe.1.2 hlacks)⟩

end Content

end Scenery
