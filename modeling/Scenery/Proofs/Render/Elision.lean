/-
  Scenery/Proofs/Render/Elision.lean
  ==================================
  **Sentences that are left out.**  Where a template says nothing outside of its
  sentences, its text is that of the sentences that are reached, one after the other
  (`render_of_sentencesOnly`).  A sentence in which a list without members is reached
  adds nothing to it, not even the words before that list.  It can still fail: what
  the context cannot answer is a fault in a sentence that is left out as well.
-/
import Scenery.Proofs.Render.Reading

namespace Scenery

namespace Node

mutual
/-- Outside of its sentences a node has only wrappers, conditionals and blanks. -/
def sentencesOnly : Node → Bool
  | .element kind _ children =>
    match kind with
    | .sentence => true
    | .list _ => false
    | .wrapper => allSentencesOnly children
    | .conditional _ => allSentencesOnly children
  | .entry _ _ => false
  | .var _ _ => false
  | .text raw _ => Text.isAllBlank raw

def allSentencesOnly : List Node → Bool
  | [] => true
  | n :: ns => sentencesOnly n && allSentencesOnly ns
end

mutual
/-- What the sentences at and below a node hold, in the order of the template, but for
    those under a condition that fails a test. -/
def sentences (test : Condition → Bool) : Node → List (List Node)
  | .element kind _ children =>
    match kind with
    | .sentence => [children]
    | .list _ => []
    | .wrapper => sentencesAll test children
    | .conditional c => if test c then sentencesAll test children else []
  | .entry _ _ => []
  | .var _ _ => []
  | .text _ _ => []

def sentencesAll (test : Condition → Bool) : List Node → List (List Node)
  | [] => []
  | n :: ns => sentences test n ++ sentencesAll test ns
end

end Node

/-! ### Lists do not stand in lists -/

namespace Branch

mutual
theorem isList_of_mem_node {around : List Tag} (hlist : .list ∈ around) (b : Branch)
    (h : b.Nested around) (offset : Nat) :
    ∀ n ∈ (b.node offset).descendants, n.isList = false := by
  intro n hn
  cases b with
  | text raw =>
    rw [List.mem_singleton.1 hn]
    rfl
  | var s attributes sc path =>
    rw [List.mem_singleton.1 hn]
    rfl
  | single s attributes o =>
    rw [Nested] at h
    rcases opened_of_fitsIn_list hlist h.1 with rfl | ⟨c, rfl⟩
    · rw [List.mem_singleton.1 hn]
      rfl
    · rw [List.mem_singleton.1 hn]
      rfl
  | block s attributes o closing content =>
    rw [Nested] at h
    rcases opened_of_fitsIn_list hlist h.1 with rfl | ⟨c, rfl⟩
    · rw [List.mem_singleton.1 hn]
      rfl
    · rcases List.mem_cons.1 hn with rfl | hn
      · rfl
      · exact isList_of_mem_nodes (List.mem_cons_of_mem _ hlist) content h.2.2 _ n hn

theorem isList_of_mem_nodes {around : List Tag} (hlist : .list ∈ around) (bs : List Branch)
    (h : NestedAll around bs) (offset : Nat) :
    ∀ n ∈ Node.descendantsOfAll (nodes offset bs), n.isList = false := by
  intro n hn
  cases bs with
  | nil => cases hn
  | cons b bs =>
    obtain ⟨hb, hbs⟩ := nestedAll_cons.1 h
    rcases List.mem_append.1 hn with hn | hn
    · exact isList_of_mem_node hlist b hb offset n hn
    · exact isList_of_mem_nodes hlist bs hbs _ n hn
end

end Branch

namespace Node

theorem isList_of_mem_listContent {children : List Node} (h : ListContent children) {n : Node}
    (hn : n ∈ descendantsOfAll children) : n.isList = false := by
  obtain ⟨around, offset, bs, rfl, hnested, -⟩ := h
  exact Branch.isList_of_mem_nodes List.mem_cons_self bs hnested offset n hn

end Node

namespace Render

open Node

/-! ### Sentences that are left out -/

/-- Not a list, or a list that has a member. -/
def hasMember (ctx : Context) (n : Node) : Bool :=
  !n.isList || (listMembers ctx n.children).toOption != some []

/-- Every list that is reached in a sentence has a member. -/
def filled (ctx : Context) (content : List Node) : Bool :=
  (shownAll (Condition.holds ctx) content).all (hasMember ctx)

/-- What a sentence adds to a text: what it says, without the blanks around it, if all
    lists in it have members. -/
def sentenceUnit? (ctx : Context) (content : List Node) : Option Text :=
  if filled ctx content then Text.trimmed? ((partsAll ctx content).flatMap Part.text) else none

theorem filled_of_isList {ctx : Context} {ns : List Node}
    (h : ∀ n ∈ descendantsOfAll ns, n.isList = false) : filled ctx ns := by
  apply List.all_eq_true.2
  intro n hn
  rw [hasMember, h n ((shownAll_sublist _ ns).subset hn)]
  rfl

mutual
theorem isFull_parts (ctx : Context) (n : Node) (h : ListsIn n.descendants)
    (hnone : n.faults ctx = []) :
    (parts ctx n).all Part.isFull = (n.shown (Condition.holds ctx)).all (hasMember ctx) := by
  cases n with
  | entry t p => rfl
  | text raw s => rfl
  | var path s =>
    rw [parts]
    split <;> rfl
  | element kind place children =>
    have hshown :
        ((Node.element kind place children).shown (Condition.holds ctx)).all (hasMember ctx) =
        (hasMember ctx (.element kind place children) &&
          (!kind.lets (Condition.holds ctx) || filled ctx children)) := by
      rw [shown, List.all_cons]
      split
      · next hlets => simp [hlets, filled]
      · next hlets => simp [hlets]
    rw [hshown]
    cases kind with
    | list name =>
      -- what stands in a list is no list, so the list itself decides
      have hcontent : ListContent children := h name place children (by simp [descendants])
      have hbelow : filled ctx children :=
        filled_of_isList fun m hm => isList_of_mem_listContent hcontent hm
      have hmembers := listMembers_eq_answer hcontent ctx
      rw [show faultsAll ctx children = [] from hnone, answer_nil] at hmembers
      rw [hbelow, hasMember, Node.children, hmembers]
      cases hwoven : woven [] (spliceAll (Condition.holds ctx) children) with
      | nil => simp [parts, Part.isFull, hwoven, isList, Except.toOption]
      | cons m ms => simp [parts, Part.isFull, hwoven, isList, Except.toOption]
    | wrapper | sentence =>
      rw [descendants, listsIn_cons rfl] at h
      simpa [parts, hasMember, isList, Element.lets] using isFull_partsAll ctx children h hnone
    | conditional c =>
      rw [descendants, listsIn_cons rfl] at h
      rw [parts, Element.lets]
      rcases hc : c.eval ctx with e | _ | _
      · rw [faults_conditional_of_error hc] at hnone
        cases hnone
      · simp [Condition.holds_of_eval hc, hasMember, isList]
      · rw [faults_conditional hc, if_pos rfl] at hnone
        simpa [Condition.holds_of_eval hc, hasMember, isList] using
          isFull_partsAll ctx children h hnone

theorem isFull_partsAll (ctx : Context) (ns : List Node) (h : ListsIn (descendantsOfAll ns))
    (hnone : faultsAll ctx ns = []) : (partsAll ctx ns).all Part.isFull = filled ctx ns := by
  cases ns with
  | nil => rfl
  | cons n ns =>
    rw [descendantsOfAll] at h
    rw [faultsAll_cons, List.append_eq_nil_iff] at hnone
    have hfirst := isFull_parts ctx n (fun name place children hmem =>
      h name place children (List.mem_append_left _ hmem)) hnone.1
    have hrest := isFull_partsAll ctx ns (fun name place children hmem =>
      h name place children (List.mem_append_right _ hmem)) hnone.2
    rw [partsAll, List.all_append, hfirst, hrest, filled, filled, shownAll, List.all_append]
end

theorem unit?_eq_sentenceUnit? {ctx : Context} {content : List Node}
    (h : ListsIn (descendantsOfAll content)) (hnone : faultsAll ctx content = []) :
    unit? (partsAll ctx content) = sentenceUnit? ctx content := by
  rw [unit?, isFull_partsAll ctx content h hnone, sentenceUnit?]

/-! ### Units of sentences -/

/-- A sentence, or blanks outside of sentences. -/
def Passage.isQuiet : Passage → Bool
  | .sentence _ => true
  | .loose (.words t) => Text.isAllBlank t
  | .loose (.members _) => false

/-- The unit that a passage makes by itself. -/
def Passage.unit? : Passage → Option Text
  | .sentence ps => Render.unit? ps
  | .loose _ => none

/-- Blanks between sentences are lost. -/
theorem all_foldl_take_of_isQuiet {ps : List Passage} (h : ∀ p ∈ ps, p.isQuiet) (u : Units)
    (hpending : Text.isAllBlank u.pending) :
    (ps.foldl Units.take u).all = u.finished ++ ps.filterMap Passage.unit? := by
  induction ps generalizing u with
  | nil =>
    rw [List.foldl_nil, Units.all, Text.trimmed?_of_isAllBlank hpending]
    rfl
  | cons p ps ih =>
    have hp := h p List.mem_cons_self
    have hps : ∀ q ∈ ps, q.isQuiet := fun q hq => h q (List.mem_cons_of_mem _ hq)
    rw [List.foldl_cons]
    cases p with
    | sentence parts =>
      rw [take_sentence, ih hps _ rfl, Units.all, Text.trimmed?_of_isAllBlank hpending]
      cases hunit : unit? parts with
      | none => simp [Passage.unit?, hunit]
      | some t => simp [Passage.unit?, hunit]
    | loose part =>
      cases part with
      | members ms => cases hp
      | words t =>
        have hmore : Text.isAllBlank (u.pending ++ t) := by
          rw [Text.isAllBlank, List.all_append]
          exact Bool.and_eq_true_iff.2 ⟨hpending, hp⟩
        have htake : u.take (.loose (.words t)) = ⟨u.finished, u.pending ++ t⟩ := by
          simp [Units.take, Inline.ofParts, Units.outside, Part.text, Part.isFull]
        rw [htake, ih hps _ hmore]
        rfl

mutual
/-- The passages of a node that says nothing outside of sentences are those of its
    sentences, with blanks between them. -/
theorem passages_of_sentencesOnly (ctx : Context) (n : Node) (honly : n.sentencesOnly)
    (h : ListsIn n.descendants) (hnone : n.faults ctx = []) :
    (∀ p ∈ passages ctx n, p.isQuiet) ∧
      (passages ctx n).filterMap Passage.unit? =
        (n.sentences (Condition.holds ctx)).filterMap (sentenceUnit? ctx) := by
  cases n with
  | entry t p | var path s => cases honly
  | text raw s =>
    rw [passages]
    constructor
    · intro p hp
      rw [List.mem_singleton.1 hp]
      exact honly
    · rfl
  | element kind place children =>
    cases kind with
    | list name => cases honly
    | sentence =>
      rw [descendants, listsIn_cons rfl] at h
      rw [passages]
      constructor
      · intro p hp
        rw [List.mem_singleton.1 hp]
        rfl
      · simp [sentences, Passage.unit?, List.filterMap_cons, unit?_eq_sentenceUnit? h hnone]
    | wrapper =>
      rw [descendants, listsIn_cons rfl] at h
      exact passagesAll_of_sentencesOnly ctx children honly h hnone
    | conditional c =>
      rw [descendants, listsIn_cons rfl] at h
      rw [passages, sentences]
      rcases hc : c.eval ctx with e | _ | _
      · rw [faults_conditional_of_error hc] at hnone
        cases hnone
      · rw [Condition.holds_of_eval hc, if_neg (by simp), if_neg (by simp)]
        exact ⟨fun p hp => absurd hp List.not_mem_nil, rfl⟩
      · rw [faults_conditional hc, if_pos rfl] at hnone
        rw [Condition.holds_of_eval hc, if_pos rfl, if_pos rfl]
        exact passagesAll_of_sentencesOnly ctx children honly h hnone

theorem passagesAll_of_sentencesOnly (ctx : Context) (ns : List Node) (honly : allSentencesOnly ns)
    (h : ListsIn (descendantsOfAll ns)) (hnone : faultsAll ctx ns = []) :
    (∀ p ∈ passagesAll ctx ns, p.isQuiet) ∧
      (passagesAll ctx ns).filterMap Passage.unit? =
        (sentencesAll (Condition.holds ctx) ns).filterMap (sentenceUnit? ctx) := by
  cases ns with
  | nil => exact ⟨fun p hp => absurd hp List.not_mem_nil, rfl⟩
  | cons n ns =>
    obtain ⟨hn, hns⟩ := Bool.and_eq_true_iff.1 honly
    rw [descendantsOfAll] at h
    rw [faultsAll_cons, List.append_eq_nil_iff] at hnone
    obtain ⟨hquiet, hunits⟩ := passages_of_sentencesOnly ctx n hn (fun name place children hmem =>
      h name place children (List.mem_append_left _ hmem)) hnone.1
    obtain ⟨hquietAll, hunitsAll⟩ := passagesAll_of_sentencesOnly ctx ns hns
      (fun name place children hmem =>
        h name place children (List.mem_append_right _ hmem)) hnone.2
    rw [passagesAll, sentencesAll]
    constructor
    · intro p hp
      rcases List.mem_append.1 hp with hp | hp
      · exact hquiet p hp
      · exact hquietAll p hp
    · rw [List.filterMap_append, List.filterMap_append, hunits, hunitsAll]
end

/-- **Elision is total and exact.**  A template that says nothing outside of its sentences
    comes to what the sentences that are reached add to it, unless the context has no
    answer for something that is reached, be it in a sentence that is left out. -/
theorem render_of_sentencesOnly {template : Text} {root : Node}
    (hparse : Node.parse template = .ok root) (honly : root.sentencesOnly) (ctx : Context) :
    (root.faults ctx = [] →
      render template ctx = .ok ([' '].intercalate
        ((root.sentences (Condition.holds ctx)).filterMap (sentenceUnit? ctx)))) ∧
    ∀ e more, root.faults ctx = e :: more → render template ctx = .error (.eval e) := by
  rw [render_eq hparse, tree_eq hparse]
  constructor
  · intro hnone
    obtain ⟨hquiet, hunits⟩ :=
      passages_of_sentencesOnly ctx root honly (listsIn_of_parse hparse) hnone
    rw [layout, all_foldl_take_of_isQuiet hquiet {} rfl, hunits, hnone]
    rfl
  · intro e more hfaults
    rw [hfaults]
    rfl

/-- A shelf that is empty without a rose, and a sentence about the room. -/
def shelf : Text :=
  ("<s>The <var v='wood'/> shelf holds <if cond='rose == false'>only" ++
    " <il><if cond='rose == true'><item>a ROSE</item></if></il></if>.</s>" ++
    "<if cond='rose == false'> <s>All is dusty.</s> </if><s>It is late.</s>").toList

/-- There is no rose, and the shelf is made of oak. -/
def oaken : Context :=
  .ofList [("rose".toList, .boolean false), ("wood".toList, .text "oak".toList)]

/-- Without a rose nothing is said of the shelf, but what it is made of has to be known. -/
theorem render_of_sentencesOnly_of_shelf :
    ∃ root, Node.parse shelf = .ok root ∧ root.sentencesOnly ∧
      render shelf oaken = .ok "All is dusty. It is late.".toList ∧
      render shelf roseless = .error (.eval (.unknownPath "wood".toList)) := by
  obtain ⟨root, hparse, honly, hnone, hunits, hfaults⟩ := exists_parsed shelf
    (fun root => root.sentencesOnly ∧ root.faults oaken = [] ∧
      (root.sentences (Condition.holds oaken)).filterMap (sentenceUnit? oaken) =
        ["All is dusty.".toList, "It is late.".toList] ∧
      root.faults roseless = [.unknownPath "wood".toList]) (by decide +kernel)
  refine ⟨root, hparse, honly, ?_, ?_⟩
  · rw [(render_of_sentencesOnly hparse honly _).1 hnone, hunits]
    rfl
  · exact (render_of_sentencesOnly hparse honly _).2 _ _ hfaults

end Render

end Scenery
