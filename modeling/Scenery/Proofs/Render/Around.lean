/-
  Scenery/Proofs/Render/Around.lean
  =================================
  **Reading what stands around a place.**  What is said around a place does not depend
  on what fills it: inside of a sentence the parts before and behind it stay
  (`exists_partsAll_fillAll`), and outside the passages do (`framed_fillAll`).
  A conditional around the place decides only on whether the filling is said too.

  A sentence makes a unit of its own, so the units around it stay as well
  (`layout_sentence`).
-/
import Scenery.Proofs.Render.Questions
import Scenery.Proofs.Render.Shown

namespace Scenery

namespace Node

theorem shownAll_append (test : Condition → Bool) (xs ys : List Node) :
    shownAll test (xs ++ ys) = shownAll test xs ++ shownAll test ys := by
  induction xs with
  | nil => rfl
  | cons x xs ih => rw [List.cons_append, shownAll, shownAll, ih, List.append_assoc]

theorem queriesAll_append (test : Condition → Bool) (xs ys : List Node) :
    queriesAll test (xs ++ ys) = queriesAll test xs ++ queriesAll test ys := by
  rw [queriesAll, shownAll_append, List.filterMap_append]
  rfl

/-! ### Wrappers around a wrapper -/

theorem significant_append_cons {xs ys : List Node} {n : Node} (hn : n.isBlankText = false) :
    significant (xs ++ n :: ys) = significant xs ++ n :: significant ys := by
  simp [significant, hn]

theorem unwrapped_of_significant {ns children : List Node} {place : Place}
    (h : significant ns = [.element .wrapper place children]) : unwrapped ns = children := by
  simp only [unwrapped, h]

theorem unwrapped_eq_self {ns : List Node}
    (h : ∀ place children, significant ns ≠ [.element .wrapper place children]) :
    unwrapped ns = ns := by
  unfold unwrapped
  split
  · next place children hs => exact absurd hs (h place children)
  · rfl

theorem queriesAll_significant (test : Condition → Bool) (ns : List Node) :
    queriesAll test (significant ns) = queriesAll test ns := by
  induction ns with
  | nil => rfl
  | cons n ns ih =>
    rw [significant] at ih
    rw [queriesAll_cons, significant, List.filter_cons]
    split
    · rw [queriesAll_cons, ih]
    · next hblank =>
      cases n with
      | text raw s => rw [ih, queries_text, List.nil_append]
      | element | entry | var => exact absurd rfl hblank

/-- The blanks around a wrapper ask for nothing. -/
theorem queriesAll_unwrapped (test : Condition → Bool) (ns : List Node) :
    queriesAll test (unwrapped ns) = queriesAll test ns := by
  unfold unwrapped
  split
  · next place children hs =>
    rw [← queriesAll_significant test ns, hs, queriesAll_cons, queries_wrapper, queriesAll_nil,
      List.append_nil]
  · rfl

theorem queries_root (test : Condition → Bool) (size : Nat) (ns : List Node) :
    (root size ns).queries test = queriesAll test ns := by
  obtain ⟨place, hroot⟩ := exists_root size ns
  rw [hroot, queries_wrapper, queriesAll_unwrapped]

end Node

namespace Render

theorem partsAll_append (ctx : Context) (xs ys : List Node) :
    partsAll ctx (xs ++ ys) = partsAll ctx xs ++ partsAll ctx ys := by
  induction xs with
  | nil => rfl
  | cons x xs ih => rw [List.cons_append, partsAll, partsAll, ih, List.append_assoc]

theorem passagesAll_append (ctx : Context) (xs ys : List Node) :
    passagesAll ctx (xs ++ ys) = passagesAll ctx xs ++ passagesAll ctx ys := by
  induction xs with
  | nil => rfl
  | cons x xs ih => rw [List.cons_append, passagesAll, passagesAll, ih, List.append_assoc]

end Render

namespace Branch

open Node Render

def isWrapper (b : Branch) : Bool := b.opened? == some (.element .wrapper)

/-- A sentence as it is written. -/
def IsSentence (b : Branch) : Prop := b.opened? = some (.element .sentence)

section Offsets

variable (bs : List Branch) (offset : Nat)

theorem queriesAll_nodes (test : Condition → Bool) :
    queriesAll test (nodes offset bs) = queriesAll test (nodes 0 bs) := by
  rw [← queriesAll_bareAll (nodes offset bs) fun _ _ => rfl, bareAll_nodes bs offset 0,
    queriesAll_bareAll _ fun _ _ => rfl]

theorem partsAll_nodes (ctx : Context) :
    partsAll ctx (nodes offset bs) = partsAll ctx (nodes 0 bs) := by
  rw [← partsAll_bareAll (nodes offset bs) (.refl _ ctx), bareAll_nodes bs offset 0,
    partsAll_bareAll _ (.refl _ ctx)]

theorem passagesAll_nodes (ctx : Context) :
    passagesAll ctx (nodes offset bs) = passagesAll ctx (nodes 0 bs) := by
  rw [← passagesAll_bareAll (nodes offset bs) (.refl _ ctx), bareAll_nodes bs offset 0,
    passagesAll_bareAll _ (.refl _ ctx)]

theorem passagesAll_unwrapped_nodes (ctx : Context) :
    passagesAll ctx (unwrapped (nodes offset bs)) = passagesAll ctx (unwrapped (nodes 0 bs)) := by
  rw [← passagesAll_bareAll (unwrapped (nodes offset bs)) (.refl _ ctx), ← unwrapped_bareAll,
    bareAll_nodes bs offset 0, unwrapped_bareAll, passagesAll_bareAll _ (.refl _ ctx)]

variable (b : Branch)

theorem queries_node (test : Condition → Bool) :
    (b.node offset).queries test = (b.node 0).queries test := by
  rw [← queries_bare (b.node offset) fun _ _ => rfl, bare_node b offset 0,
    queries_bare _ fun _ _ => rfl]

theorem parts_node (ctx : Context) : parts ctx (b.node offset) = parts ctx (b.node 0) := by
  rw [← parts_bare (b.node offset) (.refl _ ctx), bare_node b offset 0,
    parts_bare _ (.refl _ ctx)]

theorem passages_node (ctx : Context) :
    passages ctx (b.node offset) = passages ctx (b.node 0) := by
  rw [← passages_bare (b.node offset) (.refl _ ctx), bare_node b offset 0,
    passages_bare _ (.refl _ ctx)]

end Offsets

/-! ### Rows -/

section Rows

variable (xs ys : List Branch) (b : Branch) (offset : Nat)

theorem queriesAll_append_cons (test : Condition → Bool) :
    queriesAll test (nodes offset (xs ++ b :: ys)) =
      queriesAll test (nodes 0 xs) ++
        ((b.node 0).queries test ++ queriesAll test (nodes 0 ys)) := by
  rw [nodes_append, nodes_cons, queriesAll_append, queriesAll_cons, queriesAll_nodes xs,
    queriesAll_nodes ys, queries_node]

theorem partsAll_append_cons (ctx : Context) :
    partsAll ctx (nodes offset (xs ++ b :: ys)) =
      partsAll ctx (nodes 0 xs) ++ (parts ctx (b.node 0) ++ partsAll ctx (nodes 0 ys)) := by
  rw [nodes_append, nodes_cons, partsAll_append, partsAll, partsAll_nodes xs, partsAll_nodes ys,
    parts_node]

theorem passagesAll_append_cons (ctx : Context) :
    passagesAll ctx (nodes offset (xs ++ b :: ys)) =
      passagesAll ctx (nodes 0 xs) ++
        (passages ctx (b.node 0) ++ passagesAll ctx (nodes 0 ys)) := by
  rw [nodes_append, nodes_cons, passagesAll_append, passagesAll, passagesAll_nodes xs,
    passagesAll_nodes ys, passages_node]

end Rows

end Branch

namespace Render

open Node Branch Layer

/-! ### What is asked -/

theorem queries_block (test : Condition → Bool) (l : Layer) {bs bs' : List Branch}
    (h : queriesAll test (nodes 0 bs') = queriesAll test (nodes 0 bs)) (offset : Nat) :
    ((l.block bs').node offset).queries test = ((l.block bs).node offset).queries test := by
  rw [← queriesAll_nodes bs' (offset + Text.bytes l.source),
    ← queriesAll_nodes bs (offset + Text.bytes l.source)] at h
  rw [Layer.block, Layer.block, node, node]
  rcases l.opened with (_ | _ | c | name) | _
  · simp only [ofOpened, queries_wrapper, queriesAll_unwrapped, h]
  · simp only [ofOpened, queries_sentence, h]
  · simp only [ofOpened, queries_conditional, h]
  · simp only [ofOpened, queries_list, h]
  · rfl

/-- What is asked around a place does not depend on what fills it. -/
theorem queriesAll_fillAll (test : Condition → Bool) (ls : List Layer) {bs bs' : List Branch}
    (h : queriesAll test (nodes 0 bs') = queriesAll test (nodes 0 bs)) :
    queriesAll test (nodes 0 (fillAll ls bs')) = queriesAll test (nodes 0 (fillAll ls bs)) := by
  induction ls with
  | nil => exact h
  | cons l ls ih =>
    rw [fillAll, fillAll, queriesAll_append_cons, queriesAll_append_cons, queries_block test l ih]

/-! ### What is said in a sentence -/

/-- **What a sentence says around a place** does not depend on what fills it. -/
theorem exists_partsAll_fillAll (ctx : Context) {ls : List Layer}
    (hls : ∀ l ∈ ls, ∃ c, l.opened = .element (.conditional c)) :
    ∃ before behind, ∀ bs offset, partsAll ctx (nodes offset (fillAll ls bs)) =
      before ++ ((if ls.all fun l => l.opened.lets (Condition.holds ctx) then
        partsAll ctx (nodes 0 bs) else []) ++ behind) := by
  induction ls with
  | nil =>
    refine ⟨[], [], ?_⟩
    intro bs offset
    rw [fillAll, partsAll_nodes]
    simp
  | cons l ls ih =>
    obtain ⟨before, behind, hinner⟩ := ih fun l' hl' => hls l' (List.mem_cons_of_mem _ hl')
    obtain ⟨c, hc⟩ := hls l List.mem_cons_self
    have hblock (bs : List Branch) (offset : Nat) :
        parts ctx ((l.block bs).node offset) =
          if c.holds ctx then partsAll ctx (nodes (offset + Text.bytes l.source) bs) else [] := by
      rw [Layer.block, node, hc]
      rfl
    rcases hholds : c.holds ctx with _ | _
    · refine ⟨partsAll ctx (nodes 0 l.before), partsAll ctx (nodes 0 l.after), ?_⟩
      intro bs offset
      rw [fillAll, partsAll_append_cons, hblock]
      simp [hc, Opened.lets, Element.lets, hholds]
    · refine ⟨partsAll ctx (nodes 0 l.before) ++ before, behind ++ partsAll ctx (nodes 0 l.after),
        ?_⟩
      intro bs offset
      rw [fillAll, partsAll_append_cons, hblock, hinner]
      simp [hc, Opened.lets, Element.lets, hholds]

/-! ### What is said outside of sentences -/

theorem significant_nodes_eq_nil {bs : List Branch} {offset : Nat} :
    significant (nodes offset bs) = [] ↔ bs.all Branch.isBlank := by
  induction bs generalizing offset with
  | nil => simp [significant]
  | cons b bs ih =>
    simp only [significant] at ih
    rw [nodes_cons, significant, List.filter_cons, isBlankText_node, List.all_cons]
    rcases b.isBlank with _ | _
    · simp
    · simpa using ih

theorem isBlank_of_isSentence (b : Branch) (h : b.IsSentence) : b.isBlank = false := by
  cases b with
  | text => cases h
  | var | single | block => rfl

theorem isWrapper_of_isSentence (b : Branch) (h : b.IsSentence) : b.isWrapper = false := by
  rw [isWrapper, h]
  rfl

theorem exists_node_of_isWrapper {b : Branch} (h : b.isWrapper = true) (offset : Nat) :
    ∃ place children, b.node offset = .element .wrapper place children := by
  rw [isWrapper, beq_iff_eq] at h
  cases b with
  | var | text => cases h
  | single s attributes o | block s attributes o c content =>
    cases h
    rw [node, ofOpened]
    exact ⟨_, _, rfl⟩

theorem isWrapper_of_node {b : Branch} {offset : Nat} {place : Place} {children : List Node}
    (h : b.node offset = .element .wrapper place children) : b.isWrapper = true := by
  cases b with
  | var | text => cases h
  | single s attributes o | block s attributes o c content =>
    rw [node] at h
    rcases o with (_ | _ | _ | _) | _
    · rfl
    · cases h
    · cases h
    · cases h
    · cases h

/-- In a wrapper, what stands around a branch is said, or it is nothing but blanks that are
    dropped. -/
theorem exists_passagesAll_unwrapped (ctx : Context) (xs ys : List Branch) (wraps : Bool) :
    ∃ before behind, ∀ b : Branch, b.isBlank = false → b.isWrapper = wraps →
      passagesAll ctx (unwrapped (nodes 0 (xs ++ b :: ys))) =
        before ++ (passages ctx (b.node 0) ++ behind) := by
  have hsignificant (b : Branch) (hb : b.isBlank = false) :
      significant (nodes 0 (xs ++ b :: ys)) =
        significant (nodes 0 xs) ++ b.node (0 + Text.bytes (sourceAll xs)) ::
          significant (nodes (0 + Text.bytes (sourceAll xs) + Text.bytes b.source) ys) := by
    rw [nodes_append, nodes_cons, significant_append_cons]
    rw [isBlankText_node, hb]
  by_cases hdropped : wraps = true ∧ xs.all Branch.isBlank ∧ ys.all Branch.isBlank
  · obtain ⟨hwraps, hxs, hys⟩ := hdropped
    refine ⟨[], [], ?_⟩
    intro b hb hwrapper
    have hs := hsignificant b hb
    obtain ⟨place, children, hnode⟩ := exists_node_of_isWrapper (hwrapper.trans hwraps)
      (0 + Text.bytes (sourceAll xs))
    rw [significant_nodes_eq_nil.2 hxs, significant_nodes_eq_nil.2 hys, hnode] at hs
    rw [← passages_node (0 + Text.bytes (sourceAll xs)) b, hnode, unwrapped_of_significant hs,
      passages]
    simp
  · refine ⟨passagesAll ctx (nodes 0 xs), passagesAll ctx (nodes 0 ys), ?_⟩
    intro b hb hwrapper
    rw [unwrapped_eq_self, passagesAll_append_cons]
    intro place children hs
    rw [hsignificant b hb, List.append_eq_singleton_iff] at hs
    rcases hs with ⟨hxs, hrest⟩ | ⟨-, hrest⟩
    · obtain ⟨hnode, hys⟩ := List.cons.inj hrest
      apply hdropped
      refine ⟨?_, significant_nodes_eq_nil.1 hxs, significant_nodes_eq_nil.1 hys⟩
      rw [← hwrapper]
      exact isWrapper_of_node hnode
    · cases hrest

/-- What is told around something is the same for every sentence. -/
def Framed (told middle : Branch → List Passage) : Prop :=
  ∃ before behind, ∀ b, IsSentence b → told b = before ++ (middle b ++ behind)

section Framed

variable {ctx : Context} {middle : Branch → List Passage} {X : Branch → Branch}

theorem Framed.row (h : Framed (fun b => passages ctx ((X b).node 0)) middle)
    (xs ys : List Branch) :
    Framed (fun b => passagesAll ctx (nodes 0 (xs ++ X b :: ys))) middle := by
  obtain ⟨before, behind, hframe⟩ := h
  refine ⟨passagesAll ctx (nodes 0 xs) ++ before, behind ++ passagesAll ctx (nodes 0 ys), ?_⟩
  intro b hb
  dsimp only at hframe ⊢
  rw [passagesAll_append_cons, hframe b hb]
  simp

theorem Framed.unwrapped (h : Framed (fun b => passages ctx ((X b).node 0)) middle)
    (hX : ∀ b, IsSentence b → (X b).isBlank = false) {wraps : Bool}
    (hwraps : ∀ b, IsSentence b → (X b).isWrapper = wraps) (xs ys : List Branch) :
    Framed (fun b => passagesAll ctx (Node.unwrapped (nodes 0 (xs ++ X b :: ys)))) middle := by
  obtain ⟨before, behind, hframe⟩ := h
  obtain ⟨before', behind', hrow⟩ := exists_passagesAll_unwrapped ctx xs ys wraps
  refine ⟨before' ++ before, behind ++ behind', ?_⟩
  intro b hb
  dsimp only at hframe ⊢
  rw [hrow (X b) (hX b hb) (hwraps b hb), hframe b hb]
  simp

end Framed

/-- **What is told around a sentence** does not depend on what the sentence holds, also
    where a wrapper of everything drops the blanks around it. -/
theorem framed_fillAll (ctx : Context) (left right : List Branch) {ls : List Layer}
    (hls : ∀ l ∈ ls, l.opened = .element .wrapper ∨ ∃ c, l.opened = .element (.conditional c)) :
    (Framed (fun b => passagesAll ctx (nodes 0 (fillAll ls (left ++ b :: right))))
        fun b => if ls.all fun l => l.opened.lets (Condition.holds ctx) then
          passages ctx (b.node 0) else []) ∧
      Framed (fun b => passagesAll ctx (unwrapped (nodes 0 (fillAll ls (left ++ b :: right)))))
        fun b => if ls.all fun l => l.opened.lets (Condition.holds ctx) then
          passages ctx (b.node 0) else [] := by
  induction ls with
  | nil =>
    have hself : Framed (fun b => passages ctx (b.node 0)) fun b => passages ctx (b.node 0) :=
      ⟨[], [], fun b _ => by simp⟩
    constructor
    · exact hself.row left right
    · exact hself.unwrapped isBlank_of_isSentence isWrapper_of_isSentence left right
  | cons l ls ih =>
    obtain ⟨hplain, hwrapped⟩ := ih fun l' hl' => hls l' (List.mem_cons_of_mem _ hl')
    have hblock : Framed
        (fun b => passages ctx ((l.block (fillAll ls (left ++ b :: right))).node 0))
        fun b => if (l :: ls).all fun l => l.opened.lets (Condition.holds ctx) then
          passages ctx (b.node 0) else [] := by
      simp only [Layer.block, node]
      rcases hls l List.mem_cons_self with ho | ⟨c, ho⟩
      · obtain ⟨before, behind, hframe⟩ := hwrapped
        refine ⟨before, behind, ?_⟩
        intro b hb
        simp only [ho, ofOpened, passages, passagesAll_unwrapped_nodes, List.all_cons]
        exact hframe b hb
      · rcases hholds : c.holds ctx with _ | _
        · refine ⟨[], [], ?_⟩
          intro b hb
          simp [ho, ofOpened, passages, Opened.lets, Element.lets, hholds]
        · obtain ⟨before, behind, hframe⟩ := hplain
          refine ⟨before, behind, ?_⟩
          intro b hb
          simp only [ho, ofOpened, passages, passagesAll_nodes, List.all_cons, Opened.lets,
            Element.lets, hholds, Bool.true_and]
          exact hframe b hb
    constructor
    · exact hblock.row l.before l.after
    · apply hblock.unwrapped
      · intro b hb
        rfl
      · intro b hb
        rfl

/-! ### Units -/

theorem all_foldl_take_finished (ps : List Passage) (finished : List Text) (pending : Text) :
    (ps.foldl Units.take ⟨finished, pending⟩).all =
      finished ++ (ps.foldl Units.take ⟨[], pending⟩).all := by
  induction ps generalizing finished pending with
  | nil => simp [Units.all]
  | cons p ps ih =>
    rw [List.foldl_cons, List.foldl_cons]
    cases p with
    | sentence parts =>
      rw [take_sentence, take_sentence, ih, ih (Units.all ⟨[], pending⟩ ++ (unit? parts).toList)]
      simp [Units.all]
    | loose part =>
      have htake (us : List Text) : Units.take ⟨us, pending⟩ (.loose part) =
          ⟨us, (Units.take ⟨[], pending⟩ (.loose part)).pending⟩ := by
        simp only [Units.take, Units.outside]
        split
        · rfl
        · rfl
      rw [htake finished, htake []]
      exact ih _ _

/-- **A sentence makes a unit of its own**, between those of the passages before and behind
    it. -/
theorem layout_sentence (xs ys : List Passage) (ps : List Part) :
    layout (xs ++ .sentence ps :: ys) = layout xs ++ ((unit? ps).toList ++ layout ys) := by
  rw [layout, List.foldl_append, List.foldl_cons, take_sentence, all_foldl_take_finished, layout,
    layout, List.append_assoc]

end Render

end Scenery
