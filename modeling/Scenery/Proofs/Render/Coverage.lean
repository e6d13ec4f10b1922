/-
  Scenery/Proofs/Render/Coverage.lean
  ===================================
  **Nothing in a list is passed over.**  Changing and rendering lists do nothing with a
  node that has no place in a list.  Parsed trees have the shape in which there is no
  such node, so it would make no difference what they did with one
  (`wellshaped_of_parse`).
-/
import Scenery.Proofs.Markup.Shape
import Scenery.Proofs.Render.Splicing

namespace Scenery

/-- The members of a node, with something else for the nodes that should have none. -/
def Member.ofNodeElse (other : Node → List Member) : Node → List Member
  | .entry t p => Member.ofNode (.entry t p)
  | .text raw s => Member.ofNode (.text raw s)
  | n => other n

/-- Members are read from every node of an unconditional list. -/
theorem Member.flatMap_ofNodeElse {children : List Node}
    (h : ∀ n ∈ children, n.isListContent = true) (hcond : children.any Node.isConditional = false)
    (other : Node → List Member) :
    children.flatMap (Member.ofNodeElse other) = Member.ofNodes children := by
  rw [Member.ofNodes, List.flatMap_def, List.flatMap_def]
  congr 1
  apply List.map_congr_left
  intro n hn
  have hcontent := h n hn
  have hncond := List.any_eq_false.1 hcond n hn
  cases n with
  | entry | text => rfl
  | element | var => exact absurd hcontent hncond

namespace Render

mutual
/-- Gathers the members of one node, with something else for the nodes that should have
    none. -/
def gatherElse (other : Gathered → Node → Except EvalError Gathered) (ctx : Context)
    (g : Gathered) : Node → Except EvalError Gathered
  | .element kind place children =>
    match kind with
    | .conditional c =>
      match c.eval ctx with
      | .error e => .error e
      | .ok true => gatherAllElse other ctx g children
      | .ok false => .ok g
    | _ => other g (.element kind place children)
  | .entry t _ => .ok (g.entry t)
  | .text raw _ => .ok (g.text raw)
  | .var path s => other g (.var path s)

def gatherAllElse (other : Gathered → Node → Except EvalError Gathered) (ctx : Context)
    (g : Gathered) : List Node → Except EvalError Gathered
  | [] => .ok g
  | n :: ns =>
    match gatherElse other ctx g n with
    | .error e => .error e
    | .ok g => gatherAllElse other ctx g ns
end

section GatherElse

variable (other : Gathered → Node → Except EvalError Gathered) (ctx : Context)

mutual
theorem gatherElse_eq (n : Node) (h : ∀ m ∈ n.descendants, m.isListContent = true)
    (g : Gathered) : gatherElse other ctx g n = gather ctx g n := by
  cases n with
  | entry | text => rfl
  | var path s => cases h _ List.mem_cons_self
  | element kind place children =>
    rw [Node.descendants] at h
    cases kind with
    | conditional c =>
      have ih := gatherAllElse_eq children (fun m hm => h m (List.mem_cons_of_mem _ hm)) g
      rcases hc : c.eval ctx with e | _ | _
      · simp only [gatherElse, gather, hc]
      · simp only [gatherElse, gather, hc]
      · simp only [gatherElse, gather, hc]
        exact ih
    | wrapper | sentence | list => cases h _ List.mem_cons_self

/-- Members are gathered from every node of a list. -/
theorem gatherAllElse_eq (ns : List Node)
    (h : ∀ m ∈ Node.descendantsOfAll ns, m.isListContent = true) (g : Gathered) :
    gatherAllElse other ctx g ns = gatherAll ctx g ns := by
  cases ns with
  | nil => rfl
  | cons n ns =>
    rw [Node.descendantsOfAll] at h
    have hn := gatherElse_eq n fun m hm => h m (List.mem_append_left _ hm)
    have hns := gatherAllElse_eq ns fun m hm => h m (List.mem_append_right _ hm)
    rw [gatherAllElse, gatherAll, hn]
    rcases gather ctx g n with e | g'
    · rfl
    · exact hns g'
end

end GatherElse

end Render

namespace ListSite

mutual
theorem mem_descendants_of_mem_ofNode {s : ListSite} {opens : Bool} {previous next : Option Node}
    (n : Node) (h : s ∈ ofNode opens previous next n) :
    .element (.list s.name) s.place s.children ∈ n.descendants := by
  cases n with
  | entry | var | text => cases h
  | element kind place children =>
    rw [Node.descendants]
    cases kind with
    | list name =>
      rw [ofNode, List.mem_singleton] at h
      rw [h]
      exact List.mem_cons_self
    | wrapper | sentence | conditional =>
      rw [ofNode] at h
      exact List.mem_cons_of_mem _ (mem_descendants_of_mem_ofNodes children h)

/-- A list that is found stands among the nodes. -/
theorem mem_descendants_of_mem_ofNodes {s : ListSite} {opens : Bool} {previous : Option Node}
    (ns : List Node) (h : s ∈ ofNodes opens previous ns) :
    .element (.list s.name) s.place s.children ∈ Node.descendantsOfAll ns := by
  cases ns with
  | nil => cases h
  | cons n ns =>
    rw [ofNodes] at h
    rw [Node.descendantsOfAll]
    rcases List.mem_append.1 h with h | h
    · exact List.mem_append_left _ (mem_descendants_of_mem_ofNode n h)
    · exact List.mem_append_right _ (mem_descendants_of_mem_ofNodes ns h)
end

theorem mem_descendants_of_mem_all {root : Node} {s : ListSite} (h : s ∈ all root) :
    .element (.list s.name) s.place s.children ∈ root.descendants := by
  have hmem := mem_descendants_of_mem_ofNodes _ h
  cases root with
  | element kind place children => exact List.mem_cons_of_mem _ hmem
  | entry | var | text => cases hmem

end ListSite

/-- **Every parsed tree has the shape that its readers rely on.**  So neither what changes
    lists nor what renders them leaves anything out: whatever they did with a node that has no
    place in a list, the members would be the same.  And a list is taken for a conditional one
    exactly if there is something conditional in it. -/
theorem Node.wellshaped_of_parse {template : Text} {root : Node}
    (hparse : Node.parse template = .ok root) :
    root.Wellshaped ∧
    (∀ name place children, .element (.list name) place children ∈ root.descendants →
      (children.any Node.isConditional = false → ∀ other,
        children.flatMap (Member.ofNodeElse other) = Member.ofNodes children) ∧
      ∀ other ctx g,
        Render.gatherAllElse other ctx g children = Render.gatherAll ctx g children) ∧
    ∀ s ∈ ListSite.all root,
      (s.isConditional = true ↔
        ∃ n ∈ Node.descendantsOfAll s.children, n.isConditional = true) := by
  have hshape := Node.wellshaped hparse
  refine ⟨hshape, ?_, ?_⟩
  · intro name place children h
    have hcontent := hshape.in_list name place children h
    constructor
    · intro hcond other
      apply Member.flatMap_ofNodeElse _ hcond
      intro n hn
      exact hcontent n (Node.mem_descendantsOfAll_self hn)
    · intro other ctx g
      exact Render.gatherAllElse_eq other ctx children hcontent g
  · intro s hs
    exact hshape.conditional_list _ _ _ (ListSite.mem_descendants_of_mem_all hs)

/-- A sentence with a list that depends on a condition, and one with a list that does not. -/
def kennel : Text :=
  ("<s>Here is <il><if cond='open == true'><item>a DOG</item> and </if>" ++
    "<item>a CAT</item></il>.</s>" ++
    "<desc> <desc><s><il>a MAT, <item>2 BOWLS</item></il></s></desc></desc>").toList

/-- The list of the first sentence is a conditional one, and from its nodes none is passed over
    when it is rendered.  That of the second is not, and changing it reads all its nodes. -/
theorem Node.wellshaped_of_parse_of_kennel :
    ∃ root first second, Node.parse kennel = .ok root ∧ root.Wellshaped ∧
      ListSite.all root = [first, second] ∧
      first.isConditional = true ∧
      (∃ n ∈ Node.descendantsOfAll first.children, n.isConditional = true) ∧
      (∀ other ctx g,
        Render.gatherAllElse other ctx g first.children =
          Render.gatherAll ctx g first.children) ∧
      second.isConditional = false ∧
      ∀ other,
        second.children.flatMap (Member.ofNodeElse other) = Member.ofNodes second.children := by
  obtain ⟨root, hparse, hconditional⟩ := Node.exists_parsed kennel
    (fun root => (ListSite.all root).map ListSite.isConditional = [true, false])
    (by decide +kernel)
  obtain ⟨first, rest, hall, hfirst, hrest⟩ := List.map_eq_cons_iff.1 hconditional
  obtain ⟨second, more, hmore, hsecond, hnil⟩ := List.map_eq_cons_iff.1 hrest
  rw [hmore, List.map_eq_nil_iff.1 hnil] at hall
  have hmem (s : ListSite) (hs : s ∈ [first, second]) :
      .element (.list s.name) s.place s.children ∈ root.descendants := by
    apply ListSite.mem_descendants_of_mem_all
    rw [hall]
    exact hs
  obtain ⟨hshape, hlists, hsites⟩ := Node.wellshaped_of_parse hparse
  refine ⟨root, first, second, hparse, hshape, hall, hfirst, ?_, ?_, hsecond, ?_⟩
  · apply (hsites first _).1 hfirst
    rw [hall]
    exact List.mem_cons_self
  · exact (hlists _ _ _ (hmem first List.mem_cons_self)).2
  · apply (hlists _ _ _ (hmem second (List.mem_cons_of_mem _ List.mem_cons_self))).1
    exact hsecond

end Scenery
