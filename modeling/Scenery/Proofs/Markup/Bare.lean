/-
  Scenery/Proofs/Markup/Bare.lean
  ===============================
  **Trees in other places.**  Every node knows its place in the template, and what is
  said of a tree is mostly said of it apart from that.  A tree can be put in other
  places by changing all its ranges alike (`Node.relocate`): by a number of bytes
  (`Node.moved`), or away from any place (`Node.bare`).

  The nodes of branches move with the byte where these start (`nodes_moved`), and
  without places they are the same wherever the branches stand (`bareAll_nodes`).
-/
import Scenery.Proofs.Markup.Branch

namespace Scenery

/-- The range a number of bytes further on. -/
def Span.moved (k : Nat) (s : Span) : Span := ⟨k + s.start, k + s.stop⟩

/-- A place with both its ranges changed. -/
def Place.relocate (f : Span → Span) (p : Place) : Place := ⟨f p.span, f p.inner⟩

namespace Node

mutual
/-- A node and what is below it, with all ranges changed. -/
def relocate (f : Span → Span) : Node → Node
  | .element kind place children => .element kind (place.relocate f) (relocateAll f children)
  | .entry t p => .entry t (p.relocate f)
  | .var path s => .var path (f s)
  | .text raw s => .text raw (f s)

/-- Nodes in a row, with all ranges changed. -/
def relocateAll (f : Span → Span) : List Node → List Node
  | [] => []
  | n :: ns => relocate f n :: relocateAll f ns
end

section Relocate

variable (f : Span → Span)

theorem relocateAll_append (xs ys : List Node) :
    relocateAll f (xs ++ ys) = relocateAll f xs ++ relocateAll f ys := by
  induction xs with
  | nil => rfl
  | cons x xs ih => rw [List.cons_append, relocateAll, relocateAll, ih, List.cons_append]

theorem isBlankText_relocate (n : Node) : (n.relocate f).isBlankText = n.isBlankText := by
  cases n <;> rfl

theorem significant_relocateAll (ns : List Node) :
    significant (relocateAll f ns) = relocateAll f (significant ns) := by
  induction ns with
  | nil => rfl
  | cons n ns ih =>
    rw [significant] at ih
    rw [relocateAll, significant, significant, List.filter_cons, List.filter_cons,
      isBlankText_relocate, ih]
    split
    · rfl
    · rfl

theorem unwrapped_relocateAll (ns : List Node) :
    unwrapped (relocateAll f ns) = relocateAll f (unwrapped ns) := by
  rw [unwrapped, significant_relocateAll, unwrapped]
  rcases significant ns with _ | ⟨n, _ | ⟨m, ms⟩⟩
  · rfl
  · cases n with
    | element kind place children => cases kind <;> rfl
    | entry | var | text => rfl
  · cases n with
    | element kind place children => cases kind <;> rfl
    | entry | var | text => rfl

theorem flatMap_rawText_relocateAll (ns : List Node) :
    (relocateAll f ns).flatMap rawText = ns.flatMap rawText := by
  induction ns with
  | nil => rfl
  | cons n ns ih =>
    rw [relocateAll, List.flatMap_cons, List.flatMap_cons, ih]
    cases n <;> rfl

theorem relocate_ofOpened (o : Opened) (place : Place) (children : List Node) :
    (ofOpened o place children).relocate f =
      ofOpened o (place.relocate f) (relocateAll f children) := by
  cases o with
  | entry =>
    rw [ofOpened, ofOpened, flatMap_rawText_relocateAll]
    rfl
  | element kind =>
    cases kind with
    | wrapper =>
      rw [ofOpened, ofOpened, unwrapped_relocateAll]
      rfl
    | sentence | list | conditional => rfl

variable (g : Span → Span)

mutual
theorem relocate_relocate (n : Node) :
    (n.relocate g).relocate f = n.relocate (f ∘ g) := by
  cases n with
  | element kind place children =>
    rw [relocate, relocate, relocate, relocateAll_relocateAll children]
    rfl
  | entry | var | text => rfl

theorem relocateAll_relocateAll (ns : List Node) :
    relocateAll f (relocateAll g ns) = relocateAll (f ∘ g) ns := by
  cases ns with
  | nil => rfl
  | cons n ns =>
    rw [relocateAll, relocateAll, relocateAll, relocate_relocate n, relocateAll_relocateAll ns]
end

end Relocate

/-! ### Trees further on -/

/-- A node and what is below it, a number of bytes further on. -/
def moved (k : Nat) : Node → Node := relocate (Span.moved k)

/-- Nodes in a row, a number of bytes further on. -/
def movedAll (k : Nat) : List Node → List Node := relocateAll (Span.moved k)

theorem movedAll_movedAll (k l : Nat) (ns : List Node) :
    movedAll k (movedAll l ns) = movedAll (k + l) ns := by
  have hspan : Span.moved k ∘ Span.moved l = Span.moved (k + l) := by
    funext s
    simp only [Function.comp, Span.moved, Nat.add_assoc]
  rw [movedAll, movedAll, relocateAll_relocateAll, hspan, movedAll]

/-! ### Trees without places -/

/-- The place of everything in a tree without places. -/
def nowhere : Place := ⟨Span.emptyAt 0, Span.emptyAt 0⟩

mutual
/-- A node and what is below it, without places. -/
def bare : Node → Node
  | .element kind _ children => .element kind nowhere (bareAll children)
  | .entry t _ => .entry t nowhere
  | .var path _ => .var path nowhere.span
  | .text raw _ => .text raw nowhere.span

/-- Nodes in a row, without places. -/
def bareAll : List Node → List Node
  | [] => []
  | n :: ns => bare n :: bareAll ns
end

mutual
theorem bare_eq_relocate (n : Node) : n.bare = n.relocate fun _ => nowhere.span := by
  cases n with
  | element kind place children =>
    rw [bare, relocate, bareAll_eq_relocateAll children]
    rfl
  | entry | var | text => rfl

theorem bareAll_eq_relocateAll (ns : List Node) :
    bareAll ns = relocateAll (fun _ => nowhere.span) ns := by
  cases ns with
  | nil => rfl
  | cons n ns => rw [bareAll, relocateAll, bare_eq_relocate n, bareAll_eq_relocateAll ns]
end

theorem bareAll_append (xs ys : List Node) : bareAll (xs ++ ys) = bareAll xs ++ bareAll ys := by
  simp only [bareAll_eq_relocateAll, relocateAll_append]

theorem unwrapped_bareAll (ns : List Node) : unwrapped (bareAll ns) = bareAll (unwrapped ns) := by
  simp only [bareAll_eq_relocateAll, unwrapped_relocateAll]

/-- Where a tree stands does not matter for the tree without places. -/
theorem bare_moved (k : Nat) (n : Node) : (n.moved k).bare = n.bare := by
  rw [moved, bare_eq_relocate, relocate_relocate, bare_eq_relocate]
  rfl

theorem bareAll_movedAll (k : Nat) (ns : List Node) : bareAll (movedAll k ns) = bareAll ns := by
  rw [movedAll, bareAll_eq_relocateAll, relocateAll_relocateAll, bareAll_eq_relocateAll]
  rfl

end Node

namespace Branch

open Node

mutual
/-- A node moves with its branch. -/
theorem node_moved (k : Nat) (b : Branch) (offset : Nat) :
    b.node (k + offset) = (b.node offset).moved k := by
  cases b with
  | text raw =>
    rw [node, node, Nat.add_assoc]
    rfl
  | var s attributes sc path =>
    rw [node, node, Nat.add_assoc]
    rfl
  | single s attributes o =>
    rw [node, node, moved, relocate_ofOpened, Nat.add_assoc]
    rfl
  | block s attributes o c content =>
    have hcontent := nodes_moved k content (offset + Text.bytes s)
    rw [movedAll] at hcontent
    rw [node, node, moved, relocate_ofOpened, ← hcontent]
    simp only [Place.relocate, Span.moved, Nat.add_assoc]

theorem nodes_moved (k : Nat) (bs : List Branch) (offset : Nat) :
    nodes (k + offset) bs = movedAll k (nodes offset bs) := by
  cases bs with
  | nil => rfl
  | cons b bs =>
    rw [nodes_cons, nodes_cons, node_moved k b, Nat.add_assoc, nodes_moved k bs]
    rfl
end

/-- What a branch is does not depend on where it stands. -/
theorem bare_node (b : Branch) (offset offset' : Nat) :
    (b.node offset).bare = (b.node offset').bare := by
  have h (k : Nat) : (b.node k).bare = (b.node 0).bare := by
    rw [← Nat.add_zero k, node_moved, bare_moved]
  rw [h offset, h offset']

theorem bareAll_nodes (bs : List Branch) (offset offset' : Nat) :
    bareAll (nodes offset bs) = bareAll (nodes offset' bs) := by
  have h (k : Nat) : bareAll (nodes k bs) = bareAll (nodes 0 bs) := by
    rw [← Nat.add_zero k, nodes_moved, bareAll_movedAll]
  rw [h offset, h offset']

end Branch

end Scenery
