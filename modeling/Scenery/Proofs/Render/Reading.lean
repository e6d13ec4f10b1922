/-
  Scenery/Proofs/Render/Reading.lean
  ==================================
  **Reading a tree in a context.**  What is shown of a tree are its nodes but for those
  under a condition that does not hold (`Node.shown`).  Some of them ask something of
  the context, and what it cannot answer is a fault (`Node.faults`).  The others say
  something: a sentence says parts, words and lists, and outside of sentences parts
  stand by themselves (`passages`).

  Rendering is the one or the other (`units_eq`): the first fault in the order of the
  template, or what the passages come to if there is no fault.
-/
import Scenery.Proofs.Render.Members
import Scenery.Proofs.Render.Splicing

namespace Scenery

/-! ### What is shown -/

/-- An element lets through what it holds, unless it is a conditional that fails a test. -/
def Element.lets (test : Condition → Bool) : Element → Bool
  | .conditional c => test c
  | _ => true

/-- What a node asks of the context: whether a condition holds, or the value of a
    variable. -/
inductive Query where
  | condition (c : Condition)
  | value (path : Text)
  deriving DecidableEq, Repr

namespace Query

/-- The path that is looked up. -/
def path : Query → Text
  | .condition c => c.path
  | .value path => path

/-- Why the context has no answer, if it has none. -/
def fault? (ctx : Context) : Query → Option EvalError
  | .condition c =>
    match c.eval ctx with
    | .error e => some e
    | .ok _ => none
  | .value path =>
    match ctx.get? path with
    | some _ => none
    | none => some (.unknownPath path)

end Query

namespace Node

mutual
/-- A node and what is shown below it, in the order of the template: everything but what
    stands under a condition that fails a test. -/
def shown (test : Condition → Bool) : Node → List Node
  | .element kind place children =>
    .element kind place children :: (if kind.lets test then shownAll test children else [])
  | .entry t p => [.entry t p]
  | .var path s => [.var path s]
  | .text t s => [.text t s]

/-- What is shown of nodes in a row. -/
def shownAll (test : Condition → Bool) : List Node → List Node
  | [] => []
  | n :: ns => shown test n ++ shownAll test ns
end

mutual
/-- What is shown stands in the tree. -/
theorem shown_sublist (test : Condition → Bool) (n : Node) :
    (n.shown test).Sublist n.descendants := by
  cases n with
  | element kind place children =>
    rw [shown, descendants]
    apply List.Sublist.cons_cons
    split
    · exact shownAll_sublist test children
    · exact List.nil_sublist _
  | entry | var | text => exact List.Sublist.refl _

theorem shownAll_sublist (test : Condition → Bool) (ns : List Node) :
    (shownAll test ns).Sublist (descendantsOfAll ns) := by
  cases ns with
  | nil => exact List.Sublist.refl _
  | cons n ns =>
    rw [shownAll, descendantsOfAll]
    exact (shown_sublist test n).append (shownAll_sublist test ns)
end

def query? : Node → Option Query
  | .element (.conditional c) _ _ => some (.condition c)
  | .var path _ => some (.value path)
  | _ => none

/-- What is asked by the nodes that are shown, in the order of the template. -/
def queries (test : Condition → Bool) (n : Node) : List Query :=
  (n.shown test).filterMap query?

def queriesAll (test : Condition → Bool) (ns : List Node) : List Query :=
  (shownAll test ns).filterMap query?

/-- What a context cannot answer of that, in the order of the template. -/
def faults (ctx : Context) (n : Node) : List EvalError :=
  (n.queries (Condition.holds ctx)).filterMap (Query.fault? ctx)

def faultsAll (ctx : Context) (ns : List Node) : List EvalError :=
  (queriesAll (Condition.holds ctx) ns).filterMap (Query.fault? ctx)

section Queries

variable (test : Condition → Bool)

@[simp] theorem queriesAll_nil : queriesAll test [] = [] := rfl

@[simp] theorem queriesAll_cons (n : Node) (ns : List Node) :
    queriesAll test (n :: ns) = n.queries test ++ queriesAll test ns := by
  simp [queriesAll, queries, shownAll]

@[simp] theorem queries_entry (t : Text) (p : Place) : queries test (.entry t p) = [] := rfl

@[simp] theorem queries_text (t : Text) (s : Span) : queries test (.text t s) = [] := rfl

@[simp] theorem queries_var (path : Text) (s : Span) :
    queries test (.var path s) = [.value path] := rfl

@[simp] theorem queries_conditional (c : Condition) (place : Place) (children : List Node) :
    queries test (.element (.conditional c) place children) =
      .condition c :: if test c then queriesAll test children else [] := by
  rw [queries, shown, Element.lets]
  split <;> rfl

@[simp] theorem queries_wrapper (place : Place) (children : List Node) :
    queries test (.element .wrapper place children) = queriesAll test children := rfl

@[simp] theorem queries_sentence (place : Place) (children : List Node) :
    queries test (.element .sentence place children) = queriesAll test children := rfl

@[simp] theorem queries_list (name : Option Text) (place : Place) (children : List Node) :
    queries test (.element (.list name) place children) = queriesAll test children := rfl

end Queries

section Faults

variable (ctx : Context)

@[simp] theorem faultsAll_nil : faultsAll ctx [] = [] := rfl

@[simp] theorem faultsAll_cons (n : Node) (ns : List Node) :
    faultsAll ctx (n :: ns) = n.faults ctx ++ faultsAll ctx ns := by
  simp [faultsAll, faults]

@[simp] theorem faults_entry (t : Text) (p : Place) : faults ctx (.entry t p) = [] := rfl

@[simp] theorem faults_text (t : Text) (s : Span) : faults ctx (.text t s) = [] := rfl

@[simp] theorem faults_wrapper (place : Place) (children : List Node) :
    faults ctx (.element .wrapper place children) = faultsAll ctx children := rfl

@[simp] theorem faults_sentence (place : Place) (children : List Node) :
    faults ctx (.element .sentence place children) = faultsAll ctx children := rfl

@[simp] theorem faults_list (name : Option Text) (place : Place) (children : List Node) :
    faults ctx (.element (.list name) place children) = faultsAll ctx children := rfl

variable {ctx}

theorem faults_var {path : Text} {v : Value} (h : ctx.get? path = some v) (s : Span) :
    faults ctx (.var path s) = [] := by
  simp [faults, Query.fault?, h]

theorem faults_var_of_none {path : Text} (h : ctx.get? path = none) (s : Span) :
    faults ctx (.var path s) = [.unknownPath path] := by
  simp [faults, Query.fault?, h]

theorem faults_conditional {c : Condition} {b : Bool} (h : c.eval ctx = .ok b) (place : Place)
    (children : List Node) :
    faults ctx (.element (.conditional c) place children) =
      if b then faultsAll ctx children else [] := by
  cases b <;> simp [faults, faultsAll, Condition.holds_of_eval h, Query.fault?, h]

theorem faults_conditional_of_error {c : Condition} {e : EvalError} (h : c.eval ctx = .error e)
    (place : Place) (children : List Node) :
    faults ctx (.element (.conditional c) place children) = [e] := by
  simp [faults, Condition.holds, Query.fault?, h]

end Faults

end Node

namespace Render

open Node

/-- The first of some faults, or a value if there is none. -/
def answer {α : Type} : List EvalError → α → Except EvalError α
  | [], a => .ok a
  | e :: _, _ => .error e

@[simp] theorem answer_nil {α : Type} (a : α) : answer [] a = .ok a := rfl

@[simp] theorem answer_cons {α : Type} (e : EvalError) (es : List EvalError) (a : α) :
    answer (e :: es) a = .error e := rfl

theorem map_answer {α β : Type} (f : α → β) (es : List EvalError) (a : α) :
    (answer es a).map f = answer es (f a) := by
  cases es <;> rfl

theorem answer_eq_ok {α : Type} {es : List EvalError} {a b : α} :
    answer es a = .ok b ↔ es = [] ∧ a = b := by
  cases es <;> simp

/-! ### What is said -/

/-- A part of what is said: some words, or the members of a list. -/
inductive Part where
  | words (t : Text)
  | members (ms : List Text)
  deriving DecidableEq, Repr

namespace Part

def text : Part → Text
  | .words t => t
  | .members ms => Prose.join ms

/-- The part is no list without members. -/
def isFull : Part → Bool
  | .words _ => true
  | .members ms => !ms.isEmpty

end Part

/-- The text of parts, and whether all lists among them have members. -/
def Inline.ofParts (ps : List Part) : Inline := ⟨ps.flatMap Part.text, ps.all Part.isFull⟩

theorem Inline.ofParts_append (ps qs : List Part) :
    Inline.ofParts (ps ++ qs) = (Inline.ofParts ps).append (Inline.ofParts qs) := by
  simp [Inline.ofParts, Inline.append]

mutual
/-- The parts that a node in a sentence says. -/
def parts (ctx : Context) : Node → List Part
  | .element kind _ children =>
    match kind with
    | .conditional c => if c.holds ctx then partsAll ctx children else []
    | .list _ => [.members (woven [] (spliceAll (Condition.holds ctx) children))]
    | .wrapper => partsAll ctx children
    | .sentence => partsAll ctx children
  | .entry t _ => [.words t]
  | .var path _ =>
    match ctx.get? path with
    | some v => [.words v.display]
    | none => []
  | .text raw _ => [.words raw]

/-- The parts that nodes in a sentence say. -/
def partsAll (ctx : Context) : List Node → List Part
  | [] => []
  | n :: ns => parts ctx n ++ partsAll ctx ns
end

/-- What stands outside of sentences, or a sentence. -/
inductive Passage where
  | sentence (ps : List Part)
  | loose (p : Part)
  deriving DecidableEq, Repr

mutual
/-- The passages of a node outside of sentences. -/
def passages (ctx : Context) : Node → List Passage
  | .element kind _ children =>
    match kind with
    | .wrapper => passagesAll ctx children
    | .conditional c => if c.holds ctx then passagesAll ctx children else []
    | .sentence => [.sentence (partsAll ctx children)]
    | .list _ => [.loose (.members (woven [] (spliceAll (Condition.holds ctx) children)))]
  | .entry t _ => [.loose (.words t)]
  | .var path _ =>
    match ctx.get? path with
    | some v => [.loose (.words v.display)]
    | none => []
  | .text raw _ => [.loose (.words raw)]

/-- The passages of nodes outside of sentences. -/
def passagesAll (ctx : Context) : List Node → List Passage
  | [] => []
  | n :: ns => passages ctx n ++ passagesAll ctx ns
end

/-- Takes a passage. -/
def Units.take (u : Units) : Passage → Units
  | .sentence ps => u.sentence (.ofParts ps)
  | .loose p => u.outside (.ofParts [p])

/-- The units of passages. -/
def layout (ps : List Passage) : List Text := (ps.foldl Units.take {}).all

/-- The unit that a sentence makes: its text without the blanks around it, if there is any
    and every list in it has members. -/
def unit? (ps : List Part) : Option Text :=
  if ps.all Part.isFull then Text.trimmed? (ps.flatMap Part.text) else none

/-- A sentence ends the units before it and makes one of its own. -/
theorem take_sentence (u : Units) (ps : List Part) :
    u.take (.sentence ps) = ⟨u.all ++ (unit? ps).toList, []⟩ := rfl

/-! ### Lists -/

mutual
/-- In a list a node that is reached is what it stands for. -/
theorem reached_node {around : List Tag} (hlist : .list ∈ around) (ctx : Context) (b : Branch)
    (h : b.Nested around) (offset : Nat) :
    reached ctx (b.node offset) =
      answer ((b.node offset).faults ctx) ((b.node offset).splice (Condition.holds ctx)) := by
  cases b with
  | text raw =>
    rw [Branch.node]
    rfl
  | var s attributes sc path =>
    rw [Branch.Nested] at h
    exact absurd (h.1.1 .list hlist) (by simp [Tag.forbids])
  | single s attributes o =>
    rw [Branch.Nested] at h
    rw [Branch.node]
    rcases Branch.opened_of_fitsIn_list hlist h.1 with rfl | ⟨c, rfl⟩
    · rfl
    · rcases hc : c.eval ctx with e | _ | _
      · simp [ofOpened, reached, hc, faults_conditional_of_error hc]
      · simp [ofOpened, reached, splice, hc, faults_conditional hc, Condition.holds_of_eval hc]
      · simp [ofOpened, reached, reachedAll, splice, spliceAll, hc, faults_conditional hc]
  | block s attributes o closing content =>
    rw [Branch.Nested] at h
    rw [Branch.node]
    rcases Branch.opened_of_fitsIn_list hlist h.1 with rfl | ⟨c, rfl⟩
    · rfl
    · have ih := reachedAll_nodes (List.mem_cons_of_mem _ hlist) ctx content h.2.2
        (offset + Text.bytes s)
      rcases hc : c.eval ctx with e | _ | _
      · simp [ofOpened, reached, hc, faults_conditional_of_error hc]
      · simp [ofOpened, reached, splice, hc, faults_conditional hc, Condition.holds_of_eval hc]
      · simp [ofOpened, reached, splice, hc, faults_conditional hc, Condition.holds_of_eval hc, ih]

theorem reachedAll_nodes {around : List Tag} (hlist : .list ∈ around) (ctx : Context)
    (bs : List Branch) (h : Branch.NestedAll around bs) (offset : Nat) :
    reachedAll ctx (Branch.nodes offset bs) =
      answer (faultsAll ctx (Branch.nodes offset bs))
        (spliceAll (Condition.holds ctx) (Branch.nodes offset bs)) := by
  cases bs with
  | nil =>
    rw [Branch.nodes_nil, reachedAll]
    rfl
  | cons b bs =>
    obtain ⟨hb, hbs⟩ := Branch.nestedAll_cons.1 h
    have hfirst := reached_node hlist ctx b hb offset
    have hrest := reachedAll_nodes hlist ctx bs hbs (offset + Text.bytes b.source)
    rw [Branch.nodes_cons, reachedAll, hfirst, hrest, faultsAll_cons, spliceAll]
    rcases (b.node offset).faults ctx with _ | ⟨e, es⟩
    · rcases faultsAll ctx (Branch.nodes (offset + Text.bytes b.source) bs) with _ | ⟨e, es⟩
      · rfl
      · rfl
    · rfl
end

theorem listMembers_eq_answer {children : List Node} (h : ListContent children) (ctx : Context) :
    listMembers ctx children =
      answer (faultsAll ctx children) (woven [] (spliceAll (Condition.holds ctx) children)) := by
  obtain ⟨around, offset, bs, rfl, hnested, -⟩ := h
  rw [listMembers_eq, reachedAll_nodes List.mem_cons_self ctx bs hnested, map_answer]

/-! ### Sentences -/

mutual
/-- The text of a node in a sentence is the text of its parts, unless it has a fault. -/
theorem inline_eq (ctx : Context) (n : Node) (h : ListsIn n.descendants) :
    inline ctx n = answer (n.faults ctx) (.ofParts (parts ctx n)) := by
  cases n with
  | entry t p | text raw s => simp [inline, parts, Inline.ofParts, Part.text, Part.isFull]
  | var path s =>
    rcases hv : ctx.get? path with _ | v
    · simp [inline, hv, faults_var_of_none hv]
    · simp [inline, parts, hv, faults_var hv, Inline.ofParts, Part.text, Part.isFull]
  | element kind place children =>
    cases kind with
    | list name =>
      have hcontent : ListContent children := h name place children (by simp [descendants])
      rw [inline_list, listMembers_eq_answer hcontent, map_answer]
      simp [parts, Inline.ofParts, Part.text, Part.isFull]
    | wrapper | sentence =>
      rw [descendants, listsIn_cons rfl] at h
      simp only [inline, parts]
      exact inlineAll_eq ctx children h
    | conditional c =>
      rw [descendants, listsIn_cons rfl] at h
      rw [inline, parts]
      rcases hc : c.eval ctx with e | _ | _
      · rw [faults_conditional_of_error hc]
        rfl
      · simp [faults_conditional hc, Condition.holds_of_eval hc, Inline.ofParts]
      · rw [faults_conditional hc, Condition.holds_of_eval hc, if_pos rfl, if_pos rfl]
        exact inlineAll_eq ctx children h

theorem inlineAll_eq (ctx : Context) (ns : List Node) (h : ListsIn (descendantsOfAll ns)) :
    inlineAll ctx ns = answer (faultsAll ctx ns) (.ofParts (partsAll ctx ns)) := by
  cases ns with
  | nil =>
    rw [inlineAll]
    rfl
  | cons n ns =>
    rw [descendantsOfAll] at h
    have hfirst := inline_eq ctx n fun name place children hmem =>
      h name place children (List.mem_append_left _ hmem)
    have hrest := inlineAll_eq ctx ns fun name place children hmem =>
      h name place children (List.mem_append_right _ hmem)
    rw [inlineAll, hfirst, hrest, faultsAll_cons, partsAll, Inline.ofParts_append]
    rcases n.faults ctx with _ | ⟨e, es⟩
    · rcases faultsAll ctx ns with _ | ⟨e, es⟩
      · rfl
      · rfl
    · rfl
end

/-! ### Templates -/

mutual
/-- What is collected of a node are its passages, unless it has a fault. -/
theorem collect_eq (ctx : Context) (n : Node) (h : ListsIn n.descendants) (u : Units) :
    collect ctx u n = answer (n.faults ctx) ((passages ctx n).foldl Units.take u) := by
  cases n with
  | entry t p | text raw s =>
    rw [collect, inline_eq ctx _ h, map_answer]
    simp [passages, parts, Units.take]
  | var path s =>
    rw [collect, inline_eq ctx _ h, map_answer]
    rcases hv : ctx.get? path with _ | v
    · simp [faults_var_of_none hv]
    · simp [parts, passages, hv, Units.take]
  | element kind place children =>
    cases kind with
    | list name =>
      rw [collect, inline_eq ctx _ h, map_answer]
      simp [passages, parts, Units.take]
    | sentence =>
      rw [descendants, listsIn_cons rfl] at h
      rw [collect, inlineAll_eq ctx children h, map_answer]
      simp [passages, Units.take]
    | wrapper =>
      rw [descendants, listsIn_cons rfl] at h
      simp only [collect, passages]
      exact collectAll_eq ctx children h u
    | conditional c =>
      rw [descendants, listsIn_cons rfl] at h
      rw [collect, passages]
      rcases hc : c.eval ctx with e | _ | _
      · rw [faults_conditional_of_error hc]
        rfl
      · simp [faults_conditional hc, Condition.holds_of_eval hc]
      · rw [faults_conditional hc, Condition.holds_of_eval hc, if_pos rfl, if_pos rfl]
        exact collectAll_eq ctx children h u

theorem collectAll_eq (ctx : Context) (ns : List Node) (h : ListsIn (descendantsOfAll ns))
    (u : Units) :
    collectAll ctx u ns = answer (faultsAll ctx ns) ((passagesAll ctx ns).foldl Units.take u) := by
  cases ns with
  | nil =>
    rw [collectAll]
    rfl
  | cons n ns =>
    rw [descendantsOfAll] at h
    have hfirst := collect_eq ctx n (fun name place children hmem =>
      h name place children (List.mem_append_left _ hmem)) u
    have hrest := collectAll_eq ctx ns fun name place children hmem =>
      h name place children (List.mem_append_right _ hmem)
    rw [collectAll, hfirst, faultsAll_cons, passagesAll, List.foldl_append]
    rcases n.faults ctx with _ | ⟨e, es⟩
    · exact hrest _
    · rfl
end

theorem listsIn_of_parse {template : Text} {root : Node} (hparse : Node.parse template = .ok root) :
    ListsIn root.descendants := by
  obtain ⟨bs, ⟨hspelled, hnested⟩, -, rfl⟩ := Branch.exists_of_parse hparse
  exact listsIn_root (Branch.listsIn_nodes bs hnested hspelled 0)

/-- **Rendering gives the first fault, or what the passages come to.** -/
theorem units_eq {template : Text} {root : Node} (hparse : Node.parse template = .ok root)
    (ctx : Context) : units ctx root = answer (root.faults ctx) (layout (passages ctx root)) := by
  rw [units, collect_eq ctx _ (listsIn_of_parse hparse), map_answer]
  rfl

theorem tree_eq {template : Text} {root : Node} (hparse : Node.parse template = .ok root)
    (ctx : Context) :
    tree ctx root = answer (root.faults ctx) ([' '].intercalate (layout (passages ctx root))) := by
  rw [tree, units_eq hparse, map_answer]

theorem render_eq {template : Text} {root : Node} (hparse : Node.parse template = .ok root)
    (ctx : Context) : render template ctx = (tree ctx root).mapError RenderError.eval := by
  rw [render, hparse]
  simp only
  rcases tree ctx root with e | t
  · rfl
  · rfl

end Render

end Scenery
