/-
  Scenery/Proofs/ItemList/Setting.lean
  ====================================
  **Item lists in written templates.**  A setting is a written tree with one element
  cut out of it, such as a template without one of its lists.  The list that a name
  finds fills a setting (`exists_of_find?`); when something else fills it, or when the
  texts next to the list change, the name still finds the list (`find?_fill`), for that
  depends on the names of the lists before it alone (`Resolves`).
-/
import Scenery.ItemList.Site
import Scenery.Proofs.Markup.Layer

namespace Scenery

/-- The tags of a list have been opened. -/
def Opened.isList : Opened → Bool
  | .element (.list _) => true
  | _ => false

/-- The name of a list that is opened. -/
def Opened.listName? : Opened → Option Text
  | .element (.list name) => name
  | _ => none

namespace Branch

/-- The name of a list. -/
def listName? (b : Branch) : Option Text := b.opened?.bind Opened.listName?

def IsList (b : Branch) : Prop := ∃ o, b.opened? = some o ∧ o.isList = true

/-- A text with nothing but blanks. -/
def isBlank : Branch → Bool
  | .text raw => Text.isAllBlank raw
  | _ => false

theorem isBlankText_node (offset : Nat) (b : Branch) :
    (b.node offset).isBlankText = b.isBlank := by
  cases b with
  | text raw =>
    rw [node]
    rfl
  | var s attributes sc path =>
    rw [node]
    rfl
  | block s attributes o c content =>
    rw [node]
    rcases o with (_ | _ | _ | _) | _ <;> rfl
  | single s attributes o =>
    rw [node]
    rcases o with (_ | _ | _ | _) | _ <;> rfl

theorem targetsAll_item {around : List Tag} {bs : List Branch} (p : Opened → Bool)
    (h : NestedAll (.item :: around) bs) : targetsAll p bs = [] := by
  induction bs with
  | nil => simp
  | cons b bs ih =>
    obtain ⟨hb, hbs⟩ := nestedAll_cons.1 h
    obtain ⟨raw, rfl⟩ := exists_text_of_nested_item hb
    simp [ih hbs]

end Branch

namespace ListSite

open Branch

/-! ### Wrappers -/

theorem ofNode_blank {n : Node} (h : n.isBlankText) (opens : Bool) (previous next : Option Node) :
    ofNode opens previous next n = [] := by
  cases n with
  | text raw s => rfl
  | element | entry | var => simp [Node.isBlankText] at h

theorem ofNodes_blanks {ns : List Node} (h : Node.significant ns = []) (opens : Bool)
    (previous : Option Node) : ofNodes opens previous ns = [] := by
  induction ns generalizing opens previous with
  | nil => rfl
  | cons n ns ih =>
    by_cases hn : n.isBlankText
    · rw [ofNodes, ofNode_blank hn, List.nil_append]
      exact ih (by simpa [Node.significant, hn] using h) _ _
    · simp [Node.significant, hn] at h

/-- A single wrapper with blanks around it has the lists of its content. -/
theorem ofNodes_of_significant {ns children : List Node} {place : Place}
    (h : Node.significant ns = [.element .wrapper place children]) (opens : Bool)
    (previous : Option Node) : ofNodes opens previous ns = ofNodes false none children := by
  induction ns generalizing opens previous with
  | nil => simp [Node.significant] at h
  | cons n ns ih =>
    by_cases hn : n.isBlankText
    · rw [ofNodes, ofNode_blank hn, List.nil_append]
      exact ih (by simpa [Node.significant, hn] using h) _ _
    · have hcons : n = .element .wrapper place children ∧ Node.significant ns = [] := by
        simpa [Node.significant, hn] using h
      rw [ofNodes, ofNodes_blanks hcons.2, List.append_nil, hcons.1]
      rfl

theorem ofNodes_unwrapped (ns : List Node) :
    ofNodes false none (Node.unwrapped ns) = ofNodes false none ns := by
  unfold Node.unwrapped
  split
  · next h => exact (ofNodes_of_significant h false none).symm
  · rfl

theorem all_root (size : Nat) (ns : List Node) :
    all (Node.root size ns) = ofNodes false none ns := by
  unfold Node.root
  split
  · next h => exact (ofNodes_of_significant h false none).symm
  · rfl

/-! ### Names -/

mutual
/-- The names of the lists at and below a branch do not depend on where it stands. -/
theorem map_name_ofNode {around : List Tag} (b : Branch) (h : b.Nested around) (offset : Nat)
    (opens : Bool) (previous next : Option Node) :
    (ofNode opens previous next (b.node offset)).map (·.name) =
      (targets Opened.isList b).map listName? := by
  cases b with
  | text raw =>
    rw [node, targets]
    rfl
  | var s attributes sc path =>
    rw [node, targets]
    rfl
  | single s attributes o =>
    rw [node, targets]
    rcases o with (_ | _ | _ | _) | _ <;> rfl
  | block s attributes o c content =>
    rw [Nested] at h
    obtain ⟨-, -, hcontent⟩ := h
    have ih := fun offset opens => map_name_ofNodes content hcontent offset opens none
    rw [node, targets]
    rcases o with (_ | _ | _ | name) | _
    · simpa [Node.ofOpened, ofNode, Opened.isList, ofNodes_unwrapped] using ih _ _
    · simpa [Node.ofOpened, ofNode, Opened.isList] using ih _ _
    · simpa [Node.ofOpened, ofNode, Opened.isList] using ih _ _
    · rfl
    · have hnone := targetsAll_item Opened.isList hcontent
      simp [Node.ofOpened, ofNode, Opened.isList, hnone]

theorem map_name_ofNodes {around : List Tag} (bs : List Branch) (h : NestedAll around bs)
    (offset : Nat) (opens : Bool) (previous : Option Node) :
    (ofNodes opens previous (nodes offset bs)).map (·.name) =
      (targetsAll Opened.isList bs).map listName? := by
  cases bs with
  | nil => simp [ofNodes]
  | cons b bs =>
    obtain ⟨hb, hbs⟩ := nestedAll_cons.1 h
    rw [nodes_cons, ofNodes, List.map_append, targetsAll_cons, List.map_append,
      map_name_ofNode b hb, map_name_ofNodes bs hbs]
end

/-- A name agrees with the one that is looked up. -/
def agrees (wanted : Text) (name : Option Text) : Bool :=
  match name with
  | some name => Text.asciiLower name == Text.asciiLower wanted
  | none => false

theorem hasName_eq (wanted : Text) (s : ListSite) : hasName wanted s = agrees wanted s.name := rfl

/-- A list is looked up by a name if it has that name and the lists before it do not.
    Without a name the first list is looked up. -/
def Resolves (list : Option Text) (before : List (Option Text)) (name : Option Text) : Prop :=
  match list.bind Text.trimmed? with
  | none => before = []
  | some wanted => agrees wanted name = true ∧ ∀ n ∈ before, agrees wanted n = false

theorem find?_of_resolves {root : Node} {list : Option Text} {A B : List ListSite} {s : ListSite}
    (hall : all root = A ++ s :: B) (h : Resolves list (A.map (·.name)) s.name) :
    find? root list = some s := by
  unfold Resolves at h
  unfold find?
  rcases hl : list.bind Text.trimmed? with _ | wanted
  · simp only [hl, List.map_eq_nil_iff] at h
    simp [hall, h]
  · simp only [hl] at h
    rw [List.find?_eq_some_iff_append]
    refine ⟨h.1, A, B, hall, ?_⟩
    intro a ha
    rw [hasName_eq, h.2 _ (List.mem_map_of_mem ha)]
    rfl

theorem exists_of_find?_eq_some {root : Node} {list : Option Text} {s : ListSite}
    (h : find? root list = some s) :
    ∃ A B, all root = A ++ s :: B ∧ Resolves list (A.map (·.name)) s.name := by
  unfold find? at h
  unfold Resolves
  rcases hl : list.bind Text.trimmed? with _ | wanted
  · simp only [hl] at h
    obtain ⟨B, hB⟩ := List.head?_eq_some_iff.1 h
    exact ⟨[], B, hB, rfl⟩
  · simp only [hl, List.find?_eq_some_iff_append] at h
    obtain ⟨hs, A, B, hall, hA⟩ := h
    refine ⟨A, B, hall, hs, ?_⟩
    intro n hn
    obtain ⟨a, ha, rfl⟩ := List.mem_map.1 hn
    simpa [hasName_eq] using hA a ha

end ListSite

/-! ### Settings -/

/-- Branches with one element cut out of them: the elements around that, and what is
    next to it in the innermost one. -/
structure Setting where
  layers : List Layer
  left : List Branch
  right : List Branch

namespace Setting

open Branch Layer

variable (w : Setting)

/-- The branches with an element at its place. -/
def fill (b : Branch) : List Branch := fillAll w.layers (w.left ++ b :: w.right)

/-- The tags around the element, if there are some around everything. -/
def tagsIn (around : List Tag) : List Tag := Layer.tagsIn around w.layers

/-- What comes before the element. -/
def lexemesBefore : List Lexeme := Layer.lexemesBefore w.layers ++ lexemesAll w.left

/-- What comes after the element. -/
def lexemesAfter : List Lexeme := lexemesAll w.right ++ Layer.lexemesAfter w.layers

def textBefore : Text := Lexeme.sources w.lexemesBefore

def textAfter : Text := Lexeme.sources w.lexemesAfter

/-- The names of the lists before the list. -/
def namesBefore : List (Option Text) :=
  (targetsBefore Opened.isList w.layers ++ targetsAll Opened.isList w.left).map listName?

/-- The names of the lists after the list. -/
def namesAfter : List (Option Text) :=
  (targetsAll Opened.isList w.right ++ targetsAfter Opened.isList w.layers).map listName?

/-- Whether the content of an element comes first in a sentence; `opens` says whether
    the element does. -/
def opensInside (opens : Bool) : Opened → Bool
  | .element .sentence => true
  | .element (.conditional _) => opens
  | _ => false

/-- Whether a place comes first in a sentence; `opens` says whether the outermost
    element around it does but for what stands before it. -/
def opensIn (opens : Bool) : List Layer → Bool
  | [] => opens
  | l :: ls => opensIn (opensInside (opens && l.before.all Branch.isBlank) l.opened) ls

/-- The list opens its sentence. -/
def opens : Bool := opensIn false w.layers && w.left.all Branch.isBlank

/-- The place where the list starts. -/
def offset : Nat := Text.bytes w.textBefore

/-- The place where the innermost element's content starts. -/
def innerOffset : Nat := Text.bytes (Lexeme.sources (Layer.lexemesBefore w.layers))

/-- What comes before the list in its parent. -/
def previous : Option Node := (nodes w.innerOffset w.left).getLast?

/-- A list at its place. -/
def site (b : Branch) : ListSite where
  name := b.listName?
  place := ⟨(b.node w.offset).span, (b.node w.offset).inner⟩
  children := (b.node w.offset).children
  previous := w.previous
  next := (nodes (w.offset + Text.bytes b.source) w.right).head?
  opensSentence := w.opens

theorem lexemesAll_fill (b : Branch) :
    lexemesAll (w.fill b) = w.lexemesBefore ++ (b.lexemes ++ w.lexemesAfter) := by
  simp [fill, lexemesAll_fillAll, lexemesBefore, lexemesAfter]

theorem sourceAll_fill (b : Branch) :
    sourceAll (w.fill b) = w.textBefore ++ (b.source ++ w.textAfter) := by
  simp [sourceAll, lexemesAll_fill, textBefore, textAfter, Branch.source]

theorem nestedAll_fill {around : List Tag} {b : Branch} :
    NestedAll around (w.fill b) ↔
      NestedIn around w.layers ∧ NestedAll (w.tagsIn around) w.left ∧ b.Nested (w.tagsIn around) ∧
        NestedAll (w.tagsIn around) w.right := by
  simp [fill, nestedAll_fillAll, tagsIn]

/-- What stands around the element can be read back and may stand as it does. -/
structure Sound (around : List Tag) (after : Text) : Prop where
  before : Lexeme.Spelled ['<'] w.lexemesBefore
  behind : Lexeme.Spelled after w.lexemesAfter
  layers : NestedIn around w.layers
  left : NestedAll (w.tagsIn around) w.left
  right : NestedAll (w.tagsIn around) w.right

end Setting

namespace Branch

/-- An element can be read back and may stand inside others. -/
structure Stands (around : List Tag) (b : Branch) : Prop where
  nested : b.Nested around
  spelled : Lexeme.Spelled ['<'] b.lexemes

/-- An element ends what comes before it, and starts what comes after it. -/
theorem spelled_append_element {b : Branch} {o : Opened} (hb : b.opened? = some o)
    {before rest : List Lexeme} {after : Text} :
    Lexeme.Spelled after (before ++ (b.lexemes ++ rest)) ↔
      Lexeme.Spelled ['<'] before ∧ Lexeme.Spelled ['<'] b.lexemes ∧ Lexeme.Spelled after rest := by
  cases b with
  | var | text => cases hb
  | single s attributes o' =>
    simp [lexemes, Lexeme.spelled_append_tag]
  | block s attributes o' c content =>
    simp only [lexemes, List.cons_append, List.append_assoc, List.nil_append,
      Lexeme.spelled_append_tag, Lexeme.spelled_tag, Lexeme.spelled_nil, and_true, and_assoc]

end Branch

namespace Setting

open Branch Layer

/-- The parts of a written tree can be judged one by one. -/
theorem sound_and_stands {w : Setting} {b : Branch} {o : Opened} (hb : b.opened? = some o)
    {around : List Tag} {after : Text} :
    (Lexeme.Spelled after (lexemesAll (w.fill b)) ∧ NestedAll around (w.fill b)) ↔
      w.Sound around after ∧ b.Stands (w.tagsIn around) := by
  rw [lexemesAll_fill, spelled_append_element hb, nestedAll_fill]
  constructor
  · rintro ⟨⟨hbefore, hspelled, hbehind⟩, hlayers, hleft, hnested, hright⟩
    exact ⟨⟨hbefore, hbehind, hlayers, hleft, hright⟩, ⟨hnested, hspelled⟩⟩
  · rintro ⟨⟨hbefore, hbehind, hlayers, hleft, hright⟩, ⟨hnested, hspelled⟩⟩
    exact ⟨⟨hbefore, hspelled, hbehind⟩, hlayers, hleft, hnested, hright⟩

end Setting

namespace ListSite

open Branch Layer Setting

theorem exists_ofNodes_append {around : List Tag} (xs : List Branch) (hxs : NestedAll around xs)
    (opens : Bool) (previous : Option Node) (offset : Nat) (ns : List Node) :
    ∃ A, ofNodes opens previous (nodes offset xs ++ ns) =
        A ++ ofNodes (opens && xs.all Branch.isBlank) ((nodes offset xs).getLast?.or previous) ns ∧
      A.map (·.name) = (targetsAll Opened.isList xs).map listName? := by
  induction xs generalizing opens previous offset with
  | nil => exact ⟨[], by simp, by simp⟩
  | cons x xs ih =>
    obtain ⟨hx, hxs⟩ := nestedAll_cons.1 hxs
    obtain ⟨A, hA, hnames⟩ := ih hxs (opens && x.isBlank) (some (x.node offset))
      (offset + Text.bytes x.source)
    refine ⟨ofNode opens previous (nodes (offset + Text.bytes x.source) xs ++ ns).head?
      (x.node offset) ++ A, ?_, ?_⟩
    · rw [nodes_cons, List.cons_append, ofNodes, isBlankText_node, hA, List.append_assoc]
      simp [Bool.and_assoc, List.getLast?_cons]
    · rw [List.map_append, hnames, map_name_ofNode x hx]
      simp

theorem exists_ofNodes_cons {around : List Tag} (n : Node) {bs : List Branch}
    (hbs : NestedAll around bs) (opens : Bool) (previous : Option Node) (offset : Nat) :
    ∃ B, ofNodes opens previous (n :: nodes offset bs) =
        ofNode opens previous (nodes offset bs).head? n ++ B ∧
      B.map (·.name) = (targetsAll Opened.isList bs).map listName? :=
  ⟨_, rfl, map_name_ofNodes bs hbs _ _ _⟩

/-- The lists of an element that is neither a list nor an item are those of its
    content. -/
theorem ofNode_block {l : Layer} (hl : l.opened.tag.forbids .list = false)
    (content : List Branch) (opens : Bool) (previous next : Option Node) (offset : Nat) :
    ofNode opens previous next ((l.block content).node offset) =
      ofNodes (opensInside opens l.opened) none
        (nodes (offset + Text.bytes l.source) content) := by
  rw [Layer.block, node]
  rcases ho : l.opened with (_ | _ | _ | name) | _
  · simp [Node.ofOpened, ofNode, opensInside, ofNodes_unwrapped]
  · simp [Node.ofOpened, ofNode, opensInside]
  · simp [Node.ofOpened, ofNode, opensInside]
  · simp [ho, Opened.tag, Element.tag, Tag.forbids] at hl
  · simp [ho, Opened.tag, Tag.forbids] at hl

theorem exists_ofNodes_fillAll {around : List Tag} (ls : List Layer) (bs : List Branch)
    (h : NestedAll around (fillAll ls bs)) (hfit : Tag.list.FitsIn (tagsIn around ls))
    (opens : Bool) (offset : Nat) :
    ∃ A B, ofNodes opens none (nodes offset (fillAll ls bs)) =
        A ++ (ofNodes (opensIn opens ls) none
          (nodes (offset + Text.bytes (Lexeme.sources (Layer.lexemesBefore ls))) bs) ++ B) ∧
      A.map (·.name) = (targetsBefore Opened.isList ls).map listName? ∧
      B.map (·.name) = (targetsAfter Opened.isList ls).map listName? := by
  induction ls generalizing around opens offset with
  | nil => exact ⟨[], [], by simp [fillAll, opensIn, Layer.lexemesBefore], rfl, rfl⟩
  | cons l ls ih =>
    obtain ⟨hbefore, hrest⟩ := nestedAll_append.1 h
    obtain ⟨hblock, hafter⟩ := nestedAll_cons.1 hrest
    rw [Layer.block, Nested] at hblock
    obtain ⟨-, -, hinner⟩ := hblock
    have hl : l.opened.tag.forbids .list = false :=
      hfit.1 _ (mem_tagsIn_of_mem List.mem_cons_self ls)
    obtain ⟨A₁, hA₁, hnames₁⟩ := exists_ofNodes_append l.before hbefore opens none offset
      (nodes (offset + Text.bytes (sourceAll l.before)) (l.block (fillAll ls bs) :: l.after))
    obtain ⟨A₂, B₂, hB₂, hnamesA₂, hnamesB₂⟩ := ih hinner hfit
      (opensInside (opens && l.before.all Branch.isBlank) l.opened)
      (offset + Text.bytes (sourceAll l.before) + Text.bytes l.source)
    obtain ⟨B₁, hB₁, hnamesB₁⟩ := exists_ofNodes_cons
      ((l.block (fillAll ls bs)).node (offset + Text.bytes (sourceAll l.before))) hafter
      (opens && l.before.all Branch.isBlank) ((nodes offset l.before).getLast?.or none)
      (offset + Text.bytes (sourceAll l.before) + Text.bytes (l.block (fillAll ls bs)).source)
    refine ⟨A₁ ++ A₂, B₂ ++ B₁, ?_, ?_, ?_⟩
    · rw [fillAll, nodes_append, nodes_cons]
      rw [nodes_cons] at hA₁
      rw [hA₁, hB₁, ofNode_block hl, hB₂]
      simp [opensIn, Layer.lexemesBefore, sourceAll, Nat.add_assoc]
    · rw [List.map_append, hnames₁, hnamesA₂, targetsBefore, List.map_append]
    · rw [List.map_append, hnamesB₂, hnamesB₁, targetsAfter, List.map_append]

theorem fitsIn_of_isList {around : List Tag} {b : Branch} (hb : b.IsList)
    (h : b.Nested around) : Tag.list.FitsIn around := by
  obtain ⟨o, ho, hlist⟩ := hb
  have htag : o.tag = .list := by
    rcases o with (_ | _ | _ | name) | _ <;> simp [Opened.isList] at hlist
    rfl
  cases b with
  | var | text => simp [opened?] at ho
  | single s attributes o' =>
    rw [opened?, Option.some.injEq] at ho
    rw [Nested, ho, htag] at h
    exact h.1
  | block s attributes o' c content =>
    rw [opened?, Option.some.injEq] at ho
    rw [Nested, ho, htag] at h
    exact h.1

theorem ofNode_list {b : Branch} (hb : b.IsList) (opens : Bool) (previous next : Option Node)
    (offset : Nat) :
    ofNode opens previous next (b.node offset) =
      [⟨b.listName?, ⟨(b.node offset).span, (b.node offset).inner⟩, (b.node offset).children,
        previous, next, opens⟩] := by
  obtain ⟨o, ho, hlist⟩ := hb
  rcases o with (_ | _ | _ | name) | _ <;> simp [Opened.isList] at hlist
  cases b with
  | var | text => simp [opened?] at ho
  | single s attributes o' =>
    rw [opened?, Option.some.injEq] at ho
    subst ho
    rw [node]
    rfl
  | block s attributes o' c content =>
    rw [opened?, Option.some.injEq] at ho
    subst ho
    rw [node]
    rfl

/-- A list that fills a setting is among the lists of the template, between those
    before and those after it. -/
theorem exists_all_fill (w : Setting) {b : Branch} (hb : b.IsList) (h : NestedAll [] (w.fill b))
    (size : Nat) :
    ∃ A B, all (Node.root size (nodes 0 (w.fill b))) = A ++ w.site b :: B ∧
      A.map (·.name) = w.namesBefore ∧ B.map (·.name) = w.namesAfter := by
  obtain ⟨-, hleft, hnested, hright⟩ := w.nestedAll_fill.1 h
  obtain ⟨A₁, B₁, hB₁, hnamesA₁, hnamesB₁⟩ :=
    exists_ofNodes_fillAll w.layers (w.left ++ b :: w.right) h (fitsIn_of_isList hb hnested) false 0
  obtain ⟨A₂, hA₂, hnamesA₂⟩ := exists_ofNodes_append w.left hleft (opensIn false w.layers) none
    w.innerOffset (nodes (w.innerOffset + Text.bytes (sourceAll w.left)) (b :: w.right))
  obtain ⟨B₂, hB₂, hnamesB₂⟩ := exists_ofNodes_cons (b.node w.offset) hright w.opens w.previous
    (w.offset + Text.bytes b.source)
  have hoffset : w.innerOffset + Text.bytes (sourceAll w.left) = w.offset := by
    simp [innerOffset, Setting.offset, textBefore, Setting.lexemesBefore, sourceAll]
  rw [hoffset, nodes_cons, Option.or_none] at hA₂
  have hsite : A₂ ++ ofNodes (opensIn false w.layers && w.left.all Branch.isBlank) w.previous
      (b.node w.offset :: nodes (w.offset + Text.bytes b.source) w.right) =
        A₂ ++ (w.site b :: B₂) := by
    rw [← Setting.opens, hB₂, ofNode_list hb]
    rfl
  refine ⟨A₁ ++ A₂, B₂ ++ B₁, ?_, ?_, ?_⟩
  · rw [all_root, fill, hB₁, Nat.zero_add, ← innerOffset, nodes_append, nodes_cons, hoffset, hA₂,
      ← Setting.previous, hsite]
    simp
  · rw [List.map_append, hnamesA₁, hnamesA₂, namesBefore, List.map_append]
  · rw [List.map_append, hnamesB₁, hnamesB₂, namesAfter, List.map_append]

theorem exists_of_find? {bs : List Branch} (h : NestedAll [] bs) {size : Nat}
    {list : Option Text} {s : ListSite}
    (hs : find? (Node.root size (nodes 0 bs)) list = some s) :
    ∃ w b, bs = Setting.fill w b ∧ b.IsList ∧ s = w.site b ∧
      Resolves list w.namesBefore b.listName? := by
  obtain ⟨A, B, hall, hr⟩ := exists_of_find?_eq_some hs
  have hnames := map_name_ofNodes bs h 0 false none
  rw [← all_root size, hall] at hnames
  obtain ⟨X, Y', hX, hA, hY'⟩ := List.map_eq_append_iff.1 (hnames.symm.trans List.map_append)
  obtain ⟨b, Y, rfl, -, -⟩ := List.map_eq_cons_iff.1 hY'
  obtain ⟨ls, left, right, rfl, hbefore, -, -, hb⟩ := exists_of_targetsAll bs hX
  obtain ⟨A', B', hall', hA', -⟩ := exists_all_fill ⟨ls, left, right⟩ hb h size
  have hlength : A.length = A'.length := by
    have h1 := congrArg List.length hA
    have h2 := congrArg List.length hA'
    simp only [List.length_map, hbefore] at h1 h2
    rw [← h1, h2, namesBefore, List.length_map]
  rw [Setting.fill, hall] at hall'
  obtain ⟨rfl, hcons⟩ := List.append_inj hall' hlength
  obtain ⟨rfl, -⟩ := List.cons.inj hcons
  exact ⟨⟨ls, left, right⟩, b, rfl, hb, rfl, hA' ▸ hr⟩

/-- A list that fills a setting is found by the name that finds it there. -/
theorem find?_fill {w : Setting} {b : Branch} (hb : b.IsList) (h : NestedAll [] (w.fill b))
    {list : Option Text} (hr : Resolves list w.namesBefore b.listName?) (size : Nat) :
    find? (Node.root size (nodes 0 (w.fill b))) list = some (w.site b) := by
  obtain ⟨A, B, hall, hA, -⟩ := exists_all_fill w hb h size
  exact find?_of_resolves hall (by rw [hA]; exact hr)

end ListSite

end Scenery
