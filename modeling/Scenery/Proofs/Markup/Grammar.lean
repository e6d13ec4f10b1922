/-
  Scenery/Proofs/Markup/Grammar.lean
  ==================================
  **Which tokens make a tree.**  Three things decide it
  (`ofTokens_accepts_grammar`): the tags have to be closed in the reverse order of their
  opening (`WellNested`), each element has to be one that the elements open around it
  allow (`Placed`), and the tags of conditionals and variables have to say what they
  depend on (`Complete`).

  Of a builder nothing matters for this but the tags of its open elements.  `Step` says
  what a token does to them; that is all that taking the token needs (`step_iff`).  The
  tokens taken so far are well nested but for the tags that are still open
  (`PartlyNested`): that invariant, carried through every step, gives one direction, and
  an induction on the nesting gives the other.
-/
import Scenery.Proofs.Markup.Branch
import Scenery.Proofs.Markup.Stack

namespace Scenery

/-! ### The grammar -/

namespace Attribute

/-- The value of the first attribute that has one of the keys. -/
def First (attributes : List Attribute) (keys : List Text) (value : Text) : Prop :=
  ∃ before key after, attributes = before ++ ⟨key, value⟩ :: after ∧ key ∈ keys ∧
    ∀ a ∈ before, a.key ∉ keys

/-- The attributes that give a condition. -/
def conditionKeys : List Text := [['c', 'o', 'n', 'd'], "condition".toList]

/-- The attributes that give the path of a variable. -/
def pathKeys : List Text := [['v'], ['v', 'a', 'l', 'u', 'e']]

end Attribute

/-- What the elements that are open around a tag have to be. -/
structure Tag.Allowed (tag : Tag) (around : List Tag) : Prop where
  /-- Nothing stands in an item. -/
  in_item : .item ∉ around
  in_sentence : .sentence ∈ around → tag ≠ .sentence ∧ tag ≠ .desc
  in_list : .list ∈ around → tag ≠ .list ∧ tag ≠ .sentence ∧ tag ≠ .desc ∧ tag ≠ .var
  /-- An item stands in a list. -/
  item_in_list : tag = .item → .list ∈ around

/-- What the attributes of a tag have to be: a conditional has a condition that can be read,
    and a variable has a path. -/
structure Tag.Complete (tag : Tag) (attributes : List Attribute) : Prop where
  condition : tag = .conditional → ∃ expr c,
    Attribute.First attributes Attribute.conditionKeys expr ∧ Condition.read expr = .ok c
  path : tag = .var → ∃ value,
    Attribute.First attributes Attribute.pathKeys value ∧ Path.isPath (Text.trim value) = true

namespace Token

/-- Each tag that opens an element with content is closed by a tag of the same name, in
    the reverse order, and no other tag is closed. -/
inductive WellNested : List Token → Prop
  | nil : WellNested []
  | text {raw : Text} {span : Span} {rest : List Token} :
    WellNested rest → WellNested (.text raw span :: rest)
  | leaf {tag : Tag} {attributes : List Attribute} {sc : Bool} {span : Span}
    {rest : List Token} : (sc = true ∨ tag = .var) → WellNested rest →
    WellNested (.opening tag attributes sc span :: rest)
  | element {tag : Tag} {attributes : List Attribute} {span closingSpan : Span}
    {content rest : List Token} : tag ≠ .var → WellNested content → WellNested rest →
    WellNested (.opening tag attributes false span ::
      (content ++ .closing tag closingSpan :: rest))

/-- The elements that are open behind a token, innermost first. -/
def openBehind (around : List Tag) : Token → List Tag
  | .opening tag _ sc _ => if sc = true ∨ tag = .var then around else tag :: around
  | .closing _ _ => around.tail
  | .text _ _ => around

/-- The elements that are open behind tokens in a row, innermost first. -/
def openBehindAll (around : List Tag) (tokens : List Token) : List Tag :=
  tokens.foldl openBehind around

/-- Each tag that opens an element is allowed by the elements that are open there. -/
def Placed (around : List Tag) (tokens : List Token) : Prop :=
  ∀ before tag attributes sc span after,
    tokens = before ++ .opening tag attributes sc span :: after →
      tag.Allowed (openBehindAll around before)

/-- Each tag has the attributes that it needs. -/
def Complete (tokens : List Token) : Prop :=
  ∀ tag attributes sc span, .opening tag attributes sc span ∈ tokens → tag.Complete attributes

end Token

/-! ### What one tag needs -/

theorem Attribute.first_iff {attributes : List Attribute} {keys : List Text} {value : Text} :
    First attributes keys value ↔ find? attributes keys = some value := by
  rw [find?, Option.map_eq_some_iff]
  constructor
  · rintro ⟨before, key, after, rfl, hkey, hbefore⟩
    refine ⟨⟨key, value⟩, ?_, rfl⟩
    rw [List.find?_eq_some_iff_append]
    refine ⟨List.contains_iff_mem.2 hkey, before, after, rfl, ?_⟩
    intro a ha
    simpa using hbefore a ha
  · rintro ⟨⟨key, value'⟩, hfind, rfl⟩
    obtain ⟨hkey, before, after, rfl, hbefore⟩ := List.find?_eq_some_iff_append.1 hfind
    refine ⟨before, key, after, rfl, List.contains_iff_mem.1 hkey, ?_⟩
    intro a ha
    simpa using hbefore a ha

theorem Tag.ne_of_forbids {parent tag other : Tag} (h : parent.forbids tag = false)
    (hother : parent.forbids other = true) : tag ≠ other := by
  rintro rfl
  rw [h] at hother
  cases hother

/-- An element is allowed exactly where it fits. -/
theorem Tag.allowed_iff {tag : Tag} {around : List Tag} :
    tag.Allowed around ↔ tag.FitsIn around := by
  constructor
  · rintro ⟨hitem, hsentence, hlist, hin⟩
    refine ⟨?_, hin⟩
    intro parent hparent
    cases parent with
    | item => exact absurd hparent hitem
    | sentence =>
      obtain ⟨hs, hd⟩ := hsentence hparent
      cases tag with
      | sentence => exact absurd rfl hs
      | desc => exact absurd rfl hd
      | conditional | list | item | var => rfl
    | list =>
      obtain ⟨hl, hs, hd, hv⟩ := hlist hparent
      cases tag with
      | list => exact absurd rfl hl
      | sentence => exact absurd rfl hs
      | desc => exact absurd rfl hd
      | var => exact absurd rfl hv
      | conditional | item => rfl
    | desc | conditional | var => rfl
  · rintro ⟨hforbids, hin⟩
    refine ⟨?_, ?_, ?_, hin⟩
    · intro hparent
      cases hforbids _ hparent
    · intro hparent
      have h := hforbids _ hparent
      exact ⟨ne_of_forbids h rfl, ne_of_forbids h rfl⟩
    · intro hparent
      have h := hforbids _ hparent
      exact ⟨ne_of_forbids h rfl, ne_of_forbids h rfl, ne_of_forbids h rfl, ne_of_forbids h rfl⟩

/-- The other tags need no attributes. -/
theorem Tag.complete_of_ne {tag : Tag} {attributes : List Attribute}
    (hconditional : tag ≠ .conditional) (hvar : tag ≠ .var) : tag.Complete attributes where
  condition := fun h => absurd h hconditional
  path := fun h => absurd h hvar

theorem Opened.tag_ne_var (o : Opened) : o.tag ≠ .var := by
  rcases o with (_ | _ | _ | _) | _ <;> nofun

namespace Builder

variable {tag : Tag} {attributes : List Attribute}

theorem exists_conditionalElement_iff (offset : Nat) :
    (∃ e, conditionalElement attributes offset = .ok e) ↔ ∃ expr c,
      Attribute.First attributes Attribute.conditionKeys expr ∧ Condition.read expr = .ok c := by
  unfold conditionalElement
  constructor
  · rintro ⟨e, he⟩
    split at he
    · cases he
    · next expr hexpr =>
      split at he
      · next c hc => exact ⟨expr, c, Attribute.first_iff.2 hexpr, hc⟩
      · cases he
  · rintro ⟨expr, c, hfirst, hc⟩
    have hexpr := Attribute.first_iff.1 hfirst
    rw [Attribute.conditionKeys] at hexpr
    rw [hexpr]
    simp only [hc]
    exact ⟨_, rfl⟩

theorem exists_variableNode_iff (span : Span) :
    (∃ n, variableNode attributes span = .ok n) ↔ ∃ value,
      Attribute.First attributes Attribute.pathKeys value ∧
        Path.isPath (Text.trim value) = true := by
  unfold variableNode
  constructor
  · rintro ⟨n, hn⟩
    split at hn
    · cases hn
    · next value hvalue =>
      split at hn
      · next hpath => exact ⟨value, Attribute.first_iff.2 hvalue, hpath⟩
      · cases hn
  · rintro ⟨value, hfirst, hpath⟩
    have hvalue := Attribute.first_iff.1 hfirst
    rw [Attribute.pathKeys] at hvalue
    rw [hvalue]
    simp only [hpath, if_true]
    exact ⟨_, rfl⟩

theorem exists_map_iff {ε α β : Type} {x : Except ε α} {f : α → β} :
    (∃ y, x.map f = .ok y) ↔ ∃ a, x = .ok a := by
  rcases x with e | a
  · simp [Except.map]
  · simp [Except.map]

/-- A tag comes to something exactly if it has the attributes that it needs. -/
theorem exists_opening_iff (span : Span) :
    (∃ o, opening tag attributes span = .ok o) ↔ tag.Complete attributes := by
  cases tag with
  | desc | sentence | list | item =>
    constructor
    · intro _
      exact Tag.complete_of_ne (by decide) (by decide)
    · intro _
      exact ⟨_, rfl⟩
  | conditional =>
    rw [opening, exists_map_iff, exists_conditionalElement_iff]
    constructor
    · intro h
      exact ⟨fun _ => h, fun hvar => absurd hvar (by decide)⟩
    · intro h
      exact h.condition rfl
  | var =>
    rw [opening, exists_map_iff, exists_variableNode_iff]
    constructor
    · intro h
      exact ⟨fun hconditional => absurd hconditional (by decide), fun _ => h⟩
    · intro h
      exact h.path rfl

end Builder

/-! ### What a token does to the open elements -/

namespace Token

/-- A token can be taken where some elements are open, and leaves some open behind it. -/
inductive Step : List Tag → Token → List Tag → Prop
  | text {around : List Tag} {raw : Text} {span : Span} : Step around (.text raw span) around
  | leaf {around : List Tag} {tag : Tag} {attributes : List Attribute} {sc : Bool} {span : Span} :
    (sc = true ∨ tag = .var) → tag.Allowed around → tag.Complete attributes →
    Step around (.opening tag attributes sc span) around
  | opening {around : List Tag} {tag : Tag} {attributes : List Attribute} {span : Span} :
    tag ≠ .var → tag.Allowed around → tag.Complete attributes →
    Step around (.opening tag attributes false span) (tag :: around)
  | closing {around : List Tag} {tag : Tag} {span : Span} :
    Step (tag :: around) (.closing tag span) around

/-- Tokens can be taken one after the other. -/
inductive Steps : List Tag → List Token → List Tag → Prop
  | nil {around : List Tag} : Steps around [] around
  | cons {around between behind : List Tag} {t : Token} {ts : List Token} :
    Step around t between → Steps between ts behind → Steps around (t :: ts) behind

/-- What is open behind a token follows from the token. -/
theorem Step.openBehind_eq {around behind : List Tag} {t : Token} (h : Step around t behind) :
    t.openBehind around = behind := by
  cases h with
  | text => rfl
  | leaf hleaf => exact if_pos hleaf
  | opening htag => exact if_neg (by simp [htag])
  | closing => rfl

end Token

namespace Builder

open Token

variable {b b' : Builder} {tag : Tag} {attributes : List Attribute} {sc : Bool} {span : Span}

theorem step_of_open (h : b.open_ tag attributes sc span = .ok b') :
    Step b.openTags (.opening tag attributes sc span) b'.openTags := by
  have hcomplete {o : Opening} (ho : Builder.opening tag attributes span = .ok o) :
      tag.Complete attributes := (exists_opening_iff span).1 ⟨o, ho⟩
  rcases Branch.exists_of_open h with ⟨path, rfl, hfit, hreads, rfl⟩ | ⟨o, rfl, hfit, ho, rfl⟩
  · exact .leaf (.inr rfl) (Tag.allowed_iff.2 hfit) (hcomplete (hreads span))
  · cases sc with
    | true => exact .leaf (.inl rfl) (Tag.allowed_iff.2 hfit) (hcomplete (ho span))
    | false =>
      exact .opening (Opened.tag_ne_var o) (Tag.allowed_iff.2 hfit) (hcomplete (ho span))

theorem step_of_close (h : b.close tag span = .ok b') :
    Step b.openTags (.closing tag span) b'.openTags := by
  obtain ⟨frames, nodes⟩ := b
  cases frames with
  | nil => cases h
  | cons frame outer =>
    obtain rfl := Branch.tag_eq_of_close h
    rw [Branch.close_frame] at h
    cases h
    exact .closing

theorem step_of_add {t : Token} (h : b.add t = .ok b') : Step b.openTags t b'.openTags := by
  cases t with
  | text raw s =>
    cases h
    exact .text
  | opening tag attributes sc s => exact step_of_open h
  | closing tag s => exact step_of_close h

theorem exists_open (hallowed : tag.Allowed b.openTags) (hcomplete : tag.Complete attributes)
    (sc : Bool) (span : Span) : ∃ b', b.open_ tag attributes sc span = .ok b' := by
  have hfits := Branch.misplacedIn?_eq_none_iff.2 (Tag.allowed_iff.1 hallowed)
  obtain ⟨o, ho⟩ := (exists_opening_iff span).2 hcomplete
  rw [open_, hfits, ho]
  cases o with
  | leaf n => exact ⟨_, rfl⟩
  | content o =>
    cases sc with
    | true => exact ⟨_, rfl⟩
    | false => exact ⟨_, rfl⟩

theorem exists_add {t : Token} {around : List Tag} (h : Step b.openTags t around) :
    ∃ b', b.add t = .ok b' := by
  obtain ⟨frames, nodes⟩ := b
  generalize htags : Builder.openTags ⟨frames, nodes⟩ = tags at h
  cases h with
  | text => exact ⟨_, rfl⟩
  | leaf _ hallowed hcomplete | opening _ hallowed hcomplete =>
    subst htags
    exact exists_open hallowed hcomplete _ _
  | closing =>
    cases frames with
    | nil => cases htags
    | cons frame outer =>
      cases htags
      exact ⟨_, Branch.close_frame frame outer nodes _⟩

/-- **Whether a builder takes a token depends on the tags of its open elements alone.** -/
theorem step_iff {t : Token} {around : List Tag} :
    Step b.openTags t around ↔ ∃ b', b.add t = .ok b' ∧ b'.openTags = around := by
  constructor
  · intro h
    obtain ⟨b', hb'⟩ := exists_add h
    refine ⟨b', hb', ?_⟩
    rw [← (step_of_add hb').openBehind_eq, h.openBehind_eq]
  · rintro ⟨b', hb', rfl⟩
    exact step_of_add hb'

theorem steps_iff {ts : List Token} {around : List Tag} :
    Steps b.openTags ts around ↔ ∃ b', b.addAll ts = .ok b' ∧ b'.openTags = around := by
  induction ts generalizing b with
  | nil =>
    constructor
    · rintro ⟨⟩
      exact ⟨b, rfl, rfl⟩
    · rintro ⟨b', hb', rfl⟩
      cases hb'
      exact .nil
  | cons t ts ih =>
    constructor
    · rintro (_ | ⟨hstep, hsteps⟩)
      obtain ⟨b₁, hadd, rfl⟩ := step_iff.1 hstep
      obtain ⟨b', hall, htags⟩ := ih.1 hsteps
      exact ⟨b', (Branch.addAll_cons hadd).trans hall, htags⟩
    · rintro ⟨b', hb', htags⟩
      rw [addAll] at hb'
      split at hb'
      · cases hb'
      · next b₁ hadd => exact .cons (step_of_add hadd) (ih.2 ⟨b', hb', htags⟩)

end Builder

namespace Token

/-! ### From the steps to the grammar -/

theorem WellNested.append {xs ys : List Token} (hx : WellNested xs) (hy : WellNested ys) :
    WellNested (xs ++ ys) := by
  induction hx with
  | nil => exact hy
  | text _ ih => exact .text ih
  | leaf hleaf _ ih => exact .leaf hleaf ih
  | element htag hcontent _ _ ih =>
    rw [List.cons_append, List.append_assoc, List.cons_append]
    exact .element htag hcontent ih

/-- Tokens that are well nested but for the opening tags of some elements, innermost first. -/
inductive PartlyNested : List Tag → List Token → Prop
  | nested {ts : List Token} : WellNested ts → PartlyNested [] ts
  | opened {around : List Tag} {before content : List Token} {tag : Tag}
    {attributes : List Attribute} {span : Span} : PartlyNested around before → tag ≠ .var →
    WellNested content →
    PartlyNested (tag :: around) (before ++ .opening tag attributes false span :: content)

variable {around behind : List Tag}

theorem PartlyNested.append {before ts : List Token} (h : PartlyNested around before)
    (hts : WellNested ts) : PartlyNested around (before ++ ts) := by
  cases h with
  | nested hbefore => exact .nested (hbefore.append hts)
  | opened hbefore htag hcontent =>
    rw [List.append_assoc, List.cons_append]
    exact .opened hbefore htag (hcontent.append hts)

/-- **Every token that is taken keeps the tokens well nested but for the open elements.** -/
theorem Step.partlyNested {before : List Token} {t : Token} (hstep : Step around t behind)
    (h : PartlyNested around before) : PartlyNested behind (before ++ [t]) := by
  cases hstep with
  | text => exact h.append (.text .nil)
  | leaf hleaf => exact h.append (.leaf hleaf .nil)
  | opening htag => exact .opened h htag .nil
  | closing =>
    -- what stands behind the innermost opening tag is the content of its element
    cases h with
    | opened hbefore htag hcontent =>
      rw [List.append_assoc, List.cons_append]
      exact hbefore.append (.element htag hcontent .nil)

theorem Steps.partlyNested {before ts : List Token} (hsteps : Steps around ts behind)
    (h : PartlyNested around before) : PartlyNested behind (before ++ ts) := by
  induction hsteps generalizing before with
  | nil =>
    rw [List.append_nil]
    exact h
  | cons hstep _ ih =>
    rw [← List.singleton_append, ← List.append_assoc]
    exact ih (hstep.partlyNested h)

theorem Steps.wellNested {ts : List Token} (h : Steps [] ts []) : WellNested ts := by
  have hpartly := h.partlyNested (.nested .nil)
  cases hpartly with
  | nested hts => exact hts

theorem Steps.openBehindAll_eq {ts : List Token} (h : Steps around ts behind) :
    openBehindAll around ts = behind := by
  induction h with
  | nil => rfl
  | cons hstep _ ih =>
    rw [openBehindAll, List.foldl_cons, hstep.openBehind_eq]
    exact ih

theorem placed_nil : Placed around [] := by
  intro before tag attributes sc span after h
  exact absurd h (by simp)

theorem placed_cons {t : Token} {ts : List Token} :
    Placed around (t :: ts) ↔
      (∀ tag attributes sc span, t = .opening tag attributes sc span → tag.Allowed around) ∧
        Placed (t.openBehind around) ts := by
  constructor
  · intro h
    constructor
    · rintro tag attributes sc span rfl
      exact h [] tag attributes sc span ts rfl
    · rintro before tag attributes sc span after rfl
      exact h (t :: before) tag attributes sc span after rfl
  · rintro ⟨hfirst, hrest⟩ before tag attributes sc span after h
    cases before with
    | nil =>
      cases h
      exact hfirst tag attributes sc span rfl
    | cons t' before =>
      cases h
      exact hrest before tag attributes sc span after rfl

theorem placed_append {xs ys : List Token} :
    Placed around (xs ++ ys) ↔ Placed around xs ∧ Placed (openBehindAll around xs) ys := by
  induction xs generalizing around with
  | nil => exact ⟨fun h => ⟨placed_nil, h⟩, fun h => h.2⟩
  | cons t ts ih =>
    rw [List.cons_append, placed_cons, placed_cons, ih, and_assoc]
    rfl

@[simp] theorem complete_cons {t : Token} {ts : List Token} :
    Complete (t :: ts) ↔
      (∀ tag attributes sc span, .opening tag attributes sc span = t → tag.Complete attributes) ∧
        Complete ts := by
  simp only [Complete, List.mem_cons, or_imp, forall_and]

@[simp] theorem complete_append {xs ys : List Token} :
    Complete (xs ++ ys) ↔ Complete xs ∧ Complete ys := by
  simp only [Complete, List.mem_append, or_imp, forall_and]

theorem Step.placed {t : Token} (h : Step around t behind) :
    ∀ tag attributes sc span, t = .opening tag attributes sc span → tag.Allowed around := by
  intro tag attributes sc span ht
  cases h with
  | text | closing => cases ht
  | leaf _ hallowed | opening _ hallowed =>
    cases ht
    exact hallowed

theorem Step.complete {t : Token} (h : Step around t behind) :
    ∀ tag attributes sc span, .opening tag attributes sc span = t → tag.Complete attributes := by
  intro tag attributes sc span ht
  cases h with
  | text | closing => cases ht
  | leaf _ _ hcomplete | opening _ _ hcomplete =>
    cases ht
    exact hcomplete

theorem Steps.placed {ts : List Token} (h : Steps around ts behind) : Placed around ts := by
  induction h with
  | nil => exact placed_nil
  | cons hstep _ ih =>
    apply placed_cons.2
    rw [hstep.openBehind_eq]
    exact ⟨hstep.placed, ih⟩

theorem Steps.complete {ts : List Token} (h : Steps around ts behind) : Complete ts := by
  induction h with
  | nil => nofun
  | cons hstep _ ih => exact complete_cons.2 ⟨hstep.complete, ih⟩

/-! ### From the grammar to the steps -/

theorem Steps.append {between : List Tag} {xs ys : List Token} (hx : Steps around xs between)
    (hy : Steps between ys behind) : Steps around (xs ++ ys) behind := by
  induction hx with
  | nil => exact hy
  | cons hstep _ ih => exact .cons hstep (ih hy)

/-- Well nested tokens can be taken if each is in its place and has its attributes, and
    they leave open what was open before them. -/
theorem WellNested.steps {ts : List Token} (h : WellNested ts) (hplaced : Placed around ts)
    (hcomplete : Complete ts) : Steps around ts around := by
  induction h generalizing around with
  | nil => exact .nil
  | text _ ih =>
    obtain ⟨-, hplaced⟩ := placed_cons.1 hplaced
    obtain ⟨-, hcomplete⟩ := complete_cons.1 hcomplete
    exact .cons .text (ih hplaced hcomplete)
  | @leaf tag attributes sc span rest hleaf _ ih =>
    obtain ⟨hfirst, hplaced⟩ := placed_cons.1 hplaced
    obtain ⟨hattributes, hcomplete⟩ := complete_cons.1 hcomplete
    have hstep : Step around (.opening tag attributes sc span) around :=
      .leaf hleaf (hfirst _ _ _ _ rfl) (hattributes _ _ _ _ rfl)
    rw [hstep.openBehind_eq] at hplaced
    exact .cons hstep (ih hplaced hcomplete)
  | @element tag attributes span _ _ _ htag _ _ ihcontent ihrest =>
    obtain ⟨hfirst, hplaced⟩ := placed_cons.1 hplaced
    obtain ⟨hattributes, hcomplete⟩ := complete_cons.1 hcomplete
    have hstep : Step around (.opening tag attributes false span) (tag :: around) :=
      .opening htag (hfirst _ _ _ _ rfl) (hattributes _ _ _ _ rfl)
    rw [hstep.openBehind_eq] at hplaced
    obtain ⟨hplacedContent, hplaced⟩ := placed_append.1 hplaced
    obtain ⟨hcompleteContent, hcomplete⟩ := complete_append.1 hcomplete
    -- behind its content the element is the innermost one again, so its closing tag fits
    have hcontent := ihcontent hplacedContent hcompleteContent
    rw [hcontent.openBehindAll_eq] at hplaced
    obtain ⟨-, hplaced⟩ := placed_cons.1 hplaced
    obtain ⟨-, hcomplete⟩ := complete_cons.1 hcomplete
    have hrest := ihrest hplaced hcomplete
    exact .cons hstep (hcontent.append (.cons .closing hrest))

theorem steps_nil_iff {ts : List Token} :
    Steps [] ts [] ↔ WellNested ts ∧ Placed [] ts ∧ Complete ts := by
  constructor
  · intro h
    exact ⟨h.wellNested, h.placed, h.complete⟩
  · rintro ⟨hnested, hplaced, hcomplete⟩
    exact hnested.steps hplaced hcomplete

end Token

namespace Node

theorem exists_ofTokens_iff (size : Nat) (tokens : List Token) :
    (∃ root, ofTokens size tokens = .ok root) ↔ Token.Steps [] tokens [] := by
  have hsteps : Token.Steps [] tokens [] ↔
      ∃ b, Builder.addAll {} tokens = .ok b ∧ b.openTags = [] :=
    @Builder.steps_iff {} tokens []
  rw [hsteps, ofTokens]
  constructor
  · rintro ⟨root, hroot⟩
    split at hroot
    · cases hroot
    · next b hb =>
      split at hroot
      · cases hroot
      · next hframes => exact ⟨b, hb, List.map_eq_nil_iff.2 hframes⟩
  · rintro ⟨b, hb, htags⟩
    rw [hb]
    simp only [List.map_eq_nil_iff.1 htags]
    exact ⟨_, rfl⟩

/-- **Exactly the tokens of the grammar make a tree**: those that are well nested, each in its
    place and with its attributes.  Building it takes no level off a stack that has none. -/
theorem ofTokens_accepts_grammar (size : Nat) (tokens : List Token) :
    ((∃ root, ofTokens size tokens = .ok root) ↔
        Token.WellNested tokens ∧ Token.Placed [] tokens ∧ Token.Complete tokens) ∧
      Stack.build size tokens = (ofTokens size tokens).mapError Halt.fault ∧
      Stack.build size tokens ≠ .error .unreachable := by
  refine ⟨?_, Stack.build_eq size tokens, ?_⟩
  · rw [exists_ofTokens_iff, Token.steps_nil_iff]
  · rw [Stack.build_eq]
    rcases ofTokens size tokens with e | root
    · nofun
    · nofun

end Node

end Scenery
