/-
  Scenery/Proofs/Markup/Layer.lean
  ================================
  **Places in written templates.**  A place is given by the elements around it,
  outermost first, each with what it holds before and after (`Layer`).  `fillAll` puts
  branches at a place.

  Where a written tree holds some kind of element below others, it is the filling of a
  place (`exists_of_targetsAll`), and what stands around that place can be left as it
  is when the filling changes.
-/
import Scenery.Proofs.Markup.Branch

namespace Scenery

/-- An element that is open around a place, and what it has next to it. -/
structure Layer where
  before : List Branch
  source : Text
  attributes : List Attribute
  opened : Opened
  closing : Text
  after : List Branch

namespace Layer

open Branch

/-- Branches inside an element. -/
def block (l : Layer) (content : List Branch) : Branch :=
  .block l.source l.attributes l.opened l.closing content

/-- Branches inside elements, outermost first. -/
def fillAll : List Layer → List Branch → List Branch
  | [], bs => bs
  | l :: ls, bs => l.before ++ l.block (fillAll ls bs) :: l.after

/-- The tags around a place, innermost first, if there are some around everything. -/
def tagsIn (around : List Tag) : List Layer → List Tag
  | [] => around
  | l :: ls => tagsIn (l.opened.tag :: around) ls

/-- The lexemes in front of a place. -/
def lexemesBefore : List Layer → List Lexeme
  | [] => []
  | l :: ls =>
    lexemesAll l.before ++
      .tag l.source (.opening l.opened.tag l.attributes false) :: lexemesBefore ls

/-- The lexemes behind a place. -/
def lexemesAfter : List Layer → List Lexeme
  | [] => []
  | l :: ls => lexemesAfter ls ++ .tag l.closing (.closing l.opened.tag) :: lexemesAll l.after

/-- The elements around a place may stand as they do. -/
def NestedIn (around : List Tag) : List Layer → Prop
  | [] => True
  | l :: ls =>
    NestedAll around l.before ∧ l.opened.tag.FitsIn around ∧
      Opens l.opened.tag l.attributes l.opened ∧ NestedAll around l.after ∧
      NestedIn (l.opened.tag :: around) ls

theorem lexemesAll_fillAll (ls : List Layer) (bs : List Branch) :
    lexemesAll (fillAll ls bs) = lexemesBefore ls ++ (lexemesAll bs ++ lexemesAfter ls) := by
  induction ls with
  | nil => simp [fillAll, lexemesBefore, lexemesAfter]
  | cons l ls ih =>
    simp only [fillAll, block, lexemesBefore, lexemesAfter, lexemesAll_append, lexemesAll_cons,
      lexemes, ih, List.append_assoc, List.cons_append, List.nil_append]

theorem nestedAll_fillAll {around : List Tag} (ls : List Layer) (bs : List Branch) :
    NestedAll around (fillAll ls bs) ↔ NestedIn around ls ∧ NestedAll (tagsIn around ls) bs := by
  induction ls generalizing around with
  | nil => simp [fillAll, NestedIn, tagsIn]
  | cons l ls ih =>
    simp only [fillAll, block, NestedIn, tagsIn, nestedAll_append, nestedAll_cons, Nested, ih]
    constructor
    · rintro ⟨hb, ⟨hf, ho, hi, hbs⟩, ha⟩
      exact ⟨⟨hb, hf, ho, ha, hi⟩, hbs⟩
    · rintro ⟨⟨hb, hf, ho, ha, hi⟩, hbs⟩
      exact ⟨hb, ⟨hf, ho, hi, hbs⟩, ha⟩

theorem mem_tagsIn_of_mem {around : List Tag} {tag : Tag} (h : tag ∈ around) (ls : List Layer) :
    tag ∈ tagsIn around ls := by
  induction ls generalizing around with
  | nil => exact h
  | cons l ls ih => exact ih (List.mem_cons_of_mem _ h)

end Layer

/-! ### Elements of one kind -/

namespace Branch

/-- What the tags of a branch open. -/
def opened? : Branch → Option Opened
  | .block _ _ o _ _ => some o
  | .single _ _ o => some o
  | .var _ _ _ _ => none
  | .text _ => none

/-- What is between the tags of a branch. -/
def content : Branch → List Branch
  | .block _ _ _ _ bs => bs
  | _ => []

mutual
/-- The outermost elements of some kind at and below a branch. -/
def targets (p : Opened → Bool) : Branch → List Branch
  | .block s attributes o c bs =>
    if p o then [.block s attributes o c bs] else targetsAll p bs
  | .single s attributes o => if p o then [.single s attributes o] else []
  | .var _ _ _ _ => []
  | .text _ => []

/-- The outermost elements of some kind at and below branches. -/
def targetsAll (p : Opened → Bool) : List Branch → List Branch
  | [] => []
  | b :: bs => targets p b ++ targetsAll p bs
end

@[simp] theorem targetsAll_nil (p : Opened → Bool) : targetsAll p [] = [] := by rw [targetsAll]

@[simp] theorem targetsAll_cons (p : Opened → Bool) (b : Branch) (bs : List Branch) :
    targetsAll p (b :: bs) = targets p b ++ targetsAll p bs := by rw [targetsAll]

@[simp] theorem targetsAll_append (p : Opened → Bool) (xs ys : List Branch) :
    targetsAll p (xs ++ ys) = targetsAll p xs ++ targetsAll p ys := by
  induction xs with
  | nil => simp
  | cons x xs ih => simp [ih]

@[simp] theorem targets_text (p : Opened → Bool) (raw : Text) : targets p (.text raw) = [] := by
  rw [targets]

end Branch

namespace Layer

open Branch

/-- The elements of some kind in front of a place. -/
def targetsBefore (p : Opened → Bool) : List Layer → List Branch
  | [] => []
  | l :: ls => targetsAll p l.before ++ targetsBefore p ls

/-- The elements of some kind behind a place. -/
def targetsAfter (p : Opened → Bool) : List Layer → List Branch
  | [] => []
  | l :: ls => targetsAfter p ls ++ targetsAll p l.after

/-- More branches in front of and behind everything. -/
theorem exists_fillAll_between {p : Opened → Bool} (xs ys : List Branch) {ls : List Layer}
    (left : List Branch) (b : Branch) (right : List Branch) (h : ∀ l ∈ ls, p l.opened = false) :
    ∃ ls' left' right',
      xs ++ fillAll ls (left ++ b :: right) ++ ys = fillAll ls' (left' ++ b :: right') ∧
      targetsAll p xs ++ (targetsBefore p ls ++ targetsAll p left) =
        targetsBefore p ls' ++ targetsAll p left' ∧
      targetsAll p right ++ targetsAfter p ls ++ targetsAll p ys =
        targetsAll p right' ++ targetsAfter p ls' ∧
      ∀ l ∈ ls', p l.opened = false := by
  cases ls with
  | nil =>
    refine ⟨[], xs ++ left, right ++ ys, by simp [fillAll], by simp [targetsBefore], ?_, h⟩
    simp [targetsAfter]
  | cons l ls =>
    refine ⟨{ l with before := xs ++ l.before, after := l.after ++ ys } :: ls, left, right, ?_,
      by simp [targetsBefore], by simp [targetsAfter], ?_⟩
    · simp [fillAll, block]
    · intro l' hl'
      rcases List.mem_cons.1 hl' with rfl | hl'
      · exact h l List.mem_cons_self
      · exact h l' (List.mem_cons_of_mem _ hl')

mutual
theorem exists_of_targets {p : Opened → Bool} (br : Branch) {X Y : List Branch} {b : Branch}
    (h : targets p br = X ++ b :: Y) :
    ∃ ls left right, [br] = fillAll ls (left ++ b :: right) ∧
      X = targetsBefore p ls ++ targetsAll p left ∧
      Y = targetsAll p right ++ targetsAfter p ls ∧
      (∀ l ∈ ls, p l.opened = false) ∧ ∃ o, b.opened? = some o ∧ p o = true := by
  cases br with
  | var | text => simp [targets] at h
  | single s attributes o =>
    rw [targets] at h
    by_cases hp : p o
    · rw [if_pos hp] at h
      obtain ⟨rfl, rfl, rfl⟩ : X = [] ∧ b = .single s attributes o ∧ Y = [] := by
        cases X with
        | nil =>
          obtain ⟨hb, hY⟩ := List.cons.inj h
          exact ⟨rfl, hb.symm, hY.symm⟩
        | cons x X => simp at h
      exact ⟨[], [], [], rfl, rfl, rfl, by simp, o, rfl, hp⟩
    · simp [hp] at h
  | block s attributes o c content =>
    rw [targets] at h
    by_cases hp : p o
    · rw [if_pos hp] at h
      obtain ⟨rfl, rfl, rfl⟩ : X = [] ∧ b = .block s attributes o c content ∧ Y = [] := by
        cases X with
        | nil =>
          obtain ⟨hb, hY⟩ := List.cons.inj h
          exact ⟨rfl, hb.symm, hY.symm⟩
        | cons x X => simp at h
      exact ⟨[], [], [], rfl, rfl, rfl, by simp, o, rfl, hp⟩
    · rw [if_neg hp] at h
      obtain ⟨ls, left, right, hbs, hX, hY, hls, hb⟩ := exists_of_targetsAll content h
      refine ⟨⟨[], s, attributes, o, c, []⟩ :: ls, left, right, ?_, ?_, ?_, ?_, hb⟩
      · simp [fillAll, block, hbs]
      · simp [targetsBefore, hX]
      · simp [targetsAfter, hY]
      · intro l hl
        rcases List.mem_cons.1 hl with rfl | hl
        · simpa using hp
        · exact hls l hl

theorem exists_of_targetsAll {p : Opened → Bool} (bs : List Branch) {X Y : List Branch}
    {b : Branch} (h : targetsAll p bs = X ++ b :: Y) :
    ∃ ls left right, bs = fillAll ls (left ++ b :: right) ∧
      X = targetsBefore p ls ++ targetsAll p left ∧
      Y = targetsAll p right ++ targetsAfter p ls ∧
      (∀ l ∈ ls, p l.opened = false) ∧ ∃ o, b.opened? = some o ∧ p o = true := by
  cases bs with
  | nil => simp at h
  | cons br bs =>
    rw [targetsAll_cons] at h
    -- the element stands below a later branch, or below this one
    have hcases : (∃ m, X = targets p br ++ m ∧ targetsAll p bs = m ++ b :: Y) ∨
        ∃ m, targets p br = X ++ b :: m ∧ Y = m ++ targetsAll p bs := by
      rcases List.append_eq_append_iff.1 h with ⟨m, hm, hY⟩ | ⟨m, hm, hY⟩
      · exact .inl ⟨m, hm, hY⟩
      · cases m with
        | nil => exact .inl ⟨[], by simpa using hm.symm, by simpa using hY.symm⟩
        | cons b' m =>
          obtain ⟨rfl, rfl⟩ := List.cons.inj hY
          exact .inr ⟨m, hm, rfl⟩
    rcases hcases with ⟨m, rfl, hm⟩ | ⟨m, hm, rfl⟩
    · obtain ⟨ls, left, right, hbs, hX, hY, hls, hb⟩ := exists_of_targetsAll bs hm
      obtain ⟨ls', left', right', hfill, hbefore, hafter, hls'⟩ :=
        exists_fillAll_between [br] [] left b right hls
      refine ⟨ls', left', right', ?_, ?_, ?_, hls', hb⟩
      · rw [hbs, ← hfill, List.append_nil, List.singleton_append]
      · rw [hX, ← hbefore, targetsAll_cons, targetsAll_nil, List.append_nil]
      · rw [hY, ← hafter, targetsAll_nil, List.append_nil]
    · obtain ⟨ls, left, right, hbr, hX, hY, hls, hb⟩ := exists_of_targets br hm
      obtain ⟨ls', left', right', hfill, hbefore, hafter, hls'⟩ :=
        exists_fillAll_between [] bs left b right hls
      refine ⟨ls', left', right', ?_, ?_, ?_, hls', hb⟩
      · rw [← hfill, ← hbr, List.nil_append, List.singleton_append]
      · rw [hX, ← hbefore, targetsAll_nil, List.nil_append]
      · rw [hY, ← hafter]
end

end Layer

end Scenery
