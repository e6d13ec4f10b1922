/-
  Scenery/Proofs/ItemList/Fork.lean
  =================================
  **Two lists in one template.**  A fork is a written tree with two elements cut out of
  it, one behind the other (`Fork`).  With one of them put back it is the setting of the
  other (`atFirst`, `atSecond`).

  Every two lists of a template stand in a fork (`eq_or_behind`, `exists_of_behind`), and
  what is between them can be shared out so that the text next to a list is on its side,
  unless a single text is next to both.  Then a change of what is around one list leaves
  the other side alone (`Apart`).
-/
import Scenery.Proofs.ItemList.Edited

namespace Scenery

namespace Branch

def isText (b : Branch) : Bool := b.rawText?.isSome

theorem rawText?_eq_none_of_isText {b : Branch} (h : b.isText = false) : b.rawText? = none := by
  rwa [isText, Option.isSome_eq_false_iff, Option.isNone_iff_eq_none] at h

theorem isText_of_isList {b : Branch} (hb : b.IsList) : b.isText = false := by
  obtain ⟨o, ho, -⟩ := hb
  cases b with
  | block | single => rfl
  | var | text => cases ho

theorem isBlank_of_isText {b : Branch} (h : b.isText = false) : b.isBlank = false := by
  cases b with
  | block | single | var => rfl
  | text => cases h

end Branch

namespace Setting

open Branch Layer

/-! ### Settings inside others -/

/-- A setting with more branches in front of and behind everything, inside more elements. -/
def within (outer : List Layer) (xs ys : List Branch) (v : Setting) : Setting :=
  { between xs ys v with layers := outer ++ (between xs ys v).layers }

theorem within_cons (l : Layer) (outer : List Layer) (xs ys : List Branch) (v : Setting) :
    within (l :: outer) xs ys v = inside l (within outer xs ys v) := rfl

theorem fill_within (outer : List Layer) (xs ys : List Branch) (v : Setting) (b : Branch) :
    (within outer xs ys v).fill b = fillAll outer (xs ++ v.fill b ++ ys) := by
  induction outer with
  | nil => exact fill_between xs ys v b
  | cons l outer ih => rw [within_cons, fill_inside, ih, fillAll]

theorem between_between (xs xs' ys ys' : List Branch) (v : Setting) :
    between xs ys (between xs' ys' v) = between (xs ++ xs') (ys' ++ ys) v := by
  obtain ⟨_ | ⟨l, ls⟩, left, right⟩ := v
  · simp [between]
  · simp [between]

theorem namesBefore_inside (l : Layer) (v : Setting) :
    (inside l v).namesBefore = (targetsAll Opened.isList l.before).map listName? ++
      v.namesBefore := by
  simp [inside, namesBefore, targetsBefore]

theorem namesAfter_inside (l : Layer) (v : Setting) :
    (inside l v).namesAfter = v.namesAfter ++
      (targetsAll Opened.isList l.after).map listName? := by
  simp [inside, namesAfter, targetsAfter]

/-- The lists in front of an element do not depend on what is put behind it. -/
theorem namesBefore_within (outer : List Layer) (xs ys ys' : List Branch) (v : Setting) :
    (within outer xs ys' v).namesBefore = (within outer xs ys v).namesBefore := by
  induction outer with
  | nil =>
    obtain ⟨_ | ⟨l, ls⟩, left, right⟩ := v
    · rfl
    · rfl
  | cons l outer ih => rw [within_cons, within_cons, namesBefore_inside, namesBefore_inside, ih]

/-- The lists behind an element do not depend on what is put in front of it. -/
theorem namesAfter_within (outer : List Layer) (xs xs' ys : List Branch) (v : Setting) :
    (within outer xs' ys v).namesAfter = (within outer xs ys v).namesAfter := by
  induction outer with
  | nil =>
    obtain ⟨_ | ⟨l, ls⟩, left, right⟩ := v
    · rfl
    · rfl
  | cons l outer ih => rw [within_cons, within_cons, namesAfter_inside, namesAfter_inside, ih]

theorem opensIn_append (opens : Bool) (ls rest : List Layer) :
    opensIn opens (ls ++ rest) = opensIn (opensIn opens ls) rest := by
  induction ls generalizing opens with
  | nil => rfl
  | cons l ls ih => exact ih _

/-- Whether an element comes first in its sentence depends on what stands before it, and of
    that only on whether it is blank. -/
theorem opens_within (outer : List Layer) {xs xs' : List Branch} (ys ys' : List Branch)
    (v : Setting) (hxs : xs'.all isBlank = xs.all isBlank) :
    (within outer xs' ys' v).opens = (within outer xs ys v).opens := by
  obtain ⟨_ | ⟨l, ls⟩, left, right⟩ := v
  · simp [within, between, opens, hxs]
  · simp [within, between, opens, opensIn_append, opensIn, hxs]

/-- The names of the lists of a template, seen from one of them. -/
theorem map_listName?_fill {w : Setting} {b : Branch} (hb : b.IsList)
    (h : NestedAll [] (w.fill b)) :
    (targetsAll Opened.isList (w.fill b)).map listName? =
      w.namesBefore ++ b.listName? :: w.namesAfter := by
  obtain ⟨A, B, hall, hA, hB⟩ := ListSite.exists_all_fill w hb h 0
  rw [← ListSite.map_name_ofNodes _ h 0 false none, ← ListSite.all_root 0, hall, List.map_append,
    List.map_cons, hA, hB]
  rfl

/-! ### Texts next to an element -/

/-- The texts next to the element are in the setting, and not in what is put in front of it
    or behind it. -/
structure Owns (v : Setting) (xs ys : List Branch) : Prop where
  left : v.layers = [] → v.left = [] → (xs.map isText).getLast? ≠ some true
  right : v.layers = [] → v.right = [] → (ys.map isText).head? ≠ some true

/-- Two settings differ in the words of texts at most. -/
structure Retexted (v v' : Setting) : Prop where
  layers : v'.layers = v.layers
  left : v'.left.map isText = v.left.map isText
  right : v'.right.map isText = v.right.map isText

variable {v v' : Setting} {xs xs' ys ys' : List Branch}

theorem Retexted.refl (v : Setting) : Retexted v v := ⟨rfl, rfl, rfl⟩

theorem retexted_reworded (w : Setting) (word : Text) : Retexted w (w.reworded word) := by
  rcases hbefore : w.copulaBefore? with _ | c
  · rcases hafter : w.copulaAfter? with _ | c
    · rw [reworded, hbefore, hafter]
      exact .refl w
    · obtain ⟨right, blanks, rest, hright, hreworded, -⟩ := exists_of_copulaAfter? hbefore hafter
      rw [hreworded]
      exact ⟨rfl, rfl, by rw [hright]; rfl⟩
  · obtain ⟨left, before, blanks, hleft, hreworded, -⟩ := exists_of_copulaBefore? hbefore
    rw [hreworded]
    refine ⟨rfl, ?_, rfl⟩
    rw [hleft, List.map_append, List.map_append]
    rfl

theorem Retexted.map_isText_fill (h : Retexted v v') {b b' : Branch} (hb : b'.isText = b.isText) :
    (v'.fill b').map isText = (v.fill b).map isText := by
  obtain ⟨layers, left, right⟩ := v
  obtain ⟨layers', left', right'⟩ := v'
  obtain ⟨hlayers, hleft, hright⟩ := h
  simp only at hlayers hleft hright
  subst hlayers
  cases layers' with
  | nil => simp [fill, fillAll, hleft, hright, hb]
  | cons l ls => simp [fill, fillAll, Layer.block, isText, rawText?]

theorem Owns.retexted (h : v.Owns xs ys) (hv : Retexted v v')
    (hxs : xs'.map isText = xs.map isText) (hys : ys'.map isText = ys.map isText) :
    v'.Owns xs' ys' := by
  constructor
  · intro hlayers hleft
    rw [hxs]
    apply h.left
    · rw [← hv.layers, hlayers]
    · rw [← List.map_eq_nil_iff (f := isText), ← hv.left, hleft, List.map_nil]
  · intro hlayers hright
    rw [hys]
    apply h.right
    · rw [← hv.layers, hlayers]
    · rw [← List.map_eq_nil_iff (f := isText), ← hv.right, hright, List.map_nil]

theorem Owns.copulaBefore?_within (h : v.Owns xs ys) (outer : List Layer) :
    (within outer xs ys v).copulaBefore? = v.copulaBefore? := by
  obtain ⟨_ | ⟨l, ls⟩, left, right⟩ := v
  · rcases List.eq_nil_or_concat left with rfl | ⟨left, b, rfl⟩
    · have hxs : xs.getLast?.bind rawText? = none := by
        rcases hlast : xs.getLast? with _ | b
        · rfl
        · apply rawText?_eq_none_of_isText
          have hfalse := h.left rfl rfl
          rw [List.getLast?_map, hlast] at hfalse
          simpa using hfalse
      simp [within, between, copulaBefore?, hxs]
    · simp [within, between, copulaBefore?]
  · rfl

theorem Owns.copulaAfter?_within (h : v.Owns xs ys) (outer : List Layer) :
    (within outer xs ys v).copulaAfter? = v.copulaAfter? := by
  obtain ⟨_ | ⟨l, ls⟩, left, right⟩ := v
  · cases right with
    | nil =>
      have hys : ys.head?.bind rawText? = none := by
        rcases hhead : ys.head? with _ | b
        · rfl
        · apply rawText?_eq_none_of_isText
          have hfalse := h.right rfl rfl
          rw [List.head?_map, hhead] at hfalse
          simpa using hfalse
      simp [within, between, copulaAfter?, hys]
    | cons b right => simp [within, between, copulaAfter?]
  · rfl

/-- The copula next to an element can be changed before anything is put around. -/
theorem Owns.reworded_within (h : v.Owns xs ys) (outer : List Layer) (word : Text) :
    (within outer xs ys v).reworded word = within outer xs ys (v.reworded word) := by
  have hbefore' := h.copulaBefore?_within outer
  have hafter' := h.copulaAfter?_within outer
  rcases hbefore : v.copulaBefore? with _ | c
  · rw [hbefore] at hbefore'
    rcases hafter : v.copulaAfter? with _ | c
    · rw [hafter] at hafter'
      rw [reworded, reworded, hbefore, hafter, hbefore', hafter']
    · obtain ⟨right, blanks, rest, hright, -⟩ := exists_of_copulaAfter? hbefore hafter
      rw [hafter] at hafter'
      rw [reworded, reworded, hbefore, hafter, hbefore', hafter']
      obtain ⟨_ | ⟨l, ls⟩, left, right⟩ := v
      · simp only at hright
        subst hright
        rfl
      · rfl
  · obtain ⟨left, before, blanks, hleft, -⟩ := exists_of_copulaBefore? hbefore
    rw [hbefore] at hbefore'
    rw [reworded, reworded, hbefore, hbefore']
    obtain ⟨_ | ⟨l, ls⟩, left, right⟩ := v
    · simp only at hleft
      subst hleft
      simp [within, between]
    · rfl

end Setting

namespace ListChange

open Setting

theorem retexted_agreeing (w : Setting) (members : List Member) (before : Nat) :
    Retexted w (agreeing w members before) := by
  rw [agreeing]
  split
  · split
    · exact retexted_reworded w _
    · exact .refl w
  · exact .refl w

theorem agreeing_within {v : Setting} {xs ys : List Branch} (h : v.Owns xs ys)
    (outer : List Layer) (members : List Member) (before : Nat) :
    agreeing (within outer xs ys v) members before =
      within outer xs ys (agreeing v members before) := by
  have hword : (within outer xs ys v).copulaWord? = v.copulaWord? := by
    rw [copulaWord?, copulaWord?, h.copulaBefore?_within, h.copulaAfter?_within]
  rw [agreeing, agreeing, hword]
  split
  · split
    · exact h.reworded_within outer _
    · rfl
  · rfl

end ListChange

/-! ### Forks -/

/-- Branches with two elements cut out of them: the elements around both, and the places of
    the first and of the second in what those hold. -/
structure Fork where
  outer : List Layer
  first : Setting
  second : Setting

namespace Fork

open Branch Setting

variable {f : Fork} {b₁ b₂ b : Branch}

def fill (f : Fork) (b₁ b₂ : Branch) : List Branch :=
  Layer.fillAll f.outer (f.first.fill b₁ ++ f.second.fill b₂)

/-- The setting of the first element. -/
def atFirst (f : Fork) (b₂ : Branch) : Setting := within f.outer [] (f.second.fill b₂) f.first

/-- The setting of the second element. -/
def atSecond (f : Fork) (b₁ : Branch) : Setting := within f.outer (f.first.fill b₁) [] f.second

theorem fill_atFirst (f : Fork) (b₁ b₂ : Branch) : (f.atFirst b₂).fill b₁ = f.fill b₁ b₂ := by
  rw [atFirst, fill_within, fill, List.nil_append]

theorem fill_atSecond (f : Fork) (b₁ b₂ : Branch) : (f.atSecond b₁).fill b₂ = f.fill b₁ b₂ := by
  rw [atSecond, fill_within, fill, List.append_nil]

/-- The texts next to either element are on its own side. -/
structure Apart (f : Fork) : Prop where
  first : ∀ b, b.isText = false → f.first.Owns [] (f.second.fill b)
  second : ∀ b, b.isText = false → f.second.Owns (f.first.fill b) []

theorem Apart.retexted (h : f.Apart) {first second : Setting} (h₁ : Retexted f.first first)
    (h₂ : Retexted f.second second) : Apart ⟨f.outer, first, second⟩ := by
  constructor
  · intro b hb
    exact (h.first b hb).retexted h₁ rfl (h₂.map_isText_fill rfl)
  · intro b hb
    exact (h.second b hb).retexted h₂ (h₁.map_isText_fill rfl) rfl

/-! ### Where forks come from -/

/-- Nothing stands next to the element, or next to the outermost element around it. -/
def Sole (v : Setting) : Prop :=
  match v.layers with
  | [] => v.left = [] ∧ v.right = []
  | l :: _ => l.before = [] ∧ l.after = []

theorem sole_nil : Sole ⟨[], [], []⟩ := ⟨rfl, rfl⟩

theorem sole_cons (l : Layer) (ls : List Layer) (left right : List Branch) :
    Sole ⟨{ l with before := [], after := [] } :: ls, left, right⟩ := ⟨rfl, rfl⟩

theorem exists_fill_sole {v : Setting} (hv : Sole v) (hb : b.isText = false) :
    ∃ x, v.fill b = [x] ∧ x.isText = false := by
  obtain ⟨_ | ⟨l, ls⟩, left, right⟩ := v
  · obtain ⟨rfl, rfl⟩ := hv
    exact ⟨b, rfl, hb⟩
  · obtain ⟨hbefore, hafter⟩ := hv
    refine ⟨l.block (Layer.fillAll ls (left ++ b :: right)), ?_, rfl⟩
    simp [Setting.fill, Layer.fillAll, hbefore, hafter]

/-- One element stands behind another one, with some branches between them. -/
def Behind (w₁ : Setting) (b₁ : Branch) (w₂ : Setting) (b₂ : Branch) : Prop :=
  ∃ outer pre v₁ mid v₂ post, Sole v₁ ∧ Sole v₂ ∧
    w₁ = within outer pre (mid ++ (v₂.fill b₂ ++ post)) v₁ ∧
    w₂ = within outer (pre ++ v₁.fill b₁ ++ mid) post v₂

theorem Behind.inside {w₁ w₂ : Setting} (h : Behind w₁ b₁ w₂ b₂) (l : Layer) :
    Behind (inside l w₁) b₁ (inside l w₂) b₂ := by
  obtain ⟨outer, pre, v₁, mid, v₂, post, hv₁, hv₂, rfl, rfl⟩ := h
  exact ⟨l :: outer, pre, v₁, mid, v₂, post, hv₁, hv₂, rfl, rfl⟩

theorem cases_of_append_cons {α : Type} {xs xs' ys ys' : List α} {x x' : α}
    (h : xs ++ x :: ys = xs' ++ x' :: ys') :
    (xs = xs' ∧ x = x' ∧ ys = ys') ∨
      (∃ mid, xs' = xs ++ x :: mid ∧ ys = mid ++ x' :: ys') ∨
      ∃ mid, xs = xs' ++ x' :: mid ∧ ys' = mid ++ x :: ys := by
  rcases List.append_eq_append_iff.1 h with ⟨m, rfl, hm⟩ | ⟨m, rfl, hm⟩
  · cases m with
    | nil =>
      obtain ⟨rfl, rfl⟩ := List.cons.inj hm
      exact .inl ⟨by simp, rfl, rfl⟩
    | cons y m =>
      obtain ⟨rfl, rfl⟩ := List.cons.inj hm
      exact .inr (.inl ⟨m, rfl, rfl⟩)
  · cases m with
    | nil =>
      obtain ⟨rfl, rfl⟩ := List.cons.inj hm
      exact .inl ⟨by simp, rfl, rfl⟩
    | cons y m =>
      obtain ⟨rfl, rfl⟩ := List.cons.inj hm
      exact .inr (.inr ⟨m, rfl, rfl⟩)

/-- Of two places in one row one is behind the other, or both are in one branch. -/
theorem cases_of_between {v₁ v₂ : Setting} {pre₁ pre₂ post₁ post₂ : List Branch}
    (hv₁ : Sole v₁) (hv₂ : Sole v₂) (hb₁ : b₁.isText = false) (hb₂ : b₂.isText = false)
    (h : (between pre₁ post₁ v₁).fill b₁ = (between pre₂ post₂ v₂).fill b₂) :
    (pre₁ = pre₂ ∧ v₁.fill b₁ = v₂.fill b₂ ∧ post₁ = post₂) ∨
      Behind (between pre₁ post₁ v₁) b₁ (between pre₂ post₂ v₂) b₂ ∨
      Behind (between pre₂ post₂ v₂) b₂ (between pre₁ post₁ v₁) b₁ := by
  obtain ⟨x₁, hx₁, -⟩ := exists_fill_sole hv₁ hb₁
  obtain ⟨x₂, hx₂, -⟩ := exists_fill_sole hv₂ hb₂
  rw [fill_between, fill_between, hx₁, hx₂, List.append_assoc, List.append_assoc,
    List.singleton_append, List.singleton_append] at h
  rcases cases_of_append_cons h with ⟨rfl, rfl, rfl⟩ | ⟨mid, rfl, rfl⟩ | ⟨mid, rfl, rfl⟩
  · exact .inl ⟨rfl, by rw [hx₁, hx₂], rfl⟩
  · refine .inr (.inl ⟨[], pre₁, v₁, mid, v₂, post₂, hv₁, hv₂, ?_, ?_⟩)
    · rw [hx₂]
      rfl
    · rw [hx₁, List.append_assoc]
      rfl
  · refine .inr (.inr ⟨[], pre₂, v₂, mid, v₁, post₁, hv₂, hv₁, ?_, ?_⟩)
    · rw [hx₁]
      rfl
    · rw [hx₂, List.append_assoc]
      rfl

/-- Elements with a list somewhere inside are no lists. -/
theorem isList_eq_false_of_fitsIn {around : List Tag} {ls : List Layer} {l : Layer}
    (hfit : Tag.list.FitsIn (Layer.tagsIn around (l :: ls))) : l.opened.isList = false := by
  have hl := hfit.1 l.opened.tag (Layer.mem_tagsIn_of_mem List.mem_cons_self ls)
  rcases ho : l.opened with (_ | _ | _ | _) | _
  · rfl
  · rfl
  · rfl
  · rw [ho] at hl
    cases hl
  · rfl

/-- A list is not an element that has a list inside. -/
theorem ne_block_of_isList {around : List Tag} {l : Layer} {v : Setting} (hb : b.IsList)
    (hb₁ : b₁.IsList) (hnested : NestedAll around ((Setting.inside l v).fill b₁)) :
    l.block (v.fill b₁) ≠ b := by
  rintro rfl
  obtain ⟨o, ho, hlist⟩ := hb
  obtain ⟨-, -, hstands, -⟩ := (Setting.inside l v).nestedAll_fill.1 hnested
  have hfalse := isList_eq_false_of_fitsIn (ListSite.fitsIn_of_isList hb₁ hstands)
  cases ho
  rw [hfalse] at hlist
  cases hlist

theorem eq_between_nil (left right : List Branch) :
    (⟨[], left, right⟩ : Setting) = between left right ⟨[], [], []⟩ := by
  simp [between]

theorem eq_between_cons (l : Layer) (ls : List Layer) (left right : List Branch) :
    (⟨l :: ls, left, right⟩ : Setting) =
      between l.before l.after ⟨{ l with before := [], after := [] } :: ls, left, right⟩ := by
  simp [between]

/-- **Two lists that fill places of one row are the same, or one is behind the other.** -/
theorem eq_or_behind {around : List Tag} {w₁ w₂ : Setting} (hb₁ : b₁.IsList) (hb₂ : b₂.IsList)
    (hnested : NestedAll around (w₁.fill b₁)) (h : w₁.fill b₁ = w₂.fill b₂) :
    (w₁ = w₂ ∧ b₁ = b₂) ∨ Behind w₁ b₁ w₂ b₂ ∨ Behind w₂ b₂ w₁ b₁ := by
  have ht₁ := isText_of_isList hb₁
  have ht₂ := isText_of_isList hb₂
  obtain ⟨ls₁, left₁, right₁⟩ := w₁
  obtain ⟨ls₂, left₂, right₂⟩ := w₂
  induction ls₁ generalizing around ls₂ with
  | nil =>
    cases ls₂ with
    | nil =>
      rw [eq_between_nil left₁, eq_between_nil left₂] at h ⊢
      refine (cases_of_between sole_nil sole_nil ht₁ ht₂ h).imp_left ?_
      rintro ⟨rfl, hfill, rfl⟩
      exact ⟨rfl, List.singleton_inj.1 hfill⟩
    | cons l₂ ls₂ =>
      rw [h] at hnested
      rw [eq_between_nil, eq_between_cons] at h ⊢
      have hsole := sole_cons l₂ ls₂ left₂ right₂
      refine .inr ((cases_of_between sole_nil hsole ht₁ ht₂ h).resolve_left ?_)
      rintro ⟨-, hfill, -⟩
      exact ne_block_of_isList (v := ⟨ls₂, left₂, right₂⟩) hb₁ hb₂ hnested
        (List.singleton_inj.1 hfill).symm
  | cons l₁ ls₁ ih =>
    cases ls₂ with
    | nil =>
      rw [eq_between_nil, eq_between_cons] at h ⊢
      have hsole := sole_cons l₁ ls₁ left₁ right₁
      refine .inr ((cases_of_between hsole sole_nil ht₁ ht₂ h).resolve_left ?_)
      rintro ⟨-, hfill, -⟩
      exact ne_block_of_isList (v := ⟨ls₁, left₁, right₁⟩) hb₂ hb₁ hnested
        (List.singleton_inj.1 hfill)
    | cons l₂ ls₂ =>
      rw [eq_between_cons l₁, eq_between_cons l₂] at h
      have hsole₁ := sole_cons l₁ ls₁ left₁ right₁
      have hsole₂ := sole_cons l₂ ls₂ left₂ right₂
      rcases cases_of_between hsole₁ hsole₂ ht₁ ht₂ h with ⟨hbefore, hfill, hafter⟩ | hbehind
      · obtain ⟨before, source, attributes, opened, closing, after⟩ := l₁
        obtain ⟨before', source', attributes', opened', closing', after'⟩ := l₂
        cases hbefore
        cases hafter
        obtain ⟨rfl, rfl, rfl, rfl, hinner⟩ := Branch.block.inj (List.singleton_inj.1 hfill)
        obtain ⟨-, hblock⟩ := nestedAll_append.1 hnested
        have hblock := (nestedAll_cons.1 hblock).1
        rw [Layer.block, Nested] at hblock
        rcases ih hblock.2.2 ls₂ hinner with ⟨hw, rfl⟩ | hbehind | hbehind
        · cases hw
          exact .inl ⟨rfl, rfl⟩
        · exact .inr (.inl (hbehind.inside _))
        · exact .inr (.inr (hbehind.inside _))
      · rw [eq_between_cons l₁, eq_between_cons l₂]
        exact .inr hbehind

/-- What is between two elements can be shared out so that no text next to one of them is
    on the side of the other, unless a single text is all there is. -/
theorem exists_shared (first second : Prop) (mid : List Branch)
    (h : first → second → ∀ b, mid = [b] → b.isText = false) :
    ∃ m₁ m₂, mid = m₁ ++ m₂ ∧
      (first → m₁ = [] → ∀ b ∈ m₂.head?, b.isText = false) ∧
      (second → m₂ = [] → ∀ b ∈ m₁.getLast?, b.isText = false) := by
  match mid with
  | [] => exact ⟨[], [], rfl, by simp, by simp⟩
  | [b] =>
    by_cases hsecond : second
    · refine ⟨[], [b], rfl, ?_, by simp⟩
      intro hfirst _ b' hb'
      cases hb'
      exact h hfirst hsecond b rfl
    · exact ⟨[b], [], rfl, by simp, fun h => absurd h hsecond⟩
  | b :: b' :: mid => exact ⟨[b], b' :: mid, rfl, by simp, by simp⟩

theorem of_layers_between {xs ys : List Branch} {v : Setting}
    (h : (between xs ys v).layers = []) :
    v.layers = [] ∧ (between xs ys v).left = xs ++ v.left ∧
      (between xs ys v).right = v.right ++ ys := by
  obtain ⟨_ | ⟨l, ls⟩, left, right⟩ := v
  · exact ⟨rfl, rfl, rfl⟩
  · cases h

/-- A single text between two elements is next to both. -/
theorem exists_neighbour (outer : List Layer) (pre rest post : List Branch) (b₁ b₂ : Branch)
    (raw : Text) :
    ∃ span,
      ((within outer pre (.text raw :: rest) ⟨[], [], []⟩).site b₁).next =
        some (.text raw span) ∧
      ((within outer (pre ++ [b₁] ++ [.text raw]) post ⟨[], [], []⟩).site b₂).previous =
        some (.text raw span) := by
  refine ⟨⟨Text.bytes (Lexeme.sources (Layer.lexemesBefore outer)) +
    (Text.bytes (sourceAll pre) + Text.bytes b₁.source),
    Text.bytes (Lexeme.sources (Layer.lexemesBefore outer)) +
    (Text.bytes (sourceAll pre) + (Text.bytes b₁.source + Text.bytes raw))⟩, ?_, ?_⟩
  · simp [site, within, between, offset, textBefore, lexemesBefore, node, sourceAll, Nat.add_assoc]
  · simp [site, previous, within, between, innerOffset, nodes_append, node, sourceAll,
      Nat.add_assoc]

section Shared

variable {v₁ v₂ : Setting} {pre m₁ m₂ post : List Branch}

theorem owns_first (hv₂ : Sole v₂)
    (h : v₁.layers = [] → m₁ = [] → ∀ b ∈ m₂.head?, b.isText = false) (hb : b.isText = false) :
    (between pre m₁ v₁).Owns [] ((between m₂ post v₂).fill b) := by
  obtain ⟨x, hx, htext⟩ := exists_fill_sole hv₂ hb
  constructor
  · intro _ _
    simp
  · intro hlayers hright
    obtain ⟨houter, -, hbetween⟩ := of_layers_between hlayers
    obtain ⟨-, rfl⟩ := List.append_eq_nil_iff.1 (hbetween.symm.trans hright)
    rw [fill_between, hx]
    cases m₂ with
    | nil => simp [htext]
    | cons b' m₂ => simp [h houter rfl b' rfl]

theorem owns_second (hv₁ : Sole v₁)
    (h : v₂.layers = [] → m₂ = [] → ∀ b ∈ m₁.getLast?, b.isText = false) (hb : b.isText = false) :
    (between m₂ post v₂).Owns ((between pre m₁ v₁).fill b) [] := by
  obtain ⟨x, hx, htext⟩ := exists_fill_sole hv₁ hb
  constructor
  · intro hlayers hleft
    obtain ⟨houter, hbetween, -⟩ := of_layers_between hlayers
    obtain ⟨rfl, -⟩ := List.append_eq_nil_iff.1 (hbetween.symm.trans hleft)
    rw [fill_between, hx]
    rcases List.eq_nil_or_concat m₁ with rfl | ⟨m₁, b', rfl⟩
    · simp [htext]
    · have htext' := h houter rfl b' (by simp)
      rw [List.concat_eq_append, ← List.append_assoc, List.map_append, List.map_singleton,
        List.getLast?_concat, htext']
      simp
  · intro _ _
    simp

end Shared

/-- **An element behind another one stands in a fork with it**, and the texts next to them
    are apart if no text is next to both. -/
theorem exists_of_behind {w₁ w₂ : Setting} (h : Behind w₁ b₁ w₂ b₂)
    (hneighbour : ∀ raw span, (w₁.site b₁).next = some (.text raw span) →
      (w₂.site b₂).previous ≠ some (.text raw span)) :
    ∃ f : Fork, f.Apart ∧ w₁ = f.atFirst b₂ ∧ w₂ = f.atSecond b₁ := by
  obtain ⟨outer, pre, v₁, mid, v₂, post, hv₁, hv₂, rfl, rfl⟩ := h
  have hmid : v₁.layers = [] → v₂.layers = [] → ∀ b, mid = [b] → b.isText = false := by
    intro hlayers₁ hlayers₂ b hmid
    subst hmid
    cases b with
    | block | single | var => rfl
    | text raw =>
      obtain ⟨_ | ⟨l, ls⟩, left₁, right₁⟩ := v₁
      · obtain ⟨_ | ⟨l, ls⟩, left₂, right₂⟩ := v₂
        · obtain ⟨rfl, rfl⟩ := hv₁
          obtain ⟨rfl, rfl⟩ := hv₂
          obtain ⟨span, hnext, hprevious⟩ := exists_neighbour outer pre _ post b₁ b₂ raw
          exact absurd hprevious (hneighbour raw span hnext)
        · cases hlayers₂
      · cases hlayers₁
  obtain ⟨m₁, m₂, rfl, hfirst, hsecond⟩ := exists_shared (v₁.layers = []) (v₂.layers = []) mid hmid
  refine ⟨⟨outer, between pre m₁ v₁, between m₂ post v₂⟩, ?_, ?_, ?_⟩
  · constructor
    · intro b hb
      exact owns_first hv₂ hfirst hb
    · intro b hb
      exact owns_second hv₁ hsecond hb
  · rw [atFirst, within, within, between_between, fill_between]
    simp
  · rw [atSecond, within, within, between_between, fill_between]
    simp

end Fork

end Scenery
