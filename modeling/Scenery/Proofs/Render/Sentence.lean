/-
  Scenery/Proofs/Render/Sentence.lean
  ===================================
  **Lists in sentences.**  A list in a sentence stands in two settings, the one of the
  sentence in the template and its own in what the sentence holds (`SentenceSetting`).
  Around the sentence there are only wrappers and conditionals, and in it only
  conditionals (`Proper`).

  The tree of a template tells both settings (`exists_sentenceSetting`), and the sentence
  and the list are shown exactly if those let them through (`mem_shown_iff`).
-/
import Scenery.Proofs.Render.Around

namespace Scenery

open Branch Layer Node

/-! ### Tags around a place -/

namespace Layer

variable {around : List Tag}

theorem tagsIn_append (around : List Tag) (ls ms : List Layer) :
    tagsIn around (ls ++ ms) = tagsIn (tagsIn around ls) ms := by
  induction ls generalizing around with
  | nil => rfl
  | cons l ls ih => exact ih _

theorem nestedIn_append {ls ms : List Layer} :
    NestedIn around (ls ++ ms) ↔ NestedIn around ls ∧ NestedIn (tagsIn around ls) ms := by
  induction ls generalizing around with
  | nil => simp [NestedIn, tagsIn]
  | cons l ls ih => simp only [List.cons_append, NestedIn, tagsIn, ih, and_assoc]

theorem fillAll_append (ls ms : List Layer) (bs : List Branch) :
    fillAll (ls ++ ms) bs = fillAll ls (fillAll ms bs) := by
  induction ls with
  | nil => rfl
  | cons l ls ih => rw [List.cons_append, fillAll, fillAll, ih]

/-- What fits at a place fits in every element around it. -/
theorem forbids_of_fitsIn {tag : Tag} {ls : List Layer} (h : tag.FitsIn (tagsIn around ls)) :
    ∀ l ∈ ls, l.opened.tag.forbids tag = false := by
  induction ls generalizing around with
  | nil =>
    intro l hl
    cases hl
  | cons l ls ih =>
    intro l' hl'
    rcases List.mem_cons.1 hl' with rfl | hl'
    · exact h.1 _ (mem_tagsIn_of_mem List.mem_cons_self ls)
    · exact ih h l' hl'

/-- And every element around a place fits in what is around them all. -/
theorem forbids_of_nestedIn {tag : Tag} (htag : tag ∈ around) {ls : List Layer}
    (h : NestedIn around ls) : ∀ l ∈ ls, tag.forbids l.opened.tag = false := by
  induction ls generalizing around with
  | nil =>
    intro l hl
    cases hl
  | cons l ls ih =>
    intro l' hl'
    rcases List.mem_cons.1 hl' with rfl | hl'
    · exact h.2.1.1 tag htag
    · exact ih (List.mem_cons_of_mem _ htag) h.2.2.2.2 l' hl'

end Layer

/-! ### A place in a sentence -/

/-- A place in a sentence: where the sentence stands, with its tags, and the place in what
    it holds. -/
structure SentenceSetting where
  outer : Setting
  source : Text
  attributes : List Attribute
  closing : Text
  inner : Setting

namespace SentenceSetting

variable (p : SentenceSetting)

/-- What a sentence holds, with its tags. -/
def sentence (b : Branch) : Branch :=
  .block p.source p.attributes (.element .sentence) p.closing (p.inner.fill b)

/-- The sentence as an element around the place. -/
def layer : Layer :=
  ⟨p.outer.left, p.source, p.attributes, .element .sentence, p.closing, p.outer.right⟩

/-- The place in the template. -/
def setting : Setting :=
  ⟨p.outer.layers ++ p.layer :: p.inner.layers, p.inner.left, p.inner.right⟩

/-- The place where the content of the sentence starts. -/
def start : Nat := p.outer.offset + Text.bytes p.source

/-- The template with a list at the place. -/
def template (b : Branch) : Text := sourceAll (p.setting.fill b)

/-- Its tree. -/
def tree (b : Branch) : Node := root (Text.bytes (p.template b)) (nodes 0 (p.setting.fill b))

/-- What the sentence holds there. -/
def content (b : Branch) : List Node := nodes p.start (p.inner.fill b)

theorem isSentence (b : Branch) : (p.sentence b).IsSentence := rfl

theorem fill_setting (b : Branch) : p.setting.fill b = p.outer.fill (p.sentence b) := by
  rw [Setting.fill, setting, fillAll_append]
  rfl

/-- Around the sentence stand wrappers and conditionals only, and in it around the place
    conditionals only. -/
structure Proper : Prop where
  outer : ∀ l ∈ p.outer.layers,
    l.opened = .element .wrapper ∨ ∃ c, l.opened = .element (.conditional c)
  inner : ∀ l ∈ p.inner.layers, ∃ c, l.opened = .element (.conditional c)

variable {p}

theorem proper_of_nested {b : Branch} (hb : b.IsList) (h : NestedAll [] (p.setting.fill b)) :
    p.Proper := by
  obtain ⟨hlayers, -, hstands, -⟩ := p.setting.nestedAll_fill.1 h
  have hlist := ListSite.fitsIn_of_isList hb hstands
  obtain ⟨-, hsentence, hinner⟩ : NestedIn [] p.outer.layers ∧
      Tag.sentence.FitsIn (tagsIn [] p.outer.layers) ∧
      NestedIn (.sentence :: tagsIn [] p.outer.layers) p.inner.layers := by
    obtain ⟨houter, hrest⟩ := nestedIn_append.1 hlayers
    exact ⟨houter, hrest.2.1, hrest.2.2.2.2⟩
  rw [Setting.tagsIn, setting, tagsIn_append] at hlist
  constructor
  · intro l hl
    have hforbids := forbids_of_fitsIn hsentence l hl
    rcases ho : l.opened with (_ | _ | c | name) | _
    · exact .inl rfl
    · rw [ho] at hforbids
      cases hforbids
    · exact .inr ⟨c, rfl⟩
    · rw [ho] at hforbids
      cases hforbids
    · rw [ho] at hforbids
      cases hforbids
  · intro l hl
    have habove := forbids_of_nestedIn List.mem_cons_self hinner l hl
    have hbelow := forbids_of_fitsIn hlist l (List.mem_cons_of_mem _ hl)
    rcases ho : l.opened with (_ | _ | c | name) | _
    · rw [ho] at habove
      cases habove
    · rw [ho] at habove
      cases habove
    · exact ⟨c, rfl⟩
    · rw [ho] at hbelow
      cases hbelow
    · rw [ho] at hbelow
      cases hbelow

variable {test test' : Condition → Bool} {b : Branch}

theorem node_of_isList (hb : b.IsList) (offset : Nat) :
    b.node offset = .element (.list b.listName?) ⟨(b.node offset).span, (b.node offset).inner⟩
      (b.node offset).children := by
  obtain ⟨o, ho, hlist⟩ := hb
  rcases o with (_ | _ | _ | name) | _ <;> simp only [Opened.isList, Bool.false_eq_true] at hlist
  cases b with
  | var | text => cases ho
  | single s attributes o' | block s attributes o' c bs =>
    cases ho
    rw [node]
    rfl

end SentenceSetting

end Scenery
