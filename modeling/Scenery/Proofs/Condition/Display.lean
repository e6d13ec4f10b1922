/-
  Scenery/Proofs/Condition/Display.lean
  =====================================
  **Conditions read back.**  A condition is displayed as its path, its operator and its
  literal with single blanks between them, which are the pieces of an expression that says
  this condition (`Condition.says_display`).

  The literal is where that could fail.  Its quotes are chosen by its content, and a text
  with both kinds of quotes in it could not be displayed; but a literal is never such a text,
  since what stands between quotes is without them.
-/
import Scenery.Proofs.Condition.Pieces
import Scenery.Proofs.Number.Shortest

namespace Scenery

theorem Operator.spells_symbol (op : Operator) : op.Spells op.symbol := by
  cases op with
  | eq => exact .eq
  | ne => exact .ne
  | gt => exact .gt
  | ge => exact .ge
  | lt => exact .lt
  | le => exact .le

namespace Condition

/-- A text without one of the quotes is displayed in quotes that do not occur in it. -/
theorem denotes_literalText_text {t : Text} (h : '\'' ∈ t → '"' ∉ t) :
    Denotes (literalText (.text t)) (.text t) := by
  by_cases hsingle : '\'' ∈ t
  · have hcontains : t.contains '\'' := List.contains_iff_mem.2 hsingle
    rw [literalText, if_pos hcontains]
    exact .double (h hsingle)
  · have hcontains : ¬t.contains '\'' := fun hmem => hsingle (List.contains_iff_mem.1 hmem)
    rw [literalText, if_neg hcontains]
    exact .single hsingle

/-- What a literal stands for is displayed as a literal that stands for it. -/
theorem denotes_literalText {l : Text} {v : Value} (h : Denotes l v)
    (hfinite : ∀ n, v = .number n → n.isFinite) : Denotes (literalText v) v := by
  cases h with
  | single ht =>
    apply denotes_literalText_text
    intro hmem
    exact absurd hmem ht
  | double ht =>
    apply denotes_literalText_text
    intro _
    exact ht
  | @number t n =>
    obtain ⟨hplain, hread⟩ := Number.read?_text (hfinite n rfl)
    exact .number hplain hread
  | yes => exact .yes
  | no => exact .no

/-- The pieces of a condition as it is displayed. -/
def display (c : Condition) : Pieces :=
  ⟨[], c.path, [' '], c.operator.symbol, [' '], literalText c.literal, []⟩

theorem text_display (c : Condition) : c.display.text = c.text := by
  simp [display, Pieces.text, text]

/-- What is displayed says the condition. -/
theorem says_display {w : Pieces} {c : Condition} (h : w.Says c)
    (hfinite : ∀ n, c.literal = .number n → n.isFinite) : c.display.Says c where
  before := by simp [display]
  path := by
    rw [display, h.path_eq]
    exact h.path
  between := by simp [display, isGap]
  operator := c.operator.spells_symbol
  behind := by simp [display, isGap]
  literal := denotes_literalText h.literal hfinite
  after := by simp [display]
  path_eq := rfl

/-- **A displayed condition reads back as itself**, and is displayed as before. -/
theorem read_text_of_read {expr : Text} {c : Condition} (h : read expr = .ok c)
    (hfinite : ∀ n, c.literal = .number n → n.isFinite) :
    read c.text = .ok c ∧ ∀ c', read c.text = .ok c' → c'.text = c.text := by
  obtain ⟨w, -, hw⟩ := read_eq_ok_iff.1 h
  have hread : read c.text = .ok c := by
    rw [← text_display]
    exact (says_display hw hfinite).read_text
  refine ⟨hread, ?_⟩
  intro c' hread'
  rw [hread, Except.ok.injEq] at hread'
  rw [hread']

/-- A text that looks like a condition itself, and has apostrophes in it. -/
def motto : Condition :=
  ⟨"sign.motto".toList, .ne, .text "it's < 'x' && y == 2".toList⟩

def heat : Number := (Decimal.ofDigits false "0041".toList "50".toList).toNumber

def fever : Condition := ⟨"body_heat".toList, .ge, .number heat⟩

theorem read_text_of_read_motto :
    motto.text = "sign.motto != \"it's < 'x' && y == 2\"".toList ∧
      read motto.text = .ok motto ∧
      fever.text = "body_heat >= 41.5".toList ∧ read fever.text = .ok fever := by
  have hmotto : read " sign.motto\t!==\n\"it's < 'x' && y == 2\"".toList = .ok motto := by
    decide +kernel
  have hfever : read "body_heat>=0041.50 ".toList = .ok fever := by decide +kernel
  have hfinite : heat.isFinite = true := by decide +kernel
  refine ⟨by decide +kernel, (read_text_of_read hmotto ?_).1, by decide +kernel,
    (read_text_of_read hfever ?_).1⟩
  · intro n hn
    cases hn
  · intro n hn
    obtain rfl : heat = n := Value.number.inj hn
    exact hfinite

end Condition

end Scenery
