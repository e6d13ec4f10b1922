/-
  Scenery/Proofs/Condition/Paths.lean
  ===================================
  **One notion of a path.**  Variables and assignments test a whole text by cutting it at
  its points, and conditions take the longest path that stands where they look for one,
  with blanks around it.  Both accept the same texts (`Path.isPath_agrees`), so whatever is
  assigned can be shown and asked for.

  Both notions are dotted paths.  What makes them agree on whole texts is that a dotted path
  has no blank and no equals sign in it: nothing is trimmed off, an assignment is cut behind
  it, and the grammar of conditions takes all of it.
-/
import Scenery.CommandLine.Command
import Scenery.Proofs.Condition.Grammar
import Scenery.Proofs.Markup.Grammar

namespace Scenery.Path

/-! ### The characters of a path -/

theorem isBlank_eq_false_of_isIdentPart {c : Char} (h : isIdentPart c) :
    Text.isBlank c = false := by
  simp only [isIdentPart, Char.isAlphanum, Bool.or_eq_true, beq_iff_eq] at h
  rcases h with (hletter | hdigit) | rfl
  · exact TagText.isBlank_eq_false_of_isAlpha hletter
  · have hn : 48 ≤ c.toNat ∧ c.toNat ≤ 57 := by
      simpa [Char.isDigit, UInt32.le_iff_toNat_le] using hdigit
    simp [Text.isBlank]
    omega
  · decide

namespace Dotted

variable {p : Text}

theorem not_blank (h : Dotted p) : ∀ c ∈ p, Text.isBlank c = false := by
  intro c hc
  rcases h.isIdentPart_or_point c hc with hpart | rfl
  · exact isBlank_eq_false_of_isIdentPart hpart
  · decide

theorem trim_eq (h : Dotted p) : Text.trim p = p := by
  apply Text.trim_eq_self
  · intro c hc
    exact h.not_blank c (List.mem_of_mem_head? hc)
  · intro c hc
    exact h.not_blank c (List.mem_of_mem_getLast? hc)

theorem equals_not_mem (h : Dotted p) : '=' ∉ p := by
  intro hmem
  rcases h.isIdentPart_or_point '=' hmem with hpart | hpoint
  · revert hpart
    decide
  · cases hpoint

end Dotted

/-! ### In conditions -/

/-- The rule for paths takes a whole text exactly if the reader does. -/
theorem exists_run_path_iff (size : Nat) (p : Text) :
    (∃ found, Peg.run Condition.isGap size true true Condition.Grammar.path p =
      some (found, [])) ↔ readPath? p = some (p, []) := by
  have hrecords : Condition.Grammar.Records size Condition.Grammar.path readPath?
      fun path m => m.text = path := Condition.Grammar.records_path
  obtain ⟨hnone, hsome⟩ := hrecords p
  constructor
  · rintro ⟨found, hrun⟩
    rcases hread : readPath? p with _ | ⟨path, rest⟩
    · rw [hnone hread] at hrun
      cases hrun
    · obtain ⟨m, -, hm⟩ := hsome path rest hread
      rw [hm, Option.some.injEq, Prod.mk.injEq] at hrun
      have htext := append_of_readPath? hread
      rw [hrun.2, List.append_nil] at htext
      rw [htext, hrun.2]
  · intro hread
    obtain ⟨m, -, hm⟩ := hsome p [] hread
    exact ⟨[m], hm⟩

/-- What a condition looks at is a path. -/
theorem isPath_of_read {expr : Text} {c : Condition} (h : Condition.read expr = .ok c) :
    isPath c.path := by
  obtain ⟨w, -, hw⟩ := Condition.read_eq_ok_iff.1 h
  rw [hw.path_eq]
  exact isPath_iff_dotted.2 hw.path

/-- Any path can be compared with a number. -/
theorem exists_read_of_dotted {p : Text} (h : Dotted p) :
    ∃ c, Condition.read (p ++ " == 1".toList) = .ok c ∧ c.path = p := by
  have hdigits : Decimal.AreDigits ['1'] [] := ⟨by simp, by simp, by simp⟩
  let one : Number := (Decimal.ofDigits false ['1'] []).toNumber
  have hliteral : Condition.Denotes ['1'] (.number one) :=
    .number ⟨false, ['1'], [], hdigits, rfl⟩ (@Number.read?_written false _ _ hdigits)
  refine ⟨⟨p, .eq, .number one⟩, ?_, rfl⟩
  rw [Condition.read_eq_ok_iff]
  refine ⟨⟨[], p, [' '], ['=', '='], [' '], ['1'], []⟩, ?_, ?_⟩
  · simp [Condition.Pieces.text]
  · exact ⟨by simp, h, by simp [Condition.isGap], .eq, by simp [Condition.isGap], hliteral,
      by simp, rfl⟩

/-! ### In variables -/

section Variables

variable {attributes : List Attribute} {p : Text}

theorem isPath_of_variableNode {span : Span}
    (h : Builder.variableNode attributes span = .ok (.var p span)) : isPath p := by
  unfold Builder.variableNode at h
  split at h
  · cases h
  · split at h
    · next hpath =>
      simp only [Except.ok.injEq, Node.var.injEq, and_true] at h
      rw [← h]
      exact hpath
    · cases h

theorem variableNode_of_dotted (hfirst : Attribute.First attributes Attribute.pathKeys p)
    (h : Dotted p) (span : Span) :
    Builder.variableNode attributes span = .ok (.var p span) := by
  have hvalue := Attribute.first_iff.1 hfirst
  rw [Attribute.pathKeys] at hvalue
  rw [Builder.variableNode, hvalue]
  simp only [h.trim_eq, isPath_iff_dotted.2 h, if_true]

end Variables

/-! ### In assignments -/

theorem splitOption_tied {name : Text} (h : '=' ∉ name) (v : Text) :
    CommandLine.splitOption (name ++ '=' :: v) = (name, some v) := by
  have hname : ∀ c ∈ name, decide (c ≠ '=') = true := by
    intro c hc
    rw [decide_eq_true_eq]
    rintro rfl
    exact h hc
  have hequals : Text.NotStarting (fun c => decide (c ≠ '=')) ('=' :: v) := by simp
  rw [CommandLine.splitOption, Text.dropWhile_run hname hequals, Text.takeWhile_run hname hequals]

theorem isPath_of_assignment? {t p : Text} {v : Value}
    (h : CommandLine.assignment? t = some (p, v)) : isPath p := by
  unfold CommandLine.assignment? at h
  split at h
  · cases h
  · dsimp only at h
    split at h
    · next hpath =>
      simp only [Option.some.injEq, Prod.mk.injEq] at h
      rw [← h.1]
      exact hpath
    · cases h

theorem assignment?_of_dotted {p : Text} (h : Dotted p) (v : Text) :
    CommandLine.assignment? (p ++ '=' :: v) = some (p, Value.infer v) := by
  rw [CommandLine.assignment?, splitOption_tied h.equals_not_mem]
  simp only [h.trim_eq, isPath_iff_dotted.2 h, if_true]

/-! ### Everywhere -/

/-- **Whatever takes a path takes the same ones.**  A text is a path exactly if the rule of
    the grammar takes all of it, and exactly if the condition that compares it with `1` can
    be read and looks at that very text.  A variable with the text in its attribute shows it,
    and an assignment with the text in front of its equals sign sets it, exactly then.  And
    however they are written, conditions, variables and assignments have no other paths. -/
theorem isPath_agrees (p : Text) :
    (isPath p ↔ ∃ found, Peg.run Condition.isGap p.length true true Condition.Grammar.path p =
      some (found, [])) ∧
    (isPath p ↔ ∃ c, Condition.read (p ++ " == 1".toList) = .ok c ∧ c.path = p) ∧
    (∀ attributes span, Attribute.First attributes Attribute.pathKeys p →
      (isPath p ↔ Builder.variableNode attributes span = .ok (.var p span))) ∧
    (∀ v, isPath p ↔ CommandLine.assignment? (p ++ '=' :: v) = some (p, Value.infer v)) ∧
    (isPath p ↔ ∃ expr c, Condition.read expr = .ok c ∧ c.path = p) ∧
    (isPath p ↔ ∃ attributes span, Builder.variableNode attributes span = .ok (.var p span)) ∧
    (isPath p ↔ ∃ t v, CommandLine.assignment? t = some (p, v)) := by
  have hread {expr : Text} {c : Condition} (h : Condition.read expr = .ok c ∧ c.path = p) :
      isPath p := h.2 ▸ isPath_of_read h.1
  refine ⟨?rule, ⟨?compared, fun ⟨c, h⟩ => hread h⟩, ?shown, ?assigned,
    ⟨?asked, fun ⟨expr, c, h⟩ => hread h⟩, ?everyVariable, ?everyAssignment⟩
  case rule =>
    rw [exists_run_path_iff, readPath?_self_iff]
    exact isPath_iff_dotted
  case compared =>
    intro h
    exact exists_read_of_dotted (isPath_iff_dotted.1 h)
  case shown =>
    intro attributes span hfirst
    constructor
    · intro h
      exact variableNode_of_dotted hfirst (isPath_iff_dotted.1 h) span
    · exact isPath_of_variableNode
  case assigned =>
    intro v
    constructor
    · intro h
      exact assignment?_of_dotted (isPath_iff_dotted.1 h) v
    · exact isPath_of_assignment?
  case asked =>
    intro h
    exact ⟨_, exists_read_of_dotted (isPath_iff_dotted.1 h)⟩
  case everyVariable =>
    constructor
    · intro h
      have hfirst : Attribute.First [⟨['v'], p⟩] Attribute.pathKeys p :=
        ⟨[], ['v'], [], rfl, by simp [Attribute.pathKeys], by simp⟩
      exact ⟨_, ⟨0, 0⟩, variableNode_of_dotted hfirst (isPath_iff_dotted.1 h) _⟩
    · rintro ⟨attributes, span, h⟩
      exact isPath_of_variableNode h
  case everyAssignment =>
    constructor
    · intro h
      exact ⟨_, _, assignment?_of_dotted (isPath_iff_dotted.1 h) []⟩
    · rintro ⟨t, v, h⟩
      exact isPath_of_assignment? h

def strength : Text := "player.strength_2".toList

/-- A tag that gives the path by the longer key, behind an attribute that is none of its. -/
def shownStrength : List Attribute :=
  [⟨"title".toList, "no path".toList⟩, ⟨"value".toList, strength⟩]

/-- A path is shown, compared and set.  With a point more it is none, and no condition has
    it. -/
theorem isPath_agrees_of_strength :
    isPath strength ∧ Attribute.First shownStrength Attribute.pathKeys strength ∧
      Builder.variableNode shownStrength ⟨3, 45⟩ = .ok (.var strength ⟨3, 45⟩) ∧
      (∃ c, Condition.read "player.strength_2 == 1".toList = .ok c ∧ c.path = strength) ∧
      CommandLine.assignment? "player.strength_2=a=b".toList =
        some (strength, .text "a=b".toList) ∧
      ∀ expr c, Condition.read expr = .ok c → c.path ≠ "player..strength_2".toList := by
  have hpath : isPath strength := by decide +kernel
  have hfirst : Attribute.First shownStrength Attribute.pathKeys strength :=
    ⟨[⟨"title".toList, "no path".toList⟩], "value".toList, [], rfl, by decide +kernel,
      by decide +kernel⟩
  obtain ⟨-, hcompared, hshown, hassigned, -⟩ := isPath_agrees strength
  refine ⟨hpath, hfirst, (hshown _ _ hfirst).1 hpath, hcompared.1 hpath, ?_, ?_⟩
  · have hset := (hassigned "a=b".toList).1 hpath
    rwa [show Value.infer "a=b".toList = .text "a=b".toList by decide +kernel] at hset
  · intro expr c hread hc
    obtain ⟨-, -, -, -, hasked, -⟩ := isPath_agrees "player..strength_2".toList
    have hnone : ¬isPath "player..strength_2".toList := by decide +kernel
    exact hnone (hasked.2 ⟨expr, c, hread, hc⟩)

end Scenery.Path
