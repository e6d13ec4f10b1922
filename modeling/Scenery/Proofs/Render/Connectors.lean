/-
  Scenery/Proofs/Render/Connectors.lean
  =====================================
  **Connectors in rendered lists.**  A list is rendered from the entries and texts that
  its conditions let through (`reachedAll`).  Texts that meet because what stood between
  them has dropped out are one run, and a run is taken apart as a whole.

  So the members are the entries alone exactly if every run comes apart into nothing:
  between two commas of a run may stand one connecting word, but of two the second is
  kept as a member (`listMembers_eq_entryTexts_iff`).
-/
import Scenery.Proofs.ItemList.Edited
import Scenery.Render

namespace Scenery.Render

mutual
/-- The entries and texts at and below a node of a list whose conditions hold. -/
def reached (ctx : Context) : Node → Except EvalError (List Node)
  | .element kind _ children =>
    match kind with
    | .conditional c =>
      match c.eval ctx with
      | .error e => .error e
      | .ok true => reachedAll ctx children
      | .ok false => .ok []
    | _ => .ok []
  | .entry t p => .ok [.entry t p]
  | .text raw s => .ok [.text raw s]
  | .var _ _ => .ok []

/-- The entries and texts at and below nodes of a list whose conditions hold. -/
def reachedAll (ctx : Context) : List Node → Except EvalError (List Node)
  | [] => .ok []
  | n :: ns =>
    match reached ctx n with
    | .error e => .error e
    | .ok found =>
      match reachedAll ctx ns with
      | .error e => .error e
      | .ok rest => .ok (found ++ rest)
end

/-- The texts of entries that are more than blanks, trimmed. -/
def entryTexts : List Node → List Text
  | [] => []
  | .entry t _ :: ns => (Text.trimmed? t).toList ++ entryTexts ns
  | _ :: ns => entryTexts ns

/-- The runs of text before, between and behind entries; `pending` is the text since the
    last entry. -/
def runs (pending : Text) : List Node → List Text
  | [] => [pending]
  | .entry _ _ :: ns => pending :: runs [] ns
  | .text raw _ :: ns => runs (pending ++ raw) ns
  | _ :: ns => runs pending ns

/-- The phrases of the runs and the texts of the entries between them. -/
def woven (pending : Text) : List Node → List Text
  | [] => Prose.split pending
  | .entry t _ :: ns => Prose.split pending ++ ((Text.trimmed? t).toList ++ woven [] ns)
  | .text raw _ :: ns => woven (pending ++ raw) ns
  | _ :: ns => woven pending ns

/-! ### What is gathered -/

/-- Takes an entry or a text. -/
def take (g : Gathered) : Node → Gathered
  | .entry t _ => g.entry t
  | .text raw _ => g.text raw
  | _ => g

mutual
/-- Gathering a node is taking what is reached in it. -/
theorem gather_eq (ctx : Context) (g : Gathered) (n : Node) :
    gather ctx g n = (reached ctx n).map fun ns => ns.foldl take g := by
  cases n with
  | entry t p | text raw s | var path s =>
    rw [gather, reached]
    rfl
  | element kind place children =>
    cases kind with
    | wrapper | sentence | list name =>
      simp only [gather, reached]
      rfl
    | conditional c =>
      simp only [gather, reached]
      rcases c.eval ctx with e | _ | _
      · rfl
      · rfl
      · exact gatherAll_eq ctx g children

theorem gatherAll_eq (ctx : Context) (g : Gathered) (ns : List Node) :
    gatherAll ctx g ns = (reachedAll ctx ns).map fun ns => ns.foldl take g := by
  cases ns with
  | nil =>
    rw [gatherAll, reachedAll]
    rfl
  | cons n ns =>
    rw [gatherAll, reachedAll, gather_eq ctx g n]
    rcases reached ctx n with e | found
    · rfl
    · simp only [Except.map]
      rw [gatherAll_eq ctx _ ns]
      rcases reachedAll ctx ns with e | rest
      · rfl
      · simp [Except.map]
end

theorem all_foldl_take (ns : List Node) (g : Gathered) :
    (ns.foldl take g).all = g.members ++ woven g.loose ns := by
  induction ns generalizing g with
  | nil => rfl
  | cons n ns ih =>
    rw [List.foldl_cons, ih]
    cases n with
    | entry t p => simp [take, Gathered.entry, Gathered.all, woven]
    | text raw s => rfl
    | element | var => rfl

theorem listMembers_eq (ctx : Context) (children : List Node) :
    listMembers ctx children = (reachedAll ctx children).map (woven []) := by
  rw [listMembers, gatherAll_eq]
  rcases reachedAll ctx children with e | ns
  · rfl
  · simp only [Except.map, all_foldl_take, List.nil_append]

theorem inline_list (ctx : Context) (name : Option Text) (place : Place) (children : List Node) :
    inline ctx (.element (.list name) place children) =
      (listMembers ctx children).map fun members => ⟨Prose.join members, !members.isEmpty⟩ := by
  rw [inline]
  rcases listMembers ctx children with e | _ | ⟨m, ms⟩ <;> rfl

/-! ### Runs that leave nothing -/

theorem length_entryTexts_le (ns : List Node) (pending : Text) :
    (entryTexts ns).length ≤ (woven pending ns).length := by
  induction ns generalizing pending with
  | nil => exact Nat.zero_le _
  | cons n ns ih =>
    cases n with
    | entry t p =>
      have hle := ih []
      simp only [woven, entryTexts, List.length_append]
      omega
    | text raw s => exact ih _
    | element | var => exact ih _

theorem woven_eq_entryTexts (ns : List Node) (pending : Text)
    (h : ∀ run ∈ runs pending ns, Prose.split run = []) : woven pending ns = entryTexts ns := by
  induction ns generalizing pending with
  | nil => exact h pending (by simp [runs])
  | cons n ns ih =>
    cases n with
    | entry t p =>
      rw [runs] at h
      rw [woven, entryTexts, h pending List.mem_cons_self,
        ih [] fun run hrun => h run (List.mem_cons_of_mem _ hrun), List.nil_append]
    | text raw s => exact ih _ h
    | element | var => exact ih _ h

/-- The phrases of runs are members in excess of the entries. -/
theorem split_eq_nil_of_mem_runs {ns : List Node} {pending : Text}
    (h : woven pending ns = entryTexts ns) : ∀ run ∈ runs pending ns, Prose.split run = [] := by
  induction ns generalizing pending with
  | nil =>
    intro run hrun
    rw [List.mem_singleton.1 hrun]
    exact h
  | cons n ns ih =>
    cases n with
    | entry t p =>
      rw [woven, entryTexts] at h
      have hlength := congrArg List.length h
      have hle := length_entryTexts_le ns []
      simp only [List.length_append] at hlength
      have hnil : Prose.split pending = [] := List.length_eq_zero_iff.1 (by omega)
      rw [hnil, List.nil_append] at h
      intro run hrun
      rcases List.mem_cons.1 hrun with rfl | hrun
      · exact hnil
      · exact ih (List.append_cancel_left h) run hrun
    | text raw s => exact ih h
    | element | var => exact ih h

theorem woven_eq_entryTexts_iff (ns : List Node) (pending : Text) :
    woven pending ns = entryTexts ns ↔ ∀ run ∈ runs pending ns, Prose.split run = [] :=
  ⟨split_eq_nil_of_mem_runs, woven_eq_entryTexts ns pending⟩

/-- **The members of a rendered list are its entries alone** exactly if between two
    commas of every run there is no more than one connecting word. -/
theorem listMembers_eq_entryTexts_iff {ctx : Context} {children ns : List Node}
    (h : reachedAll ctx children = .ok ns) (name : Option Text) (place : Place) :
    ∃ members, listMembers ctx children = .ok members ∧
      inline ctx (.element (.list name) place children) =
        .ok ⟨Prose.join members, !members.isEmpty⟩ ∧
      (members = entryTexts ns ↔ ∀ run ∈ runs [] ns, ∀ piece ∈ run.splitOn ',',
        Text.trim piece = [] ∨ Text.trim piece = Prose.andWord) := by
  have hmembers : listMembers ctx children = .ok (woven [] ns) := by
    rw [listMembers_eq, h]
    rfl
  refine ⟨woven [] ns, hmembers, ?_, ?_⟩
  · rw [inline_list, hmembers]
    rfl
  · rw [woven_eq_entryTexts_iff]
    exact forall_congr' fun run => imp_congr_right fun _ => Prose.split_eq_nil_iff run

/-- The context of somebody who owns no rose. -/
def roseless : Context := .ofList [("rose".toList, .boolean false)]

/-- Two tools, and a rose between commas for those who own one. -/
def commaSeparated : Text :=
  "<s><il><item>a SAW</item>, <if cond='rose == true'><item>a ROSE</item></if>, and
    <item>a HAMMER</item></il></s>".toList

/-- The commas meet when there is no rose, and nothing comes of them. -/
theorem listMembers_eq_entryTexts_of_commas :
    ∃ s ns, Finds commaSeparated none s ∧ reachedAll roseless s.children = .ok ns ∧
      entryTexts ns = ["a SAW".toList, "a HAMMER".toList] ∧
      listMembers roseless s.children = .ok (entryTexts ns) := by
  obtain ⟨s, hs, hreached⟩ := exists_finds commaSeparated none
    (fun s => (reachedAll roseless s.children).toOption.any fun ns =>
      entryTexts ns = ["a SAW".toList, "a HAMMER".toList] ∧
        ∀ run ∈ runs [] ns, ∀ piece ∈ run.splitOn ',',
          Text.trim piece = [] ∨ Text.trim piece = Prose.andWord) (by decide +kernel)
  obtain ⟨ns, hns, hchecked⟩ := (Option.any_eq_true _ _).1 hreached
  obtain ⟨hentries, hruns⟩ := of_decide_eq_true hchecked
  have h := eq_ok_of_toOption hns
  obtain ⟨members, hmembers, -, hiff⟩ := listMembers_eq_entryTexts_iff h s.name s.place
  rw [hiff.2 hruns] at hmembers
  exact ⟨s, ns, hs, h, hentries, hmembers⟩

/-! ### Connectors that are left -/

/-- A text of nothing but blanks, commas and connecting words. -/
def OnlyConnectors (t : Text) : Prop :=
  ∀ word ∈ t.splitOnP fun c => Text.isBlank c || c == ',', word = [] ∨ word = Prose.andWord

instance (t : Text) : Decidable (OnlyConnectors t) := by
  unfold OnlyConnectors
  infer_instance

/-- Two tools, and a rose between connecting words for those who own one. -/
def andSeparated : Text :=
  "<s><il><item>a SAW</item> and <if cond='rose == true'><item>a ROSE</item></if> and
    <item>a HAMMER</item></il></s>".toList

/-- The connecting words meet when there is no rose, and one of them is a member. -/
theorem listMembers_ne_entryTexts_of_ands :
    ∃ s ns, Finds andSeparated none s ∧
      (∀ n ∈ Node.descendantsOfAll s.children, OnlyConnectors (Node.rawText n)) ∧
      reachedAll roseless s.children = .ok ns ∧
      entryTexts ns = ["a SAW".toList, "a HAMMER".toList] ∧
      listMembers roseless s.children =
        .ok ["a SAW".toList, "and".toList, "a HAMMER".toList] ∧
      render andSeparated roseless = .ok "a SAW, and, and a HAMMER".toList := by
  obtain ⟨s, hs, htexts, hreached, hmembers⟩ := exists_finds andSeparated none
    (fun s => (∀ n ∈ Node.descendantsOfAll s.children, OnlyConnectors (Node.rawText n)) ∧
      ((reachedAll roseless s.children).toOption.any fun ns =>
        entryTexts ns = ["a SAW".toList, "a HAMMER".toList]) ∧
      (listMembers roseless s.children).toOption =
        some ["a SAW".toList, "and".toList, "a HAMMER".toList]) (by decide +kernel)
  obtain ⟨ns, hns, hentries⟩ := (Option.any_eq_true _ _).1 hreached
  exact ⟨s, ns, hs, htexts, eq_ok_of_toOption hns, of_decide_eq_true hentries,
    eq_ok_of_toOption hmembers, eq_ok_of_toOption (by decide +kernel)⟩

end Scenery.Render
