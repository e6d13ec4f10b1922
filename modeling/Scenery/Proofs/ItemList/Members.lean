/-
  Scenery/Proofs/ItemList/Members.lean
  ====================================
  **Members that are written.**  Three things matter of the members that a change
  writes: that no tag comes about between them (`Member.Writable`), that their loose
  phrases come apart into themselves (`Phrased`), and how such a phrase starts
  (`Member.Trimmed`).  A member that enters or leaves, and the capital that moves with
  it, keep all three.
-/
import Scenery.Proofs.ItemList.Edited

namespace Scenery

namespace Member

variable {m : Member} {t : Text}

/-- A member that an enumeration can be made of: what is not in tags is a phrase. -/
def Phrased (m : Member) : Prop := m.tagged = false → Prose.IsPhrase m.text

/-- What is known of a member that is read: without tags it is what taking a text apart
    has found. -/
def Trimmed (m : Member) : Prop :=
  m.tagged = false → m.text ≠ [] ∧ ',' ∉ m.text ∧ Text.NotStarting Text.isBlank m.text

theorem trimmed_of_mem_ofNodes {ns : List Node} : ∀ m ∈ ofNodes ns, m.Trimmed := by
  intro m hm htagged
  obtain ⟨n, -, hn⟩ := List.mem_flatMap.1 hm
  cases n with
  | entry t p =>
    rw [ofNode, List.mem_singleton] at hn
    rw [hn] at htagged
    cases htagged
  | text raw span =>
    rw [ofNode] at hn
    obtain ⟨p, hp, rfl⟩ := List.mem_map.1 hn
    obtain ⟨hne, hcomma, -, hstart, -⟩ := Prose.of_mem_split hp
    exact ⟨hne, hcomma, hstart⟩
  | element | var => cases hn

/-! ### Other capitals -/

theorem Writable.recased (h : m.Writable) (ht : Prose.Recased m.text t) :
    ({ m with text := t } : Member).Writable := by
  rw [Writable] at h ⊢
  by_cases htagged : m.tagged
  · rw [if_pos htagged] at h ⊢
    exact ht.plain h
  · rw [if_neg htagged] at h ⊢
    exact ht.not_mem (by decide) h

theorem Trimmed.recased (h : m.Trimmed) (ht : Prose.Recased m.text t) :
    ({ m with text := t } : Member).Trimmed := by
  intro htagged
  obtain ⟨hne, hcomma, hstart⟩ := h htagged
  exact ⟨ht.ne_nil hne, ht.not_mem (by decide) hcomma, ht.notStarting hstart⟩

theorem Phrased.capitalize (h : m.Phrased) :
    ({ m with text := Prose.capitalize m.text } : Member).Phrased := fun htagged =>
  Prose.isPhrase_capitalize (h htagged)

end Member

namespace ListChange

/-! ### Members that enter and leave -/

section Kept

variable {P : Member → Prop} {members : List Member}

theorem of_mem_mapFirst {f : Text → Text} (h : ∀ m ∈ members, P m)
    (hf : ∀ m ∈ members, P { m with text := f m.text }) : ∀ m ∈ mapFirst f members, P m := by
  cases members with
  | nil => exact h
  | cons m ms =>
    intro m' hm'
    rcases List.mem_cons.1 hm' with rfl | hm'
    · exact hf m List.mem_cons_self
    · exact h m' (List.mem_cons_of_mem _ hm')

/-- What holds of members whatever their capitals holds with a new one in front. -/
theorem of_mem_inserted (s : ListSite) {phrase : Text} (h : ∀ m ∈ members, P m)
    (hlower : ∀ m ∈ members, P { m with text := Prose.decapitalize m.text })
    (hnew : P ⟨phrase, true, none⟩) (hupper : P ⟨Prose.capitalize phrase, true, none⟩) :
    ∀ m ∈ inserted s phrase members, P m := by
  intro m hm
  rw [inserted] at hm
  split at hm
  · rcases List.mem_cons.1 hm with rfl | hm
    · exact hupper
    · exact of_mem_mapFirst h hlower m hm
  · rcases List.mem_cons.1 hm with rfl | hm
    · exact hnew
    · exact h m hm

/-- And it holds of the members that are left when one is taken out. -/
theorem of_mem_deleted (s : ListSite) (index : Nat) (h : ∀ m ∈ members, P m)
    (hupper : ∀ m ∈ members, P { m with text := Prose.capitalize m.text }) :
    ∀ m ∈ deleted s index members, P m := by
  have hrest : ∀ m ∈ members.eraseIdx index, P m := fun m hm => h m (List.mem_of_mem_eraseIdx hm)
  intro m hm
  simp only [deleted] at hm
  split at hm
  · exact of_mem_mapFirst hrest (fun m hm => hupper m (List.mem_of_mem_eraseIdx hm)) m hm
  · exact hrest m hm

end Kept

theorem deleted_middle (s : ListSite) (A B : List Member) (m : Member) :
    deleted s A.length (A ++ m :: B) =
      if s.opensSentence ∧ A = [] then mapFirst Prose.capitalize B else A ++ B := by
  have herase : (A ++ m :: B).eraseIdx A.length = A ++ B := by
    rw [List.eraseIdx_append_of_length_le (Nat.le_refl _), Nat.sub_self]
    rfl
  rw [deleted, herase]
  by_cases hA : A = []
  · simp [hA]
  · simp [hA]

@[simp] theorem length_mapFirst (f : Text → Text) (members : List Member) :
    (mapFirst f members).length = members.length := by
  cases members <;> rfl

theorem length_inserted (s : ListSite) (phrase : Text) (members : List Member) :
    (inserted s phrase members).length = members.length + 1 := by
  rw [inserted]
  split <;> simp

theorem length_deleted_middle (s : ListSite) (A B : List Member) (m : Member) :
    (deleted s A.length (A ++ m :: B)).length = A.length + B.length := by
  rw [deleted_middle]
  split
  · next h => simp [h.2]
  · simp

theorem map_bare_mapFirst (f : Text → Text) (members : List Member) :
    (mapFirst f members).map Member.bare = mapFirst f (members.map Member.bare) := by
  cases members <;> rfl

theorem isPlural_map_bare (members : List Member) :
    isPlural (members.map Member.bare) = isPlural members := by
  simp [isPlural, Function.comp_def]

theorem map_bare_inserted (s : ListSite) (phrase : Text) (members : List Member) :
    (inserted s phrase members).map Member.bare = inserted s phrase (members.map Member.bare) := by
  rw [inserted, inserted]
  split
  · rw [List.map_cons, map_bare_mapFirst]
    rfl
  · rfl

theorem map_bare_deleted (s : ListSite) (index : Nat) (members : List Member) :
    (deleted s index members).map Member.bare = deleted s index (members.map Member.bare) := by
  have herase : (members.eraseIdx index).map Member.bare =
      (members.map Member.bare).eraseIdx index := by
    simp [List.eraseIdx_eq_take_drop_succ, List.map_take, List.map_drop]
  simp only [deleted]
  split
  · rw [map_bare_mapFirst, herase]
  · exact herase

section Written

open Branch

theorem agreeing_of_map_bare (w : Setting) {members row : List Member}
    (h : members.map Member.bare = row.map Member.bare) (before : Nat) :
    agreeing w members before = agreeing w row before := by
  have hnil : members ≠ [] ↔ row ≠ [] := by
    rw [ne_eq, ← List.map_eq_nil_iff (f := Member.bare), h, List.map_eq_nil_iff]
  have hlength : members.length = row.length := by
    rw [← List.length_map Member.bare, h, List.length_map]
  have hplural : isPlural members = isPlural row := by
    rw [← isPlural_map_bare, h, isPlural_map_bare]
  rw [agreeing, agreeing, hlength, hplural]
  simp only [hnil]

/-- Members are written the same wherever they have been read. -/
theorem withMembers_of_map_bare {list : Option Text} {w : Setting} {b : Branch}
    (h : Found list w b) {members row : List Member}
    (hrow : members.map Member.bare = row.map Member.bare) (before : Nat) :
    withMembers (sourceAll (w.fill b)) (w.site b) members before =
      .changed (sourceAll ((agreeing w row before).fill
        (b.withContent (weave [] (Member.enumerated row))))) := by
  have hweave : weave [] (Member.enumerated members) = weave [] (Member.enumerated row) := by
    rw [← weave_map_bare, ← Member.enumerated_map_bare, hrow, Member.enumerated_map_bare,
      weave_map_bare]
  rw [withMembers_fill h, agreeing_of_map_bare w hrow, hweave]

end Written

section Read

variable {template : Text} {list : Option Text} {s : ListSite}

/-- The members of a list can be written, if no `<` stands outside of tags. -/
theorem writable_of_mem_ofNodes (h : Finds template list s) (hcond : s.isConditional = false)
    (hloose : ∀ m ∈ Member.ofNodes s.children, m.tagged = false → '<' ∉ m.text) :
    ∀ m ∈ Member.ofNodes s.children, m.Writable := by
  intro m hm
  rcases htagged : m.tagged with _ | _
  · rw [Member.Writable, if_neg (by simp [htagged])]
    exact hloose m hm htagged
  · rw [Member.Writable, if_pos htagged]
    rw [h.ofNodes_children hcond] at hm
    exact h.plain_of_mem_below m hm

theorem writable_of_mem_inserted (s : ListSite) {phrase : Text} (hphrase : '<' ∉ phrase)
    {members : List Member}
    (h : ∀ m ∈ members, m.Writable) : ∀ m ∈ inserted s phrase members, m.Writable :=
  of_mem_inserted s h (fun m hm => (h m hm).recased (Prose.recased_decapitalize m.text))
    (plain_of_not_mem hphrase _)
    (plain_of_not_mem ((Prose.recased_capitalize phrase).not_mem (by decide) hphrase) _)

theorem writable_of_mem_deleted (s : ListSite) (index : Nat) {members : List Member}
    (h : ∀ m ∈ members, m.Writable) : ∀ m ∈ deleted s index members, m.Writable :=
  of_mem_deleted s index h fun m hm => (h m hm).recased (Prose.recased_capitalize m.text)

/-- Members that are written are read again, if their loose phrases stay whole. -/
theorem exists_written (h : Finds template list s) {members : List Member}
    (hw : ∀ m ∈ members, m.Writable) (hp : ∀ m ∈ members, m.Phrased) (before : Nat) :
    ∃ template' s', withMembers template s members before = .changed template' ∧
      Finds template' list s' ∧ SamePlace template template' s s' ∧
      (Member.ofNodes s'.children).map Member.bare = members.map Member.bare := by
  obtain ⟨template', s', hchange, hfinds, hplace, -, hmembers, -⟩ :=
    h.withMembers (Member.plainRow_of_writable hw) before
  exact ⟨template', s', hchange, hfinds, hplace, by
    rw [hmembers, Member.gathered_enumerated hp]⟩

end Read

end ListChange

end Scenery
