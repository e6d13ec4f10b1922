/-
  Scenery/Proofs/Document/Keys.lean
  =================================
  **Documents that are read have each key once.**  Both readers put members at their place
  in the order of the keys, instead of one with the same key.  So the tables of a document
  are in ascending order, at any depth (`Json.ascending_of_read?`,
  `Toml.ascending_of_read?`).

  Of JSON the open objects are in order after every token.  The tables of a TOML document
  are made and changed by its statements, in many ways, but all of them end in putting a
  member somewhere; what has to be known of a draft is only that its finished value is in
  order (`Toml.Members.Ordered`).
-/
import Scenery.Proofs.Document.KeyPath

namespace Scenery

/-- A property that every step keeps holds at the end. -/
theorem invariant_of_foldlM {S A : Type} {P : S → Prop} {step : S → A → Option S}
    {as : List A} {s s' : S} (hstep : ∀ s, ∀ a ∈ as, ∀ s', P s → step s a = some s' → P s')
    (hs : P s) (h : as.foldlM step s = some s') : P s' := by
  induction as generalizing s with
  | nil =>
    cases h
    exact hs
  | cons a as ih =>
    rw [List.foldlM_cons, Option.bind_eq_bind, Option.bind_eq_some_iff] at h
    obtain ⟨next, hnext, hrest⟩ := h
    refine ih ?_ (hstep s a List.mem_cons_self next hs hnext) hrest
    intro s a ha
    exact hstep s a (List.mem_cons_of_mem _ ha)

/-- A member that is put at its place keeps a table in order. -/
theorem Format.Ascending.insertInto {D : Type} {F : Format D} {root root' inner : D} {key : Text}
    (hroot : F.Ascending root) (hinner : F.Ascending inner)
    (hmembers : F.members root' = Dictionary.insertInto key inner (F.members root)) :
    F.Ascending root' := by
  obtain ⟨hsorted, hbelow⟩ := ascending_iff.1 hroot
  rw [ascending_iff, hmembers]
  refine ⟨Dictionary.pairwise_insertInto hsorted, ?_⟩
  intro m hm
  rcases Dictionary.mem_insertInto hm with rfl | hm
  · exact hinner
  · exact hbelow m hm

/-! ### JSON -/

namespace Json

/-- What is kept of an open array or object. -/
def Frame.Ordered : Frame → Prop
  | .array _ => True
  | .object members _ => format.Ascending (.object members)

/-- All that a state keeps is in order. -/
def State.Ordered : State → Prop
  | .value frames | .firstItem frames | .firstKey frames => ∀ f ∈ frames, f.Ordered
  | .key members frames | .colon members _ frames =>
    format.Ascending (.object members) ∧ ∀ f ∈ frames, f.Ordered
  | .done v frames => format.Ascending v ∧ ∀ f ∈ frames, f.Ordered

/-- A token that is a value has no members. -/
def Token.Simple : Token → Prop
  | .mark _ => True
  | .scalar v => format.members v = []

theorem ascending_array (items : List Json) : format.Ascending (.array items) :=
  Format.ascending_of_members_eq_nil rfl

variable {frames : List Frame} {s s' : State} {token : Token}

theorem ordered_of_startValue? (hframes : ∀ f ∈ frames, f.Ordered) (htoken : token.Simple)
    (h : startValue? frames token = some s) : s.Ordered := by
  unfold startValue? at h
  split at h
  · cases h
    exact ⟨Format.ascending_of_members_eq_nil htoken, hframes⟩
  · split at h
    · cases h
      exact hframes
    · cases h
  · split at h
    · cases h
      exact hframes
    · cases h
  · cases h

/-- **Every token keeps what is open in order.** -/
theorem ordered_of_next? (hs : s.Ordered) (htoken : token.Simple) (h : s.next? token = some s') :
    s'.Ordered := by
  unfold State.next? at h
  split at h
  · exact ordered_of_startValue? hs htoken h
  · cases h
    exact ⟨ascending_array [], hs⟩
  · refine ordered_of_startValue? ?_ htoken h
    exact List.forall_mem_cons.2 ⟨trivial, hs⟩
  · cases h
    exact ⟨Format.ascending_of_members_eq_nil rfl, hs⟩
  · cases h
    exact ⟨Format.ascending_of_members_eq_nil rfl, hs⟩
  · cases h
    exact hs
  · cases h
    exact List.forall_mem_cons.2 hs
  · cases h
    obtain ⟨-, hframes⟩ := hs
    exact List.forall_mem_cons.2 ⟨trivial, (List.forall_mem_cons.1 hframes).2⟩
  · cases h
    obtain ⟨-, hframes⟩ := hs
    exact ⟨ascending_array _, (List.forall_mem_cons.1 hframes).2⟩
  · cases h
    obtain ⟨hv, hframes⟩ := hs
    obtain ⟨hobject, hframes⟩ := List.forall_mem_cons.1 hframes
    exact ⟨Format.Ascending.insertInto hobject hv rfl, hframes⟩
  · cases h
    obtain ⟨hv, hframes⟩ := hs
    obtain ⟨hobject, hframes⟩ := List.forall_mem_cons.1 hframes
    exact ⟨Format.Ascending.insertInto hobject hv rfl, hframes⟩
  · cases h

theorem simple_of_readToken? {t rest : Text} (h : readToken? t = some (token, rest)) :
    token.Simple := by
  unfold readToken? at h
  split at h
  · cases h
    rfl
  · cases h
    rfl
  · cases h
    rfl
  · obtain ⟨⟨s, r⟩, -, hpair⟩ := Option.map_eq_some_iff.1 h
    cases hpair
    rfl
  · split at h
    · cases h
      trivial
    · obtain ⟨⟨n, r⟩, -, hpair⟩ := Option.map_eq_some_iff.1 h
      cases hpair
      rfl
  · cases h

theorem simple_of_tokens? {t : Text} {tokens : List Token} (h : tokens? t = some tokens) :
    ∀ token ∈ tokens, token.Simple := by
  fun_induction tokens? t generalizing tokens with
  | case1 =>
    cases h
    nofun
  | case2 => cases h
  | case3 t c s _ token rest hread _ ih =>
    obtain ⟨more, hmore, rfl⟩ := Option.map_eq_some_iff.1 h
    exact List.forall_mem_cons.2 ⟨simple_of_readToken? hread, ih hmore⟩
  | case4 => cases h

/-- **The objects of a JSON document are in ascending order of their keys.** -/
theorem ascending_of_read? {t : Text} {v : Json} (h : read? t = some v) : format.Ascending v := by
  rw [read?] at h
  split at h
  · cases h
  · next tokens htokens =>
    split at h
    · next v' hfold =>
      cases h
      have hordered : State.Ordered (.done v []) := by
        refine invariant_of_foldlM ?_ ?_ hfold
        · intro s token htoken s' hs hnext
          exact ordered_of_next? hs (simple_of_tokens? htokens token htoken) hnext
        · exact List.forall_mem_nil _
      exact hordered.1
    · cases h

end Json

/-! ### TOML -/

namespace Toml

theorem ascending_array (items : List Toml) : format.Ascending (.array items) :=
  Format.ascending_of_members_eq_nil rfl

theorem membersToToml_insertInto (key : Text) (d : Draft) (members : Members) :
    membersToToml (Dictionary.insertInto key d members) =
      Dictionary.insertInto key d.toToml (membersToToml members) := by
  induction members with
  | nil => simp [Dictionary.insertInto, membersToToml]
  | cons first members ih =>
    obtain ⟨key', d'⟩ := first
    rw [Dictionary.insertInto, membersToToml, Dictionary.insertInto]
    simp only
    split
    · rw [membersToToml, membersToToml]
    · split
      · rw [membersToToml]
      · rw [membersToToml, ih]

theorem mem_membersToToml {key : Text} {d : Draft} {members : Members} (h : (key, d) ∈ members) :
    (key, d.toToml) ∈ membersToToml members := by
  induction members with
  | nil => cases h
  | cons first members ih =>
    obtain ⟨key', d'⟩ := first
    rw [membersToToml]
    rcases List.mem_cons.1 h with heq | h
    · cases heq
      exact List.mem_cons_self
    · exact List.mem_cons_of_mem _ (ih h)

namespace Members

/-- The table that members make is in order. -/
def Ordered (members : Members) : Prop := format.Ascending (.table (membersToToml members))

theorem ordered_nil : Ordered [] := by
  apply Format.ascending_of_members_eq_nil
  rw [membersToToml]
  rfl

variable {members members' : Members} {key : Text} {d : Draft} {origin : Origin}

theorem Ordered.put (h : members.Ordered) (hd : format.Ascending d.toToml) :
    (put key d members).Ordered :=
  Format.Ascending.insertInto h hd (membersToToml_insertInto key d members)

theorem ascending_table (h : members.Ordered) :
    format.Ascending (Draft.table origin members).toToml := by
  rw [Draft.toToml]
  exact h

theorem ascending_tables (last : Members) (earlier : List Members) :
    format.Ascending (Draft.tables last earlier).toToml := by
  rw [Draft.toToml]
  exact ascending_array _

theorem Ordered.lookup (h : members.Ordered) (hd : members.lookup key = some d) :
    format.Ascending d.toToml := by
  have hmem : (key, d) ∈ members := by
    obtain ⟨before, after, rfl, -⟩ := List.lookup_eq_some_iff.1 hd
    exact List.mem_append_right _ List.mem_cons_self
  exact (Format.ascending_iff.1 h).2 _ (mem_membersToToml hmem)

theorem Ordered.inner (h : members.Ordered) {inner : Members}
    (hd : members.lookup key = some (.table origin inner)) : inner.Ordered := by
  have hinner := h.lookup hd
  rw [Draft.toToml] at hinner
  exact hinner

/-- **A change somewhere below keeps a table in order** if it does so where it is made. -/
theorem ordered_of_change {made : Origin} {f : Origin → Members → Option Members}
    (hf : ∀ origin ms ms', Ordered ms → f origin ms = some ms' → Ordered ms') {path : List Text}
    (h : members.Ordered) (hchange : change made f path origin members = some members') :
    members'.Ordered := by
  induction path generalizing origin members members' with
  | nil => exact hf origin members members' h hchange
  | cons key path ih =>
    rw [change] at hchange
    split at hchange
    · obtain ⟨inner, hinner, rfl⟩ := Option.map_eq_some_iff.1 hchange
      exact h.put (ascending_table (ih ordered_nil hinner))
    · cases hchange
    · next hlookup =>
      split at hchange
      · cases hchange
      · obtain ⟨inner, hinner, rfl⟩ := Option.map_eq_some_iff.1 hchange
        exact h.put (ascending_table (ih (h.inner hlookup) hinner))
    · obtain ⟨last, -, rfl⟩ := Option.map_eq_some_iff.1 hchange
      exact h.put (ascending_tables _ _)

theorem ordered_of_changeParent {made : Origin}
    {f : List Text → Text → Origin → Members → Option Members}
    (hf : ∀ above key origin ms ms', Ordered ms → f above key origin ms = some ms' → Ordered ms')
    {path : List Text} (h : members.Ordered)
    (hchange : changeParent made f path origin members = some members') : members'.Ordered := by
  rw [changeParent] at hchange
  split at hchange
  · cases hchange
  · exact ordered_of_change (hf _ _) h hchange

theorem ordered_of_define {v : Toml} (hv : format.Ascending v) {path : List Text}
    (h : members.Ordered) (hdefine : define path v origin members = some members') :
    members'.Ordered := by
  refine ordered_of_changeParent ?_ h hdefine
  intro above key origin ms ms' hms hkey
  rw [defineKey] at hkey
  split at hkey
  · cases hkey
  · split at hkey
    · cases hkey
    · cases hkey
      exact hms.put hv

theorem ordered_of_openTable {path : List Text} (h : members.Ordered)
    (hopen : openTable path members = some members') : members'.Ordered := by
  refine ordered_of_changeParent ?_ h hopen
  intro above key origin ms ms' hms hkey
  split at hkey
  · cases hkey
    exact hms.put (ascending_table ordered_nil)
  · next hlookup =>
    cases hkey
    exact hms.put (ascending_table (hms.inner hlookup))
  · cases hkey

theorem ordered_of_appendTable {path : List Text} (h : members.Ordered)
    (happend : appendTable path members = some members') : members'.Ordered := by
  refine ordered_of_changeParent ?_ h happend
  intro above key origin ms ms' hms hkey
  split at hkey
  · cases hkey
    exact hms.put (ascending_tables _ _)
  · cases hkey
    exact hms.put (ascending_tables _ _)
  · cases hkey

end Members

/-! #### Values of statements -/

section Values

variable {t rest : Text} {v : Toml}

theorem members_of_integer? {i : Int} (h : integer? i = some v) : format.members v = [] := by
  simp only [integer?] at h
  split at h
  · cases h
    rfl
  · cases h

theorem members_of_real? {d : Decimal} (h : real? d = some v) : format.members v = [] := by
  rw [real?] at h
  split at h
  · cases h
  · cases h
    rfl

theorem members_of_readUnsigned? {negative : Bool} (h : readUnsigned? negative t = some (v, rest)) :
    format.members v = [] := by
  simp only [readUnsigned?, Option.bind_eq_bind, Option.bind_eq_some_iff, Prod.exists] at h
  obtain ⟨whole, t₁, -, fraction, t₂, -, power, t₃, -, h⟩ := h
  split at h
  · obtain ⟨v', hinteger, hpair⟩ := Option.bind_eq_some_iff.1 h
    cases hpair
    exact members_of_integer? hinteger
  · obtain ⟨v', hreal, hpair⟩ := Option.bind_eq_some_iff.1 h
    cases hpair
    exact members_of_real? hreal

theorem members_of_readInRadix? {radix : Nat} (h : readInRadix? radix t = some (v, rest)) :
    format.members v = [] := by
  simp only [readInRadix?, Option.bind_eq_bind, Option.bind_eq_some_iff, Prod.exists] at h
  obtain ⟨digits, t', -, n, -, v', hinteger, hpair⟩ := h
  cases hpair
  exact members_of_integer? hinteger

theorem members_of_readNumber? (h : readNumber? t = some (v, rest)) :
    format.members v = [] := by
  unfold readNumber? at h
  split at h
  · exact members_of_readInRadix? h
  · exact members_of_readInRadix? h
  · exact members_of_readInRadix? h
  · split at h
    · cases h
      rfl
    · cases h
      rfl
    · exact members_of_readUnsigned? h

/-- A scalar has no members. -/
theorem members_of_readScalar? (h : readScalar? t = some (v, rest)) : format.members v = [] := by
  unfold readScalar? at h
  split at h
  · cases h
    rfl
  · cases h
    rfl
  · split at h
    · obtain ⟨⟨s, r⟩, -, hpair⟩ := Option.map_eq_some_iff.1 h
      cases hpair
      rfl
    · split at h
      · cases h
        rfl
      · exact members_of_readNumber? h
  · cases h

/-- Whatever is read as a value is in order. -/
def ReadsOrdered (value : Text → Option (Toml × Text)) : Prop :=
  ∀ t v rest, value t = some (v, rest) → format.Ascending v

variable {value : Text → Option (Toml × Text)} {path : List Text}

theorem ascending_of_readPair? (hvalue : ReadsOrdered value) {pair : List Text × Toml}
    (h : readPair? value t = some (pair, rest)) : format.Ascending pair.2 := by
  rw [readPair?] at h
  split at h
  · obtain ⟨⟨v, rest'⟩, hv, hpair⟩ := Option.map_eq_some_iff.1 h
    cases hpair
    exact hvalue _ _ _ hv
  · cases h

theorem ascending_of_readPairs? (hvalue : ReadsOrdered value)
    {pairs : List (List Text × Toml)} (h : readPairs? value t = some (pairs, rest)) :
    ∀ pair ∈ pairs, format.Ascending pair.2 := by
  fun_induction readPairs? value t generalizing pairs rest with
  | case1 => cases h
  | case2 t pair rest' hpair =>
    cases h
    exact List.forall_mem_cons.2 ⟨ascending_of_readPair? hvalue hpair, nofun⟩
  | case3 t pair rest' hpair _ _ _ ih =>
    obtain ⟨⟨more, r⟩, hmore, heq⟩ := Option.map_eq_some_iff.1 h
    cases heq
    exact List.forall_mem_cons.2 ⟨ascending_of_readPair? hvalue hpair, ih hmore⟩
  | case4 => cases h
  | case5 => cases h

theorem ascending_of_readInlineTable? (hvalue : ReadsOrdered value)
    (h : readInlineTable? value t = some (v, rest)) : format.Ascending v := by
  unfold readInlineTable? at h
  split at h
  · cases h
    exact Format.ascending_of_members_eq_nil rfl
  · simp only [Option.bind_eq_bind, Option.bind_eq_some_iff, Prod.exists] at h
    obtain ⟨pairs, rest', hpairs, members, hmembers, hpair⟩ := h
    cases hpair
    refine invariant_of_foldlM (P := Members.Ordered) ?_ Members.ordered_nil hmembers
    intro ms pair hpair ms' hms hdefine
    exact Members.ordered_of_define (ascending_of_readPairs? hvalue hpairs pair hpair) hms hdefine

/-- Values are in order, however deep their inline tables are nested. -/
theorem ascending_of_readValue? (levels : Nat) : ReadsOrdered (readValue? levels) := by
  induction levels with
  | zero =>
    intro t v rest h
    have hscalar : readScalar? t = some (v, rest) := by
      unfold readValue? at h
      split at h
      · cases h
      · cases h
      · next hlevels => cases hlevels
      · next hlevels => cases hlevels
      · exact h
    exact Format.ascending_of_members_eq_nil (members_of_readScalar? hscalar)
  | succ levels ih =>
    intro t v rest h
    unfold readValue? at h
    split at h
    · next hlevels => cases hlevels
    · next hlevels => cases hlevels
    · obtain ⟨⟨items, r⟩, -, hpair⟩ := Option.map_eq_some_iff.1 h
      cases hpair
      exact ascending_array items
    · next hlevels =>
      cases hlevels
      exact ascending_of_readInlineTable? ih h
    · exact Format.ascending_of_members_eq_nil (members_of_readScalar? h)

/-- What a statement gives to a key is in order. -/
def Statement.Ordered : Statement → Prop
  | .member _ v => format.Ascending v
  | _ => True

theorem ordered_of_readStatement? {statement : Statement}
    (h : readStatement? t = some (statement, rest)) : statement.Ordered := by
  unfold readStatement? at h
  split at h
  · split at h
    · cases h
      trivial
    · cases h
  · split at h
    · cases h
      trivial
    · cases h
  · cases h
    trivial
  · split at h
    · cases h
      trivial
    · obtain ⟨⟨pair, r⟩, hpair, heq⟩ := Option.map_eq_some_iff.1 h
      cases heq
      exact ascending_of_readPair? (ascending_of_readValue? _) hpair

theorem ordered_of_readStatements? {statements : List Statement}
    (h : readStatements? t = some statements) : ∀ s ∈ statements, s.Ordered := by
  fun_induction readStatements? t generalizing statements with
  | case1 =>
    cases h
    nofun
  | case2 => cases h
  | case3 => cases h
  | case4 t _ statement rest hstatement rest' _ _ ih =>
    obtain ⟨more, hmore, rfl⟩ := Option.map_eq_some_iff.1 h
    exact List.forall_mem_cons.2 ⟨ordered_of_readStatement? hstatement, ih hmore⟩
  | case5 => cases h

end Values

/-- **Every statement keeps a document in order.** -/
theorem ordered_of_next? {d d' : Document} {statement : Statement} (hd : d.members.Ordered)
    (hstatement : statement.Ordered) (h : d.next? statement = some d') : d'.members.Ordered := by
  cases statement with
  | nothing =>
    cases h
    exact hd
  | table path =>
    obtain ⟨members, hmembers, rfl⟩ := Option.map_eq_some_iff.1 h
    exact Members.ordered_of_openTable hd hmembers
  | appended path =>
    obtain ⟨members, hmembers, rfl⟩ := Option.map_eq_some_iff.1 h
    exact Members.ordered_of_appendTable hd hmembers
  | member path v =>
    obtain ⟨members, hmembers, rfl⟩ := Option.map_eq_some_iff.1 h
    refine Members.ordered_of_change ?_ hd hmembers
    intro origin ms ms' hms hdefine
    exact Members.ordered_of_define hstatement hms hdefine

/-- **The tables of a TOML document are in ascending order of their keys.** -/
theorem ascending_of_read? {t : Text} {members : List (Text × Toml)}
    (h : read? t = some members) : format.Ascending (.table members) := by
  simp only [read?, Option.bind_eq_bind, Option.bind_eq_some_iff] at h
  obtain ⟨statements, hstatements, d, hd, hmembers⟩ := h
  cases hmembers
  refine invariant_of_foldlM (P := fun d => d.members.Ordered) ?_ Members.ordered_nil hd
  intro d statement hstatement d' hordered hnext
  exact ordered_of_next? hordered (ordered_of_readStatements? hstatements _ hstatement) hnext

end Toml

end Scenery
