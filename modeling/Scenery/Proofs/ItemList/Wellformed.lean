/-
  Scenery/Proofs/ItemList/Wellformed.lean
  =======================================
  **Templates that parse after a change.**  A `<` that starts no tag is text, and a change
  keeps it so: in front of a comma, of a tag and at the end of a list it starts none
  either (`parses_of_inserted`, `parses_of_requantified`).

  Only the ` and ` between two members can make a tag of it.  That takes a deletion which
  leaves two members, the first of them a loose text such as `<if` (`Member.FormsTag`).
  All other changes lead from templates that parse to templates that parse, and so does
  every run of them; after this one the template does not parse (`parses_of_changed`).
-/
import Scenery.Proofs.ItemList.Members

namespace Scenery

/-- A template can be parsed. -/
def Parses (template : Text) : Prop := ∃ root, Node.parse template = .ok root

theorem Finds.parses {template : Text} {list : Option Text} {s : ListSite}
    (h : Finds template list s) : Parses template := by
  obtain ⟨root, hparse, -⟩ := h
  exact ⟨root, hparse⟩

theorem not_parses_of_unscannable {template : Text} (h : Lexeme.Unscannable template) :
    ¬Parses template := by
  rintro ⟨root, hparse⟩
  obtain ⟨e, he⟩ := h 0
  have hscan : Token.scan template = .error e := he
  rw [Node.parse, hscan] at hparse
  cases hparse

namespace Member

/-- Two members of which the first becomes a tag that cannot be read: the `and` behind it
    is no attribute, for no `=` follows. -/
def SpoilsTag : List Member → Prop
  | [m, m'] => m.tagged = false ∧ EndsInTagName m.text ∧
      (m'.tagged = false → m'.text.head? ≠ some '=')
  | _ => False

theorem not_formsTag_cons_tagged {m : Member} (h : m.tagged = true) (ms : List Member) :
    ¬FormsTag (m :: ms) := by
  match ms with
  | [] => exact id
  | [m'] =>
    rintro ⟨hm, -⟩
    rw [h] at hm
    cases hm
  | m' :: m'' :: ms => exact id

theorem not_formsTag_of_not_mem {ms : List Member}
    (h : ∀ m ∈ ms, m.tagged = false → '<' ∉ m.text) : ¬FormsTag ms := by
  match ms with
  | [] => exact id
  | [m] => exact id
  | [m, m'] =>
    rintro ⟨hm, u, closes, name, tag, hu, -⟩
    apply h m List.mem_cons_self hm
    rw [hu]
    simp
  | m :: m' :: m'' :: ms => exact id

/-- What stands behind the `and` is no `=`. -/
theorem head?_skipBlanks_markup {m : Member} (ht : m.Trimmed)
    (h : m.tagged = false → m.text.head? ≠ some '=') (x : Text) :
    (TagText.skipBlanks (m.markup ++ x)).head? ≠ some '=' := by
  rcases htagged : m.tagged with _ | _
  · obtain ⟨hne, -, hstart⟩ := ht htagged
    obtain ⟨c, t, hct⟩ := List.exists_cons_of_ne_nil hne
    rw [hct, Text.notStarting_cons] at hstart
    have hc : Text.isTagBlank c = false := by
      rw [← Bool.not_eq_true]
      intro hblank
      rw [Text.isBlank_of_isTagBlank hblank] at hstart
      cases hstart
    have hskip : TagText.skipBlanks (m.markup ++ x) = c :: (t ++ x) := by
      rw [markup, if_neg (by simp [htagged]), hct]
      have hblanks : TagText.IsBlanks [] := by simp [TagText.IsBlanks]
      exact TagText.skipBlanks_append hblanks (Text.notStarting_cons.2 hc)
    have hhead := h htagged
    rw [hct] at hhead
    rw [hskip]
    exact hhead
  · rw [markup, if_pos htagged]
    intro hhead
    cases hhead

end Member

namespace ListChange

open Branch

variable {template : Text} {list : Option Text} {s : ListSite} {item : Item}

/-! ### Changes that keep tags -/

section Kept

variable {members : List Member} {phrase : Text}

theorem plain_of_mem_ofNodes (h : Finds template list s) (hcond : s.isConditional = false) :
    ∀ m ∈ Member.ofNodes s.children, Plain m.text ['<'] := by
  rw [h.ofNodes_children hcond]
  exact h.plain_of_mem_below

theorem plain_of_mem_inserted (s : ListSite) (hphrase : Plain phrase ['<'])
    (h : ∀ m ∈ members, Plain m.text ['<']) :
    ∀ m ∈ inserted s phrase members, Plain m.text ['<'] := by
  apply of_mem_inserted s h
  · intro m hm
    exact (Prose.recased_decapitalize m.text).plain (h m hm)
  · exact hphrase
  · exact (Prose.recased_capitalize phrase).plain hphrase

theorem plain_of_mem_deleted (s : ListSite) (index : Nat)
    (h : ∀ m ∈ members, Plain m.text ['<']) :
    ∀ m ∈ deleted s index members, Plain m.text ['<'] := by
  apply of_mem_deleted s index h
  intro m hm
  exact (Prose.recased_capitalize m.text).plain (h m hm)

theorem trimmed_of_mem_inserted (s : ListSite) (phrase : Text) :
    ∀ m ∈ inserted s phrase (Member.ofNodes s.children), m.Trimmed := by
  apply of_mem_inserted s Member.trimmed_of_mem_ofNodes
  · intro m hm
    exact (Member.trimmed_of_mem_ofNodes m hm).recased (Prose.recased_decapitalize m.text)
  · intro htagged
    cases htagged
  · intro htagged
    cases htagged

theorem trimmed_of_mem_deleted (s : ListSite) (index : Nat) :
    ∀ m ∈ deleted s index (Member.ofNodes s.children), m.Trimmed := by
  apply of_mem_deleted s index Member.trimmed_of_mem_ofNodes
  intro m hm
  exact (Member.trimmed_of_mem_ofNodes m hm).recased (Prose.recased_capitalize m.text)

/-- A new member comes in front, in tags, so nothing before an `and` becomes one. -/
theorem plainRow_inserted (h : Finds template list s) (hcond : s.isConditional = false)
    (hphrase : '<' ∉ phrase) :
    Member.PlainRow (Member.enumerated (inserted s phrase (Member.ofNodes s.children))) := by
  apply Member.plainRow_enumerated
  · exact plain_of_mem_inserted s (plain_of_not_mem hphrase _) (plain_of_mem_ofNodes h hcond)
  · rw [inserted]
    split
    · exact Member.not_formsTag_cons_tagged rfl _
    · exact Member.not_formsTag_cons_tagged rfl _

end Kept

theorem parses_of_requantified (h : Finds template list s) {e : ListSite.Entry}
    (he : s.findEntry? item = some e) {count : Nat}
    (hphrase : '<' ∉ Prose.quantityPhrase item count) {template' : Text}
    (hchange : withQuantity template e item count = .changed template') : Parses template' := by
  obtain ⟨t, s', A, B, hresult, hfinds, -⟩ := h.withQuantity he hphrase
  cases hchange.symm.trans hresult
  exact hfinds.parses

theorem parses_of_written (h : Finds template list s) {members : List Member}
    (hrow : Member.PlainRow (Member.enumerated members)) {before : Nat} {template' : Text}
    (hchange : withMembers template s members before = .changed template') :
    Parses template' := by
  obtain ⟨t, s', hresult, hfinds, -⟩ := h.withMembers hrow before
  cases hchange.symm.trans hresult
  exact hfinds.parses

theorem parses_of_inserted (h : Finds template list s) (hcond : s.isConditional = false)
    {phrase : Text} (hphrase : '<' ∉ phrase) {before : Nat} {template' : Text}
    (hchange : withMembers template s (inserted s phrase (Member.ofNodes s.children)) before =
      .changed template') : Parses template' :=
  parses_of_written h (plainRow_inserted h hcond hphrase) hchange

/-! ### Changes that make a tag -/

/-- A text that becomes a tag which cannot be read spoils the template. -/
theorem not_parses_of_spoilsTag (h : Finds template list s) {members : List Member}
    (hplain : ∀ m ∈ members, Plain m.text ['<']) (ht : ∀ m ∈ members, m.Trimmed)
    (hspoils : Member.SpoilsTag members) {before : Nat} {template' : Text}
    (hchange : withMembers template s members before = .changed template') :
    ¬Parses template' := by
  obtain ⟨w, b, hfound, rfl, rfl⟩ := Found.exists_of_finds h
  rw [withMembers_fill hfound] at hchange
  cases hchange
  match members with
  | [m, m'] =>
    obtain ⟨hm, ⟨u, closes, name, tag, hu, hname⟩, hm'⟩ := hspoils
    obtain ⟨opening, piece, closing, hopening, hsource⟩ :=
      exists_source_withContent hfound.isList hfound.stands
    have hsound := sound_agreeing w [m, m'] before hfound.sound
    generalize agreeing w [m, m'] before = w' at hsound
    -- the text that has become a tag, and what stands around it
    have htext : sourceAll (weave [] (Member.enumerated [m, m'])) =
        u ++ '<' :: (TagText.slash closes ++ name ++ (" and ".toList ++ m'.markup)) := by
      have hmarkup : m.markup = u ++ '<' :: (TagText.slash closes ++ name) := by
        rw [Member.markup, if_neg (by simp [hm]), hu]
      rw [sourceAll_weave, Member.enumerated]
      simp only [List.flatMap_cons, List.flatMap_nil, Member.markup_loose, hmarkup,
        List.nil_append, List.append_nil, List.append_assoc, List.cons_append]
    have htemplate : sourceAll (w'.fill (b.withContent (weave [] (Member.enumerated [m, m'])))) =
        Lexeme.sources (w'.lexemesBefore ++ .tag opening piece :: lexemesAll (ofText u)) ++
          '<' :: (TagText.slash closes ++ name ++
            (" and ".toList ++ (m'.markup ++ (closing ++ w'.textAfter)))) := by
      have hofText : Lexeme.sources (lexemesAll (ofText u)) = u := sourceAll_ofText u
      rw [w'.sourceAll_fill, hsource, htext, Setting.textBefore]
      simp only [Lexeme.sources_append, Lexeme.sources_cons, Lexeme.source_tag, hofText,
        List.append_assoc, List.cons_append]
    have hu' : Plain u ['<'] := by
      have hplain' := hplain m List.mem_cons_self
      rw [hu, plain_append] at hplain'
      exact hplain'.1.breaksName (by decide) []
    have hspelled : Lexeme.Spelled ['<']
        (w'.lexemesBefore ++ .tag opening piece :: lexemesAll (ofText u)) :=
      Lexeme.spelled_append_tag.2 ⟨hsound.before, hopening, spelled_ofText hu'⟩
    obtain ⟨fault, hfault⟩ := readTag_and hname closes
      (Member.head?_skipBlanks_markup (ht m' (by simp)) hm' (closing ++ w'.textAfter))
    rw [htemplate]
    apply not_parses_of_unscannable
    exact Lexeme.unscannable_sources hspelled (Lexeme.unscannable_of_fault hfault)

/-- A change takes an entry out of a list, and the members that are left are such. -/
def Leaves (P : List Member → Prop) (template : Text) (item : Item) (list : Option Text) : Prop :=
  ∃ s e index, Finds template list s ∧ item.quantity = .count 0 ∧ s.findEntry? item = some e ∧
    (Member.ofNodes s.children).findIdx? (fun m => m.source == some e.place.span) =
      some index ∧
    P (deleted s index (Member.ofNodes s.children))

section Deletion

variable {e : ListSite.Entry} {index : Nat}

/-- What a change leaves of a list is what the deletion of the entry leaves. -/
theorem leaves_iff {P : List Member → Prop} (h : Finds template list s)
    (hq : item.quantity = .count 0) (he : s.findEntry? item = some e)
    (hindex : (Member.ofNodes s.children).findIdx? (fun m => m.source == some e.place.span) =
      some index) :
    Leaves P template item list ↔ P (deleted s index (Member.ofNodes s.children)) := by
  constructor
  · rintro ⟨s', e', index', hs', -, he', hindex', hleft⟩
    obtain rfl := finds_unique h hs'
    cases he.symm.trans he'
    cases hindex.symm.trans hindex'
    exact hleft
  · intro hleft
    exact ⟨s, e, index, h, hq, he, hindex, hleft⟩

/-- A deletion keeps texts and tags apart unless what it leaves forms a tag. -/
theorem plainRow_deleted (h : Finds template list s) (hcond : s.isConditional = false)
    (hq : item.quantity = .count 0) (he : s.findEntry? item = some e)
    (hindex : (Member.ofNodes s.children).findIdx? (fun m => m.source == some e.place.span) =
      some index)
    (hleaves : ¬Leaves Member.FormsTag template item list) :
    Member.PlainRow (Member.enumerated (deleted s index (Member.ofNodes s.children))) := by
  apply Member.plainRow_enumerated
  · exact plain_of_mem_deleted s index (plain_of_mem_ofNodes h hcond)
  · rw [leaves_iff h hq he hindex] at hleaves
    exact hleaves

end Deletion

theorem parses_of_change {template' : Text} (hitem : item.Plain)
    (hchange : add template item list = .ok (.changed template') ∨
      remove template item list = .ok (.changed template'))
    (hleaves : ¬Leaves Member.FormsTag template item list) : Parses template' := by
  obtain ⟨s, hs⟩ := exists_finds_of_changed hchange
  rcases changed_cases hs hchange with ⟨count, e, hq, hcount, he, hresult⟩ |
    ⟨count, hq, hcount, hnone, hcond, hresult⟩ | ⟨e, index, hq, he, hcond, hindex, hresult⟩
  · exact parses_of_requantified hs he (Prose.lt_not_mem_quantityPhrase hitem count) hresult
  · exact parses_of_inserted hs hcond (Prose.lt_not_mem_quantityPhrase hitem count) hresult
  · exact parses_of_written hs (plainRow_deleted hs hcond hq he hindex hleaves) hresult

theorem not_parses_of_change {template' : Text}
    (hchange : add template item list = .ok (.changed template') ∨
      remove template item list = .ok (.changed template'))
    (hleaves : Leaves Member.SpoilsTag template item list) : ¬Parses template' := by
  obtain ⟨s, e, index, hs, hq, he, hindex, hspoils⟩ := hleaves
  rcases changed_cases hs hchange with ⟨count, -, hq', hcount, -⟩ |
    ⟨count, hq', hcount, -⟩ | ⟨e', index', -, he', hcond, hindex', hresult⟩
  · cases hq.symm.trans hq'
    exact absurd hcount (by decide)
  · cases hq.symm.trans hq'
    exact absurd hcount (by decide)
  · cases he.symm.trans he'
    cases hindex.symm.trans hindex'
    apply not_parses_of_spoilsTag hs _ _ hspoils hresult
    · exact plain_of_mem_deleted s index (plain_of_mem_ofNodes hs hcond)
    · exact trimmed_of_mem_deleted s index

/-- Changes of whatever lists one after another, none of which leaves a tag that is not
    one. -/
inductive TagRun : Text → Text → Prop where
  | none (template : Text) : TagRun template template
  | change {template template' template'' : Text} {item : Item} {list : Option Text} :
    TagRun template template' → item.Plain → ¬Leaves Member.FormsTag template' item list →
    (add template' item list = .ok (.changed template'') ∨
      remove template' item list = .ok (.changed template'')) →
    TagRun template template''

theorem parses_of_run {template' : Text} (h : Parses template) (hrun : TagRun template template') :
    Parses template' := by
  induction hrun with
  | none => exact h
  | change _ hitem hleaves hchange _ => exact parses_of_change hitem hchange hleaves

/-- **Which changes keep a template whole.**  The template parses afterwards unless a
    deletion leaves two members of which the first becomes the start of a tag; it does not
    parse if that tag is spoilt.  So every run of other changes only reaches templates
    that parse. -/
theorem parses_of_changed (h : Parses template) :
    (∀ item list template', item.Plain →
      (add template item list = .ok (.changed template') ∨
        remove template item list = .ok (.changed template')) →
      (¬Leaves Member.FormsTag template item list → Parses template') ∧
      (Leaves Member.SpoilsTag template item list → ¬Parses template')) ∧
    ∀ template', TagRun template template' → Parses template' := by
  constructor
  · intro item list template' hitem hchange
    constructor
    · intro hleaves
      exact parses_of_change hitem hchange hleaves
    · intro hleaves
      exact not_parses_of_change hchange hleaves
  · intro template' hrun
    exact parses_of_run h hrun

/-- A sentence with text that looks like a tag and is none. -/
def angleSentence : Text := "<s><il><if, x < 3, <item>a DOG</item></il></s>".toList

/-- A cat joins the dog, and the template parses.  The dog leaves, and it does not. -/
theorem parses_of_changed_cat_dog :
    ∃ joined left, Parses angleSentence ∧
      Item.Plain ⟨"CAT".toList, .count 1, "a CAT".toList, none⟩ ∧
      add angleSentence ⟨"CAT".toList, .count 1, "a CAT".toList, none⟩ none =
        .ok (.changed joined) ∧
      TagRun angleSentence joined ∧ Parses joined ∧
      Item.Plain ⟨"DOG".toList, .count 0, "a DOG".toList, none⟩ ∧
      remove angleSentence ⟨"DOG".toList, .count 0, "a DOG".toList, none⟩ none =
        .ok (.changed left) ∧
      Leaves Member.SpoilsTag angleSentence ⟨"DOG".toList, .count 0, "a DOG".toList, none⟩ none ∧
      ¬Parses left := by
  obtain ⟨s, hs, e, he, hindex, hdeleted⟩ := exists_finds angleSentence none
    (fun s => ∃ e ∈ s.findEntry? ⟨"DOG".toList, .count 0, "a DOG".toList, none⟩,
      (Member.ofNodes s.children).findIdx? (fun m => m.source == some e.place.span) = some 2 ∧
      deleted s 2 (Member.ofNodes s.children) =
        [Member.loose "<if".toList, Member.loose "x < 3".toList]) (by decide +kernel)
  have hplain {name singular : Text} {quantity : Quantity} (hname : '<' ∉ name)
      (hsingular : '<' ∉ singular) : Item.Plain ⟨name, quantity, singular, none⟩ := by
    constructor
    · exact hname
    · exact hsingular
    · intro p hp
      cases hp
  have hcat : Item.Plain ⟨"CAT".toList, .count 1, "a CAT".toList, none⟩ :=
    hplain (by decide) (by decide)
  have hdog : Item.Plain ⟨"DOG".toList, .count 0, "a DOG".toList, none⟩ :=
    hplain (by decide) (by decide)
  have hadd : add angleSentence ⟨"CAT".toList, .count 1, "a CAT".toList, none⟩ none =
      .ok (.changed
        "<s><il><item>A CAT</item>, <if, x < 3, and <item>a DOG</item></il></s>".toList) :=
    eq_ok_of_toOption (by decide +kernel)
  have hremove : remove angleSentence ⟨"DOG".toList, .count 0, "a DOG".toList, none⟩ none =
      .ok (.changed "<s><il><if and x < 3</il></s>".toList) :=
    eq_ok_of_toOption (by decide +kernel)
  have hkeeps : ¬Leaves Member.FormsTag angleSentence
      ⟨"CAT".toList, .count 1, "a CAT".toList, none⟩ none := by
    rintro ⟨_, _, _, -, hq, -⟩
    cases hq
  have hspoils : Leaves Member.SpoilsTag angleSentence
      ⟨"DOG".toList, .count 0, "a DOG".toList, none⟩ none := by
    rw [leaves_iff hs rfl he hindex, hdeleted]
    exact ⟨rfl, ⟨[], false, ['i', 'f'], .conditional, rfl, by decide⟩, fun _ => by decide⟩
  have hrun : TagRun angleSentence _ := .change (.none angleSentence) hcat hkeeps (.inl hadd)
  have hkept := parses_of_changed hs.parses
  exact ⟨_, _, hs.parses, hcat, hadd, hrun, hkept.2 _ hrun, hdog, hremove, hspoils,
    (hkept.1 _ _ _ hdog (.inr hremove)).2 hspoils⟩

/-- The `z` leaves, and with the `and` behind it `<if` becomes a tag. -/
theorem not_parses_of_if :
    ∃ item template', Parses "<s><il><if, x, <item>z</item></il></s>".toList ∧ item.Plain ∧
      remove "<s><il><if, x, <item>z</item></il></s>".toList item none =
        .ok (.changed template') ∧
      ¬Parses template' := by
  obtain ⟨s, hs, -⟩ := exists_finds "<s><il><if, x, <item>z</item></il></s>".toList none
    (fun _ => True) (by decide +kernel)
  refine ⟨⟨['z'], .count 0, ['z'], none⟩, "<s><il><if and x</il></s>".toList, hs.parses, ?_,
    eq_ok_of_toOption (by decide +kernel), ?_⟩
  · constructor
    · decide
    · decide
    · intro p hp
      cases hp
  · rintro ⟨root, hparse⟩
    have herror : (Node.parse "<s><il><if and x</il></s>".toList).toOption = none := by
      decide +kernel
    rw [hparse] at herror
    cases herror

end ListChange

end Scenery
