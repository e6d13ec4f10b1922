/-
  Scenery/Proofs/Render/RoundTrip.lean
  ====================================
  **Writing members and reading them back.**  The markup of an enumeration of members is
  taken apart into the same members, tagged and loose ones, and every context renders
  it as the enumeration of their texts (`read_listTemplate`).

  What an entry holds may be anything; a loose member has to be a phrase.
-/
import Scenery.Proofs.Render.Connectors

namespace Scenery

namespace Member

/-- A member that can be told from its neighbours: without blanks at its ends and without
    tags, and without a connector of its own if it is not tagged. -/
structure Authored (m : Member) : Prop where
  ne_nil : m.text ≠ []
  trimmed : Text.trim m.text = m.text
  untagged : '<' ∉ m.text
  comma : m.tagged = false → ',' ∉ m.text
  word : m.tagged = false → Prose.andWord ∉ m.text.splitOnP Text.isBlank

theorem Authored.isPhrase {m : Member} (h : m.Authored) (htagged : m.tagged = false) :
    Prose.IsPhrase m.text :=
  Prose.isPhrase_of_words h.ne_nil h.trimmed (h.comma htagged) (h.word htagged)

theorem Authored.writable {m : Member} (h : m.Authored) : m.Writable := by
  rw [Writable]
  split
  · exact plain_of_not_mem h.untagged _
  · exact h.untagged

end Member

namespace Branch

/-! ### Lists without conditions -/

variable {around : List Tag} {bs : List Branch} {ctx : Context}

/-- Everything in a list without conditions is reached, in every context. -/
theorem reachedAll_nodes (hlist : .list ∈ around) (h : NestedAll around bs)
    (hcond : bs.any isConditional = false) (offset : Nat) :
    Render.reachedAll ctx (nodes offset bs) = .ok (nodes offset bs) := by
  induction bs generalizing offset with
  | nil => rw [nodes_nil, Render.reachedAll]
  | cons b bs ih =>
    obtain ⟨hb, hbs⟩ := nestedAll_cons.1 h
    rw [List.any_cons, Bool.or_eq_false_iff] at hcond
    have hreached : Render.reached ctx (b.node offset) = .ok [b.node offset] := by
      cases b with
      | text raw => rw [node, Render.reached]
      | var s attributes sc path =>
        rw [Nested] at hb
        exact absurd (hb.1.1 .list hlist) (by simp [Tag.forbids])
      | single s attributes o | block s attributes o c content =>
        rw [Nested] at hb
        rcases opened_of_fitsIn_list hlist hb.1 with rfl | ⟨condition, rfl⟩
        · rw [node, Node.ofOpened, Render.reached]
        · cases hcond.1
    rw [nodes_cons, Render.reachedAll, hreached, ih hbs hcond.2]
    rfl

theorem filterMap_ofText (raw : Text) :
    (Member.ofText raw).filterMap (fun m => Text.trimmed? m.text) = Prose.split raw := by
  rw [Member.ofText, List.filterMap_map]
  apply Text.filterMap_trimmed?
  intro p hp
  obtain ⟨hne, -, -, hstart, hend⟩ := Prose.of_mem_split hp
  exact ⟨hne, Text.trim_eq_self hstart hend⟩

theorem woven_ofText (pending raw : Text) (bs : List Branch) (offset : Nat) :
    Render.woven pending (nodes offset (ofText raw ++ bs)) =
      Render.woven (pending ++ raw) (nodes (offset + Text.bytes raw) bs) := by
  by_cases hnil : raw = []
  · simp [ofText, hnil]
  · rw [ofText, if_neg hnil, List.singleton_append, nodes_cons, node, Render.woven, source_text]

/-- What is rendered of members that are written in a row are the texts of the members that
    are read, trimmed. -/
theorem woven_nodes_weave (pending : Text) (ms : List Member) (offset : Nat) :
    Render.woven [] (nodes offset (weave pending ms)) =
      (Member.gathered pending ms).filterMap fun m => Text.trimmed? m.text := by
  induction ms generalizing pending offset with
  | nil =>
    rw [weave, Member.gathered_nil, filterMap_ofText, ← List.append_nil (ofText pending),
      woven_ofText, nodes_nil, Render.woven, List.nil_append]
  | cons m ms ih =>
    rw [weave]
    rcases htagged : m.tagged with _ | _
    · rw [if_neg (by simp), Member.gathered_untagged htagged]
      exact ih _ _
    · obtain ⟨place, hplace⟩ := exists_node_entry m.text (offset + Text.bytes pending)
      rw [if_pos rfl, Member.gathered_tagged htagged, woven_ofText, List.nil_append, nodes_cons,
        hplace, Render.woven, ih, List.filterMap_append, filterMap_ofText, List.filterMap_cons,
        Member.bare_text]
      rcases Text.trimmed? m.text with _ | t
      · rfl
      · rfl

/-! ### A sentence with nothing but a list -/

/-- The template of a sentence with nothing but a list of members. -/
def listTemplate (ms : List Member) : Text :=
  "<s><il>".toList ++ Member.joined ms ++ "</il></s>".toList

/-- A list as it is written, with the members in it. -/
def listBranch (ms : List Member) : Branch :=
  .block "<il>".toList [] (.element (.list none)) "</il>".toList
    (weave [] (Member.enumerated ms))

/-- A sentence around the list. -/
def sentenceBranch (ms : List Member) : Branch :=
  .block "<s>".toList [] (.element .sentence) "</s>".toList [listBranch ms]

theorem sourceAll_sentenceBranch (ms : List Member) :
    sourceAll [sentenceBranch ms] = listTemplate ms := by
  have hlist : (listBranch ms).source = "<il>".toList ++ Member.joined ms ++ "</il>".toList := by
    rw [listBranch, source_block, sourceAll_weave, Member.flatMap_markup_enumerated]
    rfl
  unfold listTemplate
  simp [sentenceBranch, hlist]

theorem fitsIn_list : Tag.list.FitsIn [.sentence] := by
  constructor
  · intro parent hparent
    rw [List.mem_singleton.1 hparent]
    rfl
  · intro h
    cases h

theorem written_sentenceBranch {ms : List Member}
    (h : Member.PlainRow (Member.enumerated ms)) : Written [sentenceBranch ms] := by
  have hsentence : Lexeme.ReadsAs "<s>".toList (.opening .sentence [] false) :=
    readsAs_opening (show Tag.ofName? ['s'] = some .sentence from rfl)
  have hlist : Lexeme.ReadsAs "<il>".toList (.opening .list [] false) :=
    readsAs_opening (show Tag.ofName? ['i', 'l'] = some .list from rfl)
  have hend : Lexeme.ReadsAs "</s>".toList (.closing .sentence) := ⟨['/', 's', '>'], rfl, rfl⟩
  constructor
  · rw [lexemesAll_cons, lexemesAll_nil, List.append_nil, sentenceBranch, lexemes, lexemesAll_cons,
      lexemesAll_nil, List.append_nil, listBranch, lexemes]
    refine ⟨hsentence, Lexeme.spelled_append_tag.2 ⟨⟨hlist, ?_⟩, hend, trivial⟩⟩
    exact Lexeme.spelled_append_tag.2 ⟨spelled_weave (plain_nil _) h, readsAs_listEnd, trivial⟩
  · rw [NestedAll, NestedAll, sentenceBranch, Nested, NestedAll, NestedAll, listBranch, Nested]
    refine ⟨⟨?_, fun _ => rfl, ⟨fitsIn_list, fun _ => rfl, ?_⟩, trivial⟩, trivial⟩
    · constructor
      · intro parent hparent
        cases hparent
      · intro h
        cases h
    · exact nestedAll_weave (fitsIn_item fitsIn_list) [] _

/-- The tree of the sentence. -/
theorem parse_sentenceBranch {ms : List Member}
    (h : Member.PlainRow (Member.enumerated ms)) :
    ∃ whole sentence list, Node.parse (listTemplate ms) =
      .ok (.element .wrapper whole [.element .sentence sentence [.element (.list none) list
        (nodes 7 (weave [] (Member.enumerated ms)))]]) := by
  rw [← sourceAll_sentenceBranch, parse_sourceAll (written_sentenceBranch h), nodes_cons,
    nodes_nil, sentenceBranch, node, nodes_cons, nodes_nil, listBranch, node]
  exact ⟨_, _, _, rfl⟩

end Branch

namespace Render

open Branch

/-- A sentence with nothing but a list is rendered as the enumeration of its members, and
    as nothing if it has none. -/
theorem tree_of_list {ctx : Context} {children : List Node} {texts : List Text}
    (h : listMembers ctx children = .ok texts) (ht : ∀ t ∈ texts, t ≠ [] ∧ Text.trim t = t)
    (whole sentence place : Place) (name : Option Text) :
    tree ctx (.element .wrapper whole [.element .sentence sentence
      [.element (.list name) place children]]) = .ok (Prose.join texts) := by
  have hinline : inlineAll ctx [.element (.list name) place children] =
      .ok ⟨Prose.join texts, !texts.isEmpty⟩ := by
    rw [inlineAll, inline_list, h, inlineAll]
    simp [Except.map, Inline.append]
  have hcollect : collect ctx {} (.element .wrapper whole [.element .sentence sentence
      [.element (.list name) place children]]) =
        .ok (Units.sentence {} ⟨Prose.join texts, !texts.isEmpty⟩) := by
    rw [collect, collectAll, collect, hinline, Except.map]
    simp only [collectAll]
  rw [tree, units, hcollect]
  cases texts with
  | nil => rfl
  | cons t ts =>
    obtain ⟨hne, htrim⟩ := Prose.trim_join (List.cons_ne_nil t ts) ht
    have htrimmed := Text.trimmed?_eq_some.2 ⟨htrim, hne⟩
    have hnil : Text.trimmed? [] = none := rfl
    simp [Except.map, Units.sentence, Units.all, htrimmed, hnil]

theorem all_of_list (whole sentence place : Place) (name : Option Text) (children : List Node) :
    ListSite.all (.element .wrapper whole [.element .sentence sentence
      [.element (.list name) place children]]) = [⟨name, place, children, none, none, true⟩] := by
  simp [ListSite.all, ListSite.ofNodes, ListSite.ofNode, Node.children]

/-- **Members that are written are read back as they are**, in the same order and with the
    same tags, and in every context their texts are what is rendered. -/
theorem read_listTemplate {ms : List Member} (h : ∀ m ∈ ms, m.Authored) :
    ∃ root s, Node.parse (listTemplate ms) = .ok root ∧ ListSite.all root = [s] ∧
      (Member.ofNodes s.children).map Member.bare = ms.map Member.bare ∧
      ∀ ctx, listMembers ctx s.children = .ok (ms.map Member.text) ∧
        render (listTemplate ms) ctx = .ok (Prose.join (ms.map Member.text)) := by
  have hrow := Member.plainRow_of_writable fun m hm => (h m hm).writable
  obtain ⟨whole, sentence, place, hparse⟩ := parse_sentenceBranch hrow
  have hread := Member.gathered_enumerated fun m hm => (h m hm).isPhrase
  have hnested : NestedAll [.list, .sentence] (weave [] (Member.enumerated ms)) :=
    nestedAll_weave (fitsIn_item fitsIn_list) [] _
  have hcond := any_isConditional_weave [] (Member.enumerated ms)
  have htexts : ∀ t ∈ ms.map Member.text, t ≠ [] ∧ Text.trim t = t := by
    intro t ht
    obtain ⟨m, hm, rfl⟩ := List.mem_map.1 ht
    exact ⟨(h m hm).ne_nil, (h m hm).trimmed⟩
  have hmembers (ctx : Context) :
      listMembers ctx (nodes 7 (weave [] (Member.enumerated ms))) = .ok (ms.map Member.text) := by
    rw [listMembers_eq, reachedAll_nodes List.mem_cons_self hnested hcond, Except.map,
      woven_nodes_weave, hread, ← Text.filterMap_trimmed? htexts, List.filterMap_map,
      List.filterMap_map]
    rfl
  refine ⟨_, _, hparse, all_of_list whole sentence place none _, ?_, ?_⟩
  · rw [ofNodes_eq_below List.mem_cons_self hnested ((any_isConditional_nodes _ _).trans hcond),
      members_nodes List.mem_cons_self _ hnested, membersAll_weave, hread]
  · intro ctx
    refine ⟨hmembers ctx, ?_⟩
    have htree := tree_of_list (hmembers ctx) htexts whole sentence place none
    rw [render, hparse]
    simp only [htree]

/-- Entries with connectors of their own, and a phrase between them. -/
def pantry : List Member :=
  [⟨"salt, pepper and rice".toList, true, none⟩, ⟨"two of each".toList, false, none⟩,
    ⟨"and".toList, true, none⟩]

/-- Commas and connecting words stay with the entry that has them. -/
theorem read_listTemplate_pantry :
    listTemplate pantry = ("<s><il><item>salt, pepper and rice</item>, two of each, " ++
      "and <item>and</item></il></s>").toList ∧
    ∃ root s, Node.parse (listTemplate pantry) = .ok root ∧ ListSite.all root = [s] ∧
      (Member.ofNodes s.children).map Member.bare = pantry ∧
      ∀ ctx, render (listTemplate pantry) ctx =
        .ok "salt, pepper and rice, two of each, and and".toList := by
  have hauthored : ∀ m ∈ pantry, m.Authored := by
    intro m hm
    simp only [pantry, List.mem_cons, List.not_mem_nil, or_false] at hm
    rcases hm with rfl | rfl | rfl
    all_goals
      constructor
      · decide
      · rfl
      · decide
      · decide
      · decide
  have hjoin : Prose.join (pantry.map Member.text) =
      "salt, pepper and rice, two of each, and and".toList := by decide +kernel
  obtain ⟨root, s, hparse, hall, hmembers, hrender⟩ := read_listTemplate hauthored
  refine ⟨by decide +kernel, root, s, hparse, hall, hmembers, ?_⟩
  intro ctx
  rw [(hrender ctx).2, hjoin]

end Render

end Scenery
