/-
  Scenery/Proofs/ItemList/Commute.lean
  ====================================
  **Changes of different lists commute.**  What a change does is settled by its own list
  (`Plan.Settles`), and what it writes is on that list's side of the template
  (`Fork.Apart`).  So another list is found as before and stands in its sentence as before,
  and either of the two changes comes to the same whether the other one was made or not
  (`inTurn_comm`).

  Only a text next to both lists is on neither side, for its copula can be the one of
  either list.
-/
import Scenery.Proofs.ItemList.Fork
import Scenery.Proofs.ItemList.Plan

namespace Scenery

open Branch

namespace ListSite

/-- The texts right before and right behind a list, with the bytes where they start. -/
def neighbourTexts (s : ListSite) : List (Text × Nat) :=
  [s.previous, s.next].filterMap ListChange.neighbourText?

theorem mem_neighbourTexts {s : ListSite} {raw : Text} {span : Span}
    (h : s.previous = some (.text raw span) ∨ s.next = some (.text raw span)) :
    (raw, span.start) ∈ s.neighbourTexts := by
  apply List.mem_filterMap.2
  rcases h with h | h
  · exact ⟨_, List.mem_cons_self, by rw [h]; rfl⟩
  · exact ⟨_, List.mem_cons_of_mem _ List.mem_cons_self, by rw [h]; rfl⟩

end ListSite

namespace Setting

theorem all_isBlank_fill (v : Setting) {b : Branch} (hb : b.isText = false) :
    (v.fill b).all isBlank = false := by
  obtain ⟨_ | ⟨l, ls⟩, left, right⟩ := v
  · simp [fill, Layer.fillAll, isBlank_of_isText hb]
  · simp [fill, Layer.fillAll, Layer.block, isBlank]

end Setting

namespace Plan

open Setting

theorem isList_branch {b : Branch} (hb : b.IsList) (p : Plan) : (p.branch b).IsList := by
  obtain ⟨o, ho, hlist⟩ := hb
  exact ⟨o, by rw [p.opened?_branch, ho], hlist⟩

theorem listName?_branch (p : Plan) (b : Branch) : (p.branch b).listName? = b.listName? := by
  rw [listName?, listName?, p.opened?_branch]

theorem retexted_setting (p : Plan) (w : Setting) : Retexted w (p.setting w) := by
  cases p with
  | unchanged | requantified => exact .refl w
  | rewritten members before => exact ListChange.retexted_agreeing w members before

/-- What is around a list follows its change on its own side. -/
theorem setting_within {v : Setting} {xs ys : List Branch} (h : v.Owns xs ys)
    (outer : List Layer) (p : Plan) :
    p.setting (within outer xs ys v) = within outer xs ys (p.setting v) := by
  cases p with
  | unchanged | requantified => rfl
  | rewritten members before => exact ListChange.agreeing_within h outer members before

end Plan

namespace Fork

open Setting ListChange

variable {f : Fork} {b₁ b₂ : Branch} {list₁ list₂ : Option Text}

/-- A fork with the first place changed. -/
def onFirst (f : Fork) (p : Plan) : Fork := { f with first := p.setting f.first }

/-- A fork with the second place changed. -/
def onSecond (f : Fork) (p : Plan) : Fork := { f with second := p.setting f.second }

theorem Apart.onFirst (hf : f.Apart) (p : Plan) : (f.onFirst p).Apart :=
  hf.retexted (p.retexted_setting f.first) (.refl f.second)

theorem Apart.onSecond (hf : f.Apart) (p : Plan) : (f.onSecond p).Apart :=
  hf.retexted (.refl f.first) (p.retexted_setting f.second)

theorem setting_atFirst (hf : f.Apart) (hb₂ : b₂.IsList) (p : Plan) :
    p.setting (f.atFirst b₂) = (f.onFirst p).atFirst b₂ :=
  Plan.setting_within (hf.first b₂ (isText_of_isList hb₂)) f.outer p

theorem setting_atSecond (hf : f.Apart) (hb₁ : b₁.IsList) (p : Plan) :
    p.setting (f.atSecond b₁) = (f.onSecond p).atSecond b₁ :=
  Plan.setting_within (hf.second b₁ (isText_of_isList hb₁)) f.outer p

/-! ### The other list -/

theorem opens_atFirst (f : Fork) (p : Plan) (b b' : Branch) :
    ((f.onSecond p).atFirst b').opens = (f.atFirst b).opens :=
  opens_within f.outer _ _ f.first rfl

theorem opens_atSecond (f : Fork) (p : Plan) {b b' : Branch} (hb : b.IsList) (hb' : b'.IsList) :
    ((f.onFirst p).atSecond b').opens = (f.atSecond b).opens := by
  apply opens_within
  rw [all_isBlank_fill _ (isText_of_isList hb'), all_isBlank_fill _ (isText_of_isList hb)]

/-- The first list is found whatever happens to the second one. -/
theorem found_first (h₁ : Found list₁ (f.atFirst b₂) b₁) (p : Plan) {b₂' : Branch}
    (hwritten : Written ((f.onSecond p).fill b₁ b₂')) :
    Found list₁ ((f.onSecond p).atFirst b₂') b₁ := by
  obtain ⟨o, ho, -⟩ := h₁.isList
  rw [← fill_atFirst] at hwritten
  obtain ⟨hsound, hstands⟩ := (sound_and_stands ho).1 hwritten
  refine ⟨h₁.isList, hsound, hstands, ?_⟩
  have hnames : ((f.onSecond p).atFirst b₂').namesBefore = (f.atFirst b₂).namesBefore :=
    namesBefore_within f.outer _ _ _ f.first
  rw [hnames]
  exact h₁.resolves

/-- The second list is found if the first one has kept its name. -/
theorem found_second (hf : f.Apart) (h₁ : Found list₁ (f.atFirst b₂) b₁)
    (h₂ : Found list₂ (f.atSecond b₁) b₂) (p : Plan)
    (hwritten : Written ((f.onFirst p).fill (p.branch b₁) b₂)) :
    Found list₂ ((f.onFirst p).atSecond (p.branch b₁)) b₂ := by
  have hb₁' := p.isList_branch h₁.isList
  obtain ⟨o, ho, -⟩ := h₂.isList
  -- the names of all lists are the same as before, and so are those behind the second one
  have hall : (targetsAll Opened.isList ((f.onFirst p).fill (p.branch b₁) b₂)).map listName? =
      (targetsAll Opened.isList (f.fill b₁ b₂)).map listName? := by
    have hnested := hwritten.2
    rw [← fill_atFirst] at hnested
    have halike := p.alike_setting (f.atFirst b₂)
    rw [setting_atFirst hf h₂.isList] at halike
    rw [← fill_atFirst, ← fill_atFirst, map_listName?_fill hb₁' hnested,
      map_listName?_fill h₁.isList h₁.written.2, halike.before, halike.after, p.listName?_branch]
  have hafter : ((f.onFirst p).atSecond (p.branch b₁)).namesAfter = (f.atSecond b₁).namesAfter :=
    namesAfter_within f.outer _ _ _ f.second
  rw [← fill_atSecond] at hwritten
  rw [← fill_atSecond, ← fill_atSecond, map_listName?_fill h₂.isList hwritten.2,
    map_listName?_fill h₂.isList h₂.written.2, hafter] at hall
  obtain ⟨hbefore, -⟩ := List.append_inj' hall rfl
  obtain ⟨hsound, hstands⟩ := (sound_and_stands ho).1 hwritten
  refine ⟨h₂.isList, hsound, hstands, ?_⟩
  rw [hbefore]
  exact h₂.resolves

end Fork

/-! ### Two changes -/

namespace ListChange

/-- Two changes, one after the other: the template after both, and why either left it alone
    if it did. -/
def inTurn (first second : Text → Except MarkupError ListChange) (template : Text) :
    Except MarkupError (Text × Option Reason × Option Reason) :=
  match first template with
  | .error e => .error e
  | .ok c =>
    match second (c.templateOr template) with
    | .error e => .error e
    | .ok c' => .ok (c'.templateOr (c.templateOr template), c.reason?, c'.reason?)

theorem inTurn_eq {first second : Text → Except MarkupError ListChange} {template : Text}
    {c c' : ListChange} (h : first template = .ok c)
    (h' : second (c.templateOr template) = .ok c') :
    inTurn first second template =
      .ok (c'.templateOr (c.templateOr template), c.reason?, c'.reason?) := by
  simp only [inTurn, h, h']

theorem reason_of_inTurn {first second : Text → Except MarkupError ListChange}
    {template template' : Text} {reason reason' : Option Reason}
    (h : inTurn first second template = .ok (template', reason, reason')) :
    (first template).toOption.map ListChange.reason? = some reason := by
  rw [inTurn] at h
  rcases hfirst : first template with e | c
  · simp [hfirst] at h
  · rcases hsecond : second (c.templateOr template) with e | c'
    · simp [hfirst, hsecond] at h
    · simp only [hfirst, hsecond, Except.ok.injEq, Prod.mk.injEq] at h
      rw [← h.2.1]
      rfl

/-- Two changes of which the second finds its list in what the first has made. -/
theorem inTurn_of_settles {p p' : Plan} {verb verb' : Verb} {item item' : Item}
    {list list' : Option Text} {w w' : Setting} {b b' : Branch} {opens opens' : Bool}
    (hp : p.Settles verb item b opens) (hp' : p'.Settles verb' item' b' opens')
    (h : Found list w b) (hopens : w.opens = opens) (h' : Found list' w' b')
    (hopens' : w'.opens = opens') (hfill : (p.setting w).fill (p.branch b) = w'.fill b') :
    inTurn (verb.change · item list) (verb'.change · item' list') (sourceAll (w.fill b)) =
      .ok (sourceAll ((p'.setting w').fill (p'.branch b')), p.reason?, p'.reason?) := by
  have htemplate := p.templateOr_result w b
  rw [hfill] at htemplate
  obtain ⟨hchange, -⟩ := hp h hopens
  obtain ⟨hchange', -⟩ := hp' h' hopens'
  rw [← htemplate] at hchange'
  rw [inTurn_eq hchange hchange', htemplate, p'.templateOr_result, p.reason?_result,
    p'.reason?_result]

section Fork

variable {f : Fork} {b₁ b₂ : Branch} {list₁ list₂ : Option Text} {item₁ item₂ : Item}
  {verb₁ verb₂ : Verb} {p₁ p₂ : Plan}

/-- The first list is changed before the second one. -/
theorem inTurn_onFirst (hf : f.Apart) (h₁ : Found list₁ (f.atFirst b₂) b₁)
    (h₂ : Found list₂ (f.atSecond b₁) b₂) (hp₁ : p₁.Settles verb₁ item₁ b₁ (f.atFirst b₂).opens)
    (hp₂ : p₂.Settles verb₂ item₂ b₂ (f.atSecond b₁).opens) :
    inTurn (verb₁.change · item₁ list₁) (verb₂.change · item₂ list₂) (sourceAll (f.fill b₁ b₂)) =
      .ok (sourceAll (((f.onFirst p₁).onSecond p₂).fill (p₁.branch b₁) (p₂.branch b₂)),
        p₁.reason?, p₂.reason?) := by
  have hb₁ := p₁.isList_branch h₁.isList
  have hfound := (hp₁ h₁ rfl).2
  rw [Fork.setting_atFirst hf h₂.isList] at hfound
  have hwritten := hfound.written
  rw [Fork.fill_atFirst] at hwritten
  rw [← Fork.fill_atFirst, inTurn_of_settles hp₁ hp₂ h₁ rfl
    (Fork.found_second hf h₁ h₂ p₁ hwritten) (f.opens_atSecond p₁ h₁.isList hb₁)]
  · rw [Fork.setting_atSecond (hf.onFirst p₁) hb₁, Fork.fill_atSecond]
  · rw [Fork.setting_atFirst hf h₂.isList, Fork.fill_atFirst, Fork.fill_atSecond]

/-- The second list is changed before the first one. -/
theorem inTurn_onSecond (hf : f.Apart) (h₁ : Found list₁ (f.atFirst b₂) b₁)
    (h₂ : Found list₂ (f.atSecond b₁) b₂) (hp₁ : p₁.Settles verb₁ item₁ b₁ (f.atFirst b₂).opens)
    (hp₂ : p₂.Settles verb₂ item₂ b₂ (f.atSecond b₁).opens) :
    inTurn (verb₂.change · item₂ list₂) (verb₁.change · item₁ list₁) (sourceAll (f.fill b₁ b₂)) =
      .ok (sourceAll (((f.onSecond p₂).onFirst p₁).fill (p₁.branch b₁) (p₂.branch b₂)),
        p₂.reason?, p₁.reason?) := by
  have hb₂ := p₂.isList_branch h₂.isList
  have hfound := (hp₂ h₂ rfl).2
  rw [Fork.setting_atSecond hf h₁.isList] at hfound
  have hwritten := hfound.written
  rw [Fork.fill_atSecond] at hwritten
  rw [← Fork.fill_atSecond, inTurn_of_settles hp₂ hp₁ h₂ rfl (Fork.found_first h₁ p₂ hwritten)
    (f.opens_atFirst p₂ b₂ _)]
  · rw [Fork.setting_atFirst (hf.onSecond p₂) hb₂, Fork.fill_atFirst]
  · rw [Fork.setting_atSecond hf h₁.isList, Fork.fill_atSecond, Fork.fill_atFirst]

end Fork

/-- Two lists of which one is behind the other. -/
theorem inTurn_comm_of_behind {w₁ w₂ : Setting} {b₁ b₂ : Branch} {list₁ list₂ : Option Text}
    (h₁ : Found list₁ w₁ b₁) (h₂ : Found list₂ w₂ b₂) (hbehind : Fork.Behind w₁ b₁ w₂ b₂)
    (hneighbour : ∀ x ∈ (w₁.site b₁).neighbourTexts, x ∉ (w₂.site b₂).neighbourTexts)
    (hloose₁ : ∀ n ∈ (w₁.site b₁).children, '<' ∉ n.rawText)
    (hloose₂ : ∀ n ∈ (w₂.site b₂).children, '<' ∉ n.rawText) {item₁ item₂ : Item}
    (hitem₁ : item₁.Plain) (hitem₂ : item₂.Plain) (verb₁ verb₂ : Verb) :
    ∃ template reason₁ reason₂,
      inTurn (verb₁.change · item₁ list₁) (verb₂.change · item₂ list₂) (sourceAll (w₁.fill b₁)) =
        .ok (template, reason₁, reason₂) ∧
      inTurn (verb₂.change · item₂ list₂) (verb₁.change · item₁ list₁) (sourceAll (w₁.fill b₁)) =
        .ok (template, reason₂, reason₁) := by
  obtain ⟨p₁, hp₁⟩ := Plan.exists_settles h₁ hloose₁ hitem₁ verb₁
  obtain ⟨p₂, hp₂⟩ := Plan.exists_settles h₂ hloose₂ hitem₂ verb₂
  obtain ⟨f, hf, rfl, rfl⟩ := Fork.exists_of_behind hbehind (by
    intro raw span hnext hprevious
    exact hneighbour _ (ListSite.mem_neighbourTexts (.inr hnext))
      (ListSite.mem_neighbourTexts (.inl hprevious)))
  rw [Fork.fill_atFirst]
  exact ⟨_, _, _, inTurn_onFirst hf h₁ h₂ hp₁ hp₂, inTurn_onSecond hf h₁ h₂ hp₁ hp₂⟩

/-- **Changes of different lists commute.**  Let two names find two lists of a template, and
    let no text be next to both.  Let there be no `<` in the texts of the lists outside of
    entries and none in the words of the items.  Whatever is done with an item in the one
    list and with an item in the other, the order does not matter for the template, and
    each of the changes does what it does, or leaves the template alone for the same reason. -/
theorem inTurn_comm {template : Text} {list₁ list₂ : Option Text} {s₁ s₂ : ListSite}
    (h₁ : Finds template list₁ s₁) (h₂ : Finds template list₂ s₂) (hne : s₁ ≠ s₂)
    (hneighbour : ∀ x ∈ s₁.neighbourTexts, x ∉ s₂.neighbourTexts)
    (hloose₁ : ∀ n ∈ s₁.children, '<' ∉ n.rawText)
    (hloose₂ : ∀ n ∈ s₂.children, '<' ∉ n.rawText) {item₁ item₂ : Item}
    (hitem₁ : item₁.Plain) (hitem₂ : item₂.Plain) (verb₁ verb₂ : Verb) :
    ∃ template' reason₁ reason₂,
      inTurn (verb₁.change · item₁ list₁) (verb₂.change · item₂ list₂) template =
        .ok (template', reason₁, reason₂) ∧
      inTurn (verb₂.change · item₂ list₂) (verb₁.change · item₁ list₁) template =
        .ok (template', reason₂, reason₁) := by
  obtain ⟨root, hparse, hfind₁⟩ := h₁
  obtain ⟨root', hparse', hfind₂⟩ := h₂
  cases hparse.symm.trans hparse'
  obtain ⟨bs, hwritten, rfl, rfl⟩ := exists_of_parse hparse
  obtain ⟨w₁, b₁, hfound₁, rfl, rfl⟩ := Found.exists_of_find? hwritten hfind₁
  obtain ⟨w₂, b₂, hfound₂, hfill, rfl⟩ := Found.exists_of_find? hwritten hfind₂
  rcases Fork.eq_or_behind hfound₁.isList hfound₂.isList hwritten.2 hfill with
    ⟨rfl, rfl⟩ | hbehind | hbehind
  · exact absurd rfl hne
  · exact inTurn_comm_of_behind hfound₁ hfound₂ hbehind hneighbour hloose₁ hloose₂ hitem₁ hitem₂
      verb₁ verb₂
  · obtain ⟨template', reason₂, reason₁, hsecond, hfirst⟩ := inTurn_comm_of_behind hfound₂ hfound₁
      hbehind (fun x hx hx' => hneighbour x hx' hx) hloose₂ hloose₁
      hitem₂ hitem₁ verb₂ verb₁
    rw [hfill]
    exact ⟨template', reason₁, reason₂, hfirst, hsecond⟩

/-- Animals in a box and a pen on a desk. -/
def boxAndDesk : Text :=
  ("<s>In it are <il name=\"box\"><item>a DOG</item> and a cat</il>.</s> " ++
    "<s>Here is <il name=\"desk\"><item>a PEN</item></il>.</s>").toList

def lostDog : Item := ⟨"DOG".toList, .count 0, "a DOG".toList, none⟩

def threePens : Item := ⟨"PEN".toList, .count 3, "a PEN".toList, some "PENS".toList⟩

/-- The dog leaves the box, which changes a copula, and the pens are counted. -/
theorem inTurn_comm_of_boxAndDesk :
    (∃ s₁ s₂, Finds boxAndDesk none s₁ ∧ Finds boxAndDesk (some "desk".toList) s₂ ∧ s₁ ≠ s₂ ∧
      (∀ x ∈ s₁.neighbourTexts, x ∉ s₂.neighbourTexts) ∧ (∀ n ∈ s₁.children, '<' ∉ n.rawText) ∧
      ∀ n ∈ s₂.children, '<' ∉ n.rawText) ∧
    lostDog.Plain ∧ threePens.Plain ∧
    ∃ template',
      inTurn (remove · lostDog none) (add · threePens (some "desk".toList)) boxAndDesk =
        .ok (template', none, none) ∧
      inTurn (add · threePens (some "desk".toList)) (remove · lostDog none) boxAndDesk =
        .ok (template', none, none) := by
  obtain ⟨s₁, hs₁, htexts₁, hloose₁⟩ := exists_finds boxAndDesk none
    (fun s => s.neighbourTexts = [("In it are ".toList, 3), (".".toList, 61)] ∧
      ∀ n ∈ s.children, '<' ∉ n.rawText) (by decide +kernel)
  obtain ⟨s₂, hs₂, htexts₂, hloose₂⟩ := exists_finds boxAndDesk (some "desk".toList)
    (fun s => s.neighbourTexts = [("Here is ".toList, 70), (".".toList, 117)] ∧
      ∀ n ∈ s.children, '<' ∉ n.rawText) (by decide +kernel)
  have hne : s₁ ≠ s₂ := by
    rintro rfl
    rw [htexts₁] at htexts₂
    exact absurd htexts₂ (by decide)
  have hneighbour : ∀ x ∈ s₁.neighbourTexts, x ∉ s₂.neighbourTexts := by
    rw [htexts₁, htexts₂]
    decide
  have hdog : lostDog.Plain := ⟨by decide, by decide, by decide⟩
  have hpens : threePens.Plain := ⟨by decide, by decide, by decide⟩
  obtain ⟨template', reason₁, reason₂, hturn, hturn'⟩ := inTurn_comm hs₁ hs₂ hne hneighbour hloose₁
    hloose₂ hdog hpens .remove .add
  have hremoved : (remove boxAndDesk lostDog none).toOption.map reason? = some none := by
    decide +kernel
  have hadded : (add boxAndDesk threePens (some "desk".toList)).toOption.map reason? =
      some none := by
    decide +kernel
  obtain rfl : none = reason₁ := Option.some.inj (hremoved.symm.trans (reason_of_inTurn hturn))
  obtain rfl : none = reason₂ := Option.some.inj (hadded.symm.trans (reason_of_inTurn hturn'))
  exact ⟨⟨s₁, s₂, hs₁, hs₂, hne, hneighbour, hloose₁, hloose₂⟩, hdog, hpens, template', hturn,
    hturn'⟩

end ListChange

end Scenery
