/-
  Scenery/Prose/Mention.lean
  ==========================
  **Mentions**: a text mentions an item where its name or its plural phrase occurs,
  in any case, with no word character touching it.  So `PEN` is mentioned by
  `a red pen` and not by `15 PENCILS`.
-/
import Scenery.Item
import Scenery.Text.Case
import Scenery.Text.WordChar

namespace Scenery.Prose

/-- A word occurs at the start of a text and ends at a boundary. -/
def occursHere (word t : Text) : Bool :=
  match Text.afterFolded? word t with
  | some rest => Text.startsApart rest
  | none => false

/-- A word occurs in a text with boundaries around it; `apart` says whether the text
    itself starts at one. -/
def occursIn (word : Text) (apart : Bool) : Text → Bool
  | [] => apart && occursHere word []
  | c :: t => (apart && occursHere word (c :: t)) || occursIn word (!Text.isWordChar c) t

/-- A text mentions an item. -/
def mentionsItem (item : Item) (t : Text) : Bool :=
  item.mentions.any fun word => occursIn word true t

end Scenery.Prose
