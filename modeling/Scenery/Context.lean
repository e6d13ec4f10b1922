/-
  Scenery/Context.lean
  ====================
  **Contexts**: the values that a template can read, by path.
-/
import Scenery.Dictionary
import Scenery.Value

namespace Scenery

/-- Values by path. -/
abbrev Context := Dictionary Value

end Scenery
