/-
  Scenery/Loading/Configuration.lean
  ==================================
  **The configuration**: where content and context are, and how wide output is.  What
  a configuration file leaves out is filled in from the directory with the data, and
  so is everything if the file cannot be loaded.
-/
import Scenery.Loading.Basic

namespace Scenery

/-- Where content and context are, and how wide output is; no width at all is 0. -/
structure Configuration where
  content : Text
  context : Option Text
  width : Nat
  deriving DecidableEq, Repr

namespace Configuration

variable {m : Type → Type} [Monad m]

/-! ### Defaults -/

/-- Where the data can be. -/
def dataCandidates : List Text := ["alcove_engine/data", "data"].map String.toList

def dataFile (root : Text) (name : String) : Text := Location.join root name.toList

/-- The first of some directories with content in it, or otherwise the given one. -/
def firstWithContent (files : Files m) (fallback : Text) : List Text → m Text
  | [] => return fallback
  | root :: roots => do
    if ← files.isFile (dataFile root "content.ron") then return root
    else firstWithContent files fallback roots

def dataRoot (files : Files m) : m Text :=
  firstWithContent files "alcove_engine/data".toList dataCandidates

/-- The file that the configuration is in unless another one is given. -/
def defaultFile (files : Files m) : m Text := return dataFile (← dataRoot files) "alcove.toml"

def defaultWidth : Nat := 80

/-- The configuration without a file. -/
def fallback (files : Files m) : m Configuration := do
  let root ← dataRoot files
  let context := dataFile root "context.toml"
  return ⟨dataFile root "content.ron",
    if ← files.isFile context then some context else none, defaultWidth⟩

/-! ### Files -/

/-- What a configuration file says. -/
structure Settings where
  content : Option Text := none
  context : Option Text := none
  width : Nat := defaultWidth
  deriving DecidableEq, Repr

/-- The one value of a section with a single key: the section is a table, or an array
    with the value in front.  A date is as good as an empty table. -/
def sectionValue? (key : String) : Toml → Option (Option Toml)
  | .table members => some (members.lookup key.toList)
  | .array items => some items.head?
  | .moment _ => some none
  | _ => none

/-- The text in a section, if the document has the section. -/
def textIn? (members : List (Text × Toml)) (name key : String) : Option (Option Text) :=
  match members.lookup name.toList with
  | none => some none
  | some v =>
    match sectionValue? key v with
    | some none => some none
    | some (some (.string t)) => some (some t)
    | _ => none

/-- The number in a section, if the document has the section. -/
def numberIn? (members : List (Text × Toml)) (name key : String) : Option (Option Nat) :=
  match members.lookup name.toList with
  | none => some none
  | some v =>
    match sectionValue? key v with
    | some none => some none
    | some (some (.integer i)) => if 0 ≤ i then some (some i.toNat) else none
    | _ => none

/-- The settings of a document. -/
def Settings.ofToml? (members : List (Text × Toml)) : Option Settings := do
  return ⟨← textIn? members "content" "path", ← textIn? members "context" "path",
    (← numberIn? members "output" "width").getD defaultWidth⟩

/-- The configuration with the settings of a file.  Locations are relative to the
    directory of that file. -/
def withSettings (c : Configuration) (file : Text) (s : Settings) : Configuration :=
  let locate := Location.join (Location.directory file)
  ⟨(s.content.map locate).getD c.content, (s.context.map locate).or c.context, s.width⟩

def loadFile (files : Files m) (file : Text) : m (Except LoadError Configuration) := do
  match ← files.load .configuration file with
  | .error e => return .error e
  | .ok t =>
    match (Toml.read? t).bind Settings.ofToml? with
    | none => return .error (.malformed .configuration file none)
    | some s => return .ok ((← fallback files).withSettings file s)

def load (files : Files m) (file : Text) : m Configuration := do
  match ← loadFile files file with
  | .ok c => return c
  | .error _ => fallback files

end Configuration

end Scenery
