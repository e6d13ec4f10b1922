/-
  Scenery/CommandLine/Command.lean
  ================================
  **The commands** and how arguments ask for them.  Options for files can stand before
  and behind the name of a command; behind it they count.
-/
import Scenery.CommandLine.Grammar
import Scenery.Item
import Scenery.Path
import Scenery.Value

namespace Scenery.CommandLine

/-- What is rendered. -/
inductive Subject where
  | description (id : Text) (solved : Bool)
  | template (t : Text)
  deriving DecidableEq, Repr

/-- What the program can be asked to do. -/
inductive Command where
  | render (subject : Subject) (values : List (Text × Value))
  | addItem (container item : Text) (quantity : Quantity) (list : Option Text)
  | removeItem (container item : Text) (quantity : Quantity) (list : Option Text)
  | check
  deriving DecidableEq, Repr

/-- A command, and the files to use instead of the usual ones. -/
structure Request where
  configuration : Option Text
  content : Option Text
  context : Option Text
  command : Command
  deriving DecidableEq, Repr

/-! ### Values of options -/

/-- A value for a context path, as in `player.intelligence=6`. -/
def assignment? (t : Text) : Option (Text × Value) :=
  match splitOption t with
  | (_, none) => none
  | (path, some v) =>
    let path := Text.trim path
    if Path.isPath path then some (path, Value.infer v) else none

/-- A whole number, perhaps with a sign. -/
def integer? (t : Text) : Option Int :=
  let (negative, digits) := Text.readSign t
  if digits.isEmpty ∨ !digits.all Char.isDigit then none
  else
    let n : Int := Text.digitsValue digits
    some (if negative then -n else n)

def count? (t : Text) : Option Nat :=
  match integer? t with
  | some i => if 0 ≤ i ∧ i ≤ Quantity.maxCount then some i.toNat else none
  | none => none

/-! ### Grammars -/

def isFileName (t : Text) : Bool := !t.isEmpty

def anyText (_ : Text) : Bool := true

/-- The options of every command. -/
def fileOptions : List Setting :=
  [⟨"config", none, .value "CONFIG" isFileName,
    "Configuration file (defaults to `alcove.toml` in the data directory)"⟩,
   ⟨"content", none, .value "CONTENT" isFileName,
    "Content file (RON), overriding the configuration"⟩,
   ⟨"context", none, .value "CONTEXT" isFileName,
    "Sample context file (JSON or TOML), overriding the configuration"⟩]

def helpOption : Setting := ⟨"help", some 'h', .refusal .help, "Print help"⟩

def versionOption : Setting := ⟨"version", some 'V', .refusal .version, "Print version"⟩

def listOption : Setting :=
  ⟨"list", none, .value "LIST" anyText, "Target list name; defaults to the first list"⟩

def quantityOption (about : String) : Setting :=
  ⟨"quantity", none, .value "QUANTITY" (fun t => (count? t).isSome), about⟩

def containerOperand : Operand := ⟨"CONTAINER", true, "Container description id"⟩

def itemOperand : Operand := ⟨"ITEM", true, "Item id"⟩

/-- A command by its name: a description, its grammar without the options of every
    command, and the command that scanned arguments ask for. -/
structure Form where
  name : String
  about : String
  grammar : Grammar
  read? : Scanned → Option Command

/-- What is to be rendered: a template or a description, but not both. -/
def subject? (s : Scanned) : Option Subject :=
  match s.operands, s.value? "template" with
  | [], some t => some (.template t)
  | [id], none => some (.description id (s.isGiven "solved"))
  | _, _ => none

def renderForm : Form where
  name := "render"
  about := "Render a description, or a raw template, for the sample context"
  grammar :=
    ⟨[⟨"ID", false, "Description id to render"⟩],
     [⟨"solved", none, .flag, "Render the puzzle's solved description"⟩,
      ⟨"template", none, .value "TEMPLATE" anyText,
        "Render this template text instead of a stored description"⟩,
      ⟨"set", none, .values "PATH=VALUE" (fun t => (assignment? t).isSome),
        "Set a context value, e.g. `--set player.intelligence=6`"⟩]⟩
  read? s := (subject? s).map fun subject =>
    .render subject ((s.allValues "set").filterMap assignment?)

def quantity (s : Scanned) (default : Nat) : Quantity :=
  .count (((s.value? "quantity").bind count?).getD default)

def addItemForm : Form where
  name := "add-item"
  about := "Print a container description with an item added to its list"
  grammar :=
    ⟨[containerOperand, itemOperand],
     [quantityOption "Total quantity after the addition [default: 1]",
      ⟨"uncountable", none, .flag, "The item is never counted (e.g. a pile of COINS)"⟩,
      listOption]⟩
  read? s :=
    match s.operands with
    | [container, item] =>
      if s.isGiven "uncountable" then
        if s.isGiven "quantity" then none
        else some (.addItem container item .uncountable (s.value? "list"))
      else some (.addItem container item (quantity s 1) (s.value? "list"))
    | _ => none

def removeItemForm : Form where
  name := "remove-item"
  about := "Print a container description with an item removed from its list"
  grammar :=
    ⟨[containerOperand, itemOperand],
     [quantityOption "Total quantity left after the removal [default: 0]", listOption]⟩
  read? s :=
    match s.operands with
    | [container, item] => some (.removeItem container item (quantity s 0) (s.value? "list"))
    | _ => none

def checkForm : Form where
  name := "check"
  about := "Lint all content; exits non-zero when issues are found"
  grammar := ⟨[], []⟩
  read? _ := some .check

def forms : List Form := [renderForm, addItemForm, removeItemForm, checkForm]

def form? (name : Text) : Option Form := forms.find? (·.name.toList = name)

def Form.fullGrammar (f : Form) : Grammar :=
  { f.grammar with options := fileOptions ++ f.grammar.options ++ [helpOption] }

def leadingOptions : List Setting := fileOptions ++ [helpOption, versionOption]

/-! ### Reading -/

/-- What arguments ask for. -/
inductive Asked where
  | request (r : Request)
  /-- Help on a command, or on all of them. -/
  | help (form : Option Form)
  | version
  /-- The arguments are wrong. -/
  | usage

def Asked.ofRefusal (form : Option Form) : Refusal → Asked
  | .usage => .usage
  | .help => .help form
  | .version => .version

/-- What the words behind `help` ask for. -/
def readHelp : List Text → Asked
  | [] => .help none
  | [name] =>
    match form? name with
    | some f => .help (some f)
    | none => if name = "help".toList then .help none else .usage
  | _ => .usage

/-- What a command's name and the arguments behind it ask for. -/
def readCommand (leading : Scanned) (name : Text) (args : List Text) : Asked :=
  if name = "help".toList then readHelp args
  else
    match form? name with
    | none => .usage
    | some f =>
      match scan f.fullGrammar {} args with
      | .error r => .ofRefusal (some f) r
      | .ok s =>
        match f.read? s with
        | none => .usage
        | some command =>
          let file (name : String) := (s.value? name).or (leading.value? name)
          .request ⟨file "config", file "content", file "context", command⟩

def read (args : List Text) : Asked :=
  match scanLeading leadingOptions {} args with
  | .error r => .ofRefusal none r
  | .ok (_, []) => .usage
  | .ok (s, name :: args) => readCommand s name args

end Scenery.CommandLine
