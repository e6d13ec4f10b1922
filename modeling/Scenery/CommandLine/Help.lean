/-
  Scenery/CommandLine/Help.lean
  =============================
  **Help texts**: what a command is for, how it is called, and its operands and
  options in two columns.
-/
import Scenery.CommandLine.Command

namespace Scenery.CommandLine

def programName : String := "alcove"

def programAbout : String := "Render and edit Alcove description templates."

def programVersion : String := "alcove_engine 0.3.0"

/-- Lines of two columns, the second of which starts behind the widest entry of the
    first. -/
def columns (rows : List (String × String)) : List String :=
  let width := (rows.map (·.1.length)).foldl max 0
  rows.map fun (left, right) =>
    "  " ++ left ++ "".pushn ' ' (width - left.length) ++ "  " ++ right

def titled (title : String) (rows : List (String × String)) : List String :=
  if rows.isEmpty then [] else "" :: (title ++ ":") :: columns rows

def Operand.label (o : Operand) : String :=
  if o.required then "<" ++ o.name ++ ">" else "[" ++ o.name ++ "]"

def Setting.label (o : Setting) : String :=
  let letter := match o.letter with
    | some c => "-" ++ c.toString ++ ", "
    | none => "    "
  let value := match o.effect with
    | .value label _ | .values label _ => " <" ++ label ++ ">"
    | .flag | .refusal _ => ""
  letter ++ "--" ++ o.name ++ value

/-- The options of a command among those of every command.  Of two at the same place
    the one whose name comes first leads. -/
def mergeOptions : List Setting → List Setting → List Setting
  | [], own => own
  | common, [] => common
  | c :: common, o :: own =>
    (if c.name < o.name then [c, o] else [o, c]) ++ mergeOptions common own

def optionRows (options : List Setting) : List (String × String) :=
  options.map fun o => (o.label, o.about)

def Form.help (f : Form) : String :=
  let operands := f.grammar.operands.map fun o => (o.label, o.about)
  let usage := "Usage: " ++ " ".intercalate
    ([programName, f.name, "[OPTIONS]"] ++ operands.map (·.1))
  "\n".intercalate ([f.about, "", usage] ++ titled "Arguments" operands ++
    titled "Options" (optionRows (mergeOptions fileOptions f.grammar.options ++ [helpOption])))

def usageLine : String := "Usage: " ++ programName ++ " [OPTIONS] <COMMAND>"

def programHelp : String :=
  let commands := forms.map (fun f => (f.name, f.about)) ++
    [("help", "Print this message or the help of the given subcommand(s)")]
  "\n".intercalate ([programAbout, "", usageLine] ++ titled "Commands" commands ++
    titled "Options" (optionRows leadingOptions))

end Scenery.CommandLine
