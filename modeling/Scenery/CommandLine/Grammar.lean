/-
  Scenery/CommandLine/Grammar.lean
  ================================
  **The grammar of a command line.**  Arguments are options, which start with dashes,
  and operands.  `scan` sorts them out; it stops at the first argument that is not
  allowed, or that asks for something else than running a command (`Refusal`).
-/
import Scenery.Text.Basic

namespace Scenery.CommandLine

/-- Why arguments are not carried out. -/
inductive Refusal where
  | usage
  | help
  | version
  deriving DecidableEq, Repr

/-- What an option does. -/
inductive Effect where
  /-- It is given or not, once at most. -/
  | flag
  /-- It gives a value, once at most. -/
  | value (label : String) (accepts : Text → Bool)
  /-- It gives a value, as often as one likes. -/
  | values (label : String) (accepts : Text → Bool)
  /-- It ends the arguments. -/
  | refusal (r : Refusal)

/-- An option: its long name, its letter, what it does and a description. -/
structure Setting where
  name : String
  letter : Option Char := none
  effect : Effect
  about : String

/-- An operand of a command. -/
structure Operand where
  name : String
  required : Bool
  about : String

/-- The operands and options of a command. -/
structure Grammar where
  operands : List Operand
  options : List Setting

/-- What has been found among the arguments: the values of options, empty for those
    without one, and the operands. -/
structure Scanned where
  values : List (Text × Text) := []
  operands : List Text := []
  deriving DecidableEq, Repr

namespace Scanned

def value? (s : Scanned) (name : String) : Option Text := s.values.lookup name.toList

def isGiven (s : Scanned) (name : String) : Bool := (s.value? name).isSome

def allValues (s : Scanned) (name : String) : List Text :=
  (s.values.filter fun (key, _) => key = name.toList).map (·.2)

/-- Takes an option; one that has been given already must be allowed to come again. -/
def takeOption (s : Scanned) (name value : Text) (again : Bool) : Except Refusal Scanned :=
  if (s.values.lookup name).isSome && !again then .error .usage
  else .ok { s with values := s.values ++ [(name, value)] }

/-- Takes operands, of which there can be so many. -/
def takeOperands (s : Scanned) (limit : Nat) (operands : List Text) : Except Refusal Scanned :=
  if s.operands.length + operands.length ≤ limit then
    .ok { s with operands := s.operands ++ operands }
  else .error .usage

end Scanned

/-- An argument that cannot be the value of the option before it.  A lone dash can. -/
def isOption : Text → Bool
  | '-' :: _ :: _ => true
  | _ => false

/-- An option's name and the value that an equals sign ties to it. -/
def splitOption (t : Text) : Text × Option Text :=
  match t.dropWhile (· ≠ '=') with
  | _ :: value => (t.takeWhile (· ≠ '='), some value)
  | [] => (t, none)

/-- Takes the value of an option: the one that is tied to it, or the next argument. -/
def takeValue (s : Scanned) (name : Text) (accepts : Text → Bool) (again : Bool)
    (tied : Option Text) (args : List Text) : Except Refusal (Scanned × List Text) :=
  let given : Option (Text × List Text) :=
    match tied, args with
    | some v, args => some (v, args)
    | none, v :: args => if isOption v then none else some (v, args)
    | none, [] => none
  match given with
  | none => .error .usage
  | some (v, args) =>
    if accepts v then (s.takeOption name v again).map (·, args) else .error .usage

/-- Takes a long option, given without its dashes, and gives back the arguments
    behind it and its value. -/
def takeLong (options : List Setting) (s : Scanned) (body : Text) (args : List Text) :
    Except Refusal (Scanned × List Text) :=
  let (name, tied) := splitOption body
  match options.find? (·.name.toList = name) with
  | none => .error .usage
  | some o =>
    match o.effect with
    | .flag => if tied.isSome then .error .usage else (s.takeOption name [] false).map (·, args)
    | .refusal r => .error (if tied.isSome then .usage else r)
    | .value _ accepts => takeValue s name accepts false tied args
    | .values _ accepts => takeValue s name accepts true tied args

/-- Why an option of one letter is not carried out: no command has any but those that
    end the arguments. -/
def letterRefusal (options : List Setting) (letter : Char) : Refusal :=
  match (options.find? (·.letter = some letter)).map Setting.effect with
  | some (.refusal r) => r
  | _ => .usage

theorem takeValue_length {s s' : Scanned} {name : Text} {accepts : Text → Bool} {again : Bool}
    {tied : Option Text} {args rest : List Text}
    (h : takeValue s name accepts again tied args = .ok (s', rest)) :
    rest.length ≤ args.length := by
  simp only [takeValue] at h
  split at h
  · cases h
  · next v args' hgiven =>
    have hle : args'.length ≤ args.length := by
      split at hgiven
      · cases hgiven; exact Nat.le_refl _
      · split at hgiven
        · cases hgiven
        · cases hgiven; simp
      · cases hgiven
    split at h
    · cases ht : s.takeOption name v again with
      | error e => rw [ht] at h; cases h
      | ok t => rw [ht] at h; cases h; exact hle
    · cases h

theorem takeLong_length {options : List Setting} {s s' : Scanned} {body : Text}
    {args rest : List Text} (h : takeLong options s body args = .ok (s', rest)) :
    rest.length ≤ args.length := by
  simp only [takeLong] at h
  split at h
  · cases h
  · next o _ =>
    split at h
    · split at h
      · cases h
      · cases ht : s.takeOption (splitOption body).1 [] false with
        | error e => rw [ht] at h; cases h
        | ok t => rw [ht] at h; cases h; exact Nat.le_refl _
    · cases h
    · exact takeValue_length h
    · exact takeValue_length h

/-- Sorts out the arguments of a command.  Behind two dashes there are only operands. -/
def scan (g : Grammar) (s : Scanned) (args : List Text) : Except Refusal Scanned :=
  match args with
  | [] => .ok s
  | ['-', '-'] :: args => s.takeOperands g.operands.length args
  | ('-' :: '-' :: body) :: args =>
    match h : takeLong g.options s body args with
    | .error r => .error r
    | .ok (s, rest) =>
      have := takeLong_length h
      scan g s rest
  | ('-' :: letter :: _) :: _ => .error (letterRefusal g.options letter)
  | arg :: args =>
    match s.takeOperands g.operands.length [arg] with
    | .error r => .error r
    | .ok s => scan g s args
termination_by args.length

/-- Sorts out the options before the first operand, and gives back the arguments from
    there on. -/
def scanLeading (options : List Setting) (s : Scanned) (args : List Text) :
    Except Refusal (Scanned × List Text) :=
  match args with
  | [] => .ok (s, [])
  | ['-', '-'] :: _ => .error .usage
  | ('-' :: '-' :: body) :: args =>
    match h : takeLong options s body args with
    | .error r => .error r
    | .ok (s, rest) =>
      have := takeLong_length h
      scanLeading options s rest
  | ('-' :: letter :: _) :: _ => .error (letterRefusal options letter)
  | arg :: args => .ok (s, arg :: args)
termination_by args.length

end Scenery.CommandLine
