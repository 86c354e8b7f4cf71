import SymbolGraph.Text.Decimal
import SymbolGraph.Text.Split

/-!
# Options and operands

An `OptionSpec` names an option and says what may follow it, a `CommandLevel` lists the options, the
operands and the subcommands that are known at one place of a command line. `UsageFault` lists the
reasons why a command line names no command; a request for help or for the version is among them.
-/

set_option autoImplicit false

namespace SymbolGraph

/-- What the value of an option may be. -/
inductive ValueForm where
  | text
  /-- A path, which is not empty. -/
  | path
  /-- An unsigned number of 64 bits. -/
  | number
  /-- One of some words. -/
  | choice (words : List String)
  deriving DecidableEq, Repr

/-- What an option is for. -/
inductive OptionKind where
  /-- It has no value and may be given once. -/
  | flag
  /-- It has a value and may be given once. -/
  | single (form : ValueForm)
  /-- It has a value and may be given again. -/
  | repeatable (form : ValueForm)
  /-- It asks how the program is used. -/
  | help
  /-- It asks which version this is. -/
  | version
  deriving DecidableEq, Repr

/-- An option. -/
structure OptionSpec where
  /-- What follows the two dashes. -/
  name : String
  kind : OptionKind
  /-- What follows a single dash. -/
  letter : Option Char := none
  deriving DecidableEq, Repr

/-- What is known at one place of a command line. -/
structure CommandLevel where
  options : List OptionSpec
  /-- The names of the operands, all of them required. -/
  operands : List String
  subcommands : List String

/-- Why a command line names no command. -/
inductive UsageFault where
  | helpRequested
  | versionRequested
  /-- Nothing follows the program's name. -/
  | nothingGiven
  | missingSubcommand
  | invalidSubcommand (name : String)
  | missingOperand (name : String)
  | unknownArgument (argument : String)
  /-- An option has no value, or an empty one that must not be. -/
  | missingValue (option : String)
  | invalidChoice (option value : String)
  | invalidNumber (option value : String)
  | repeatedOption (option : String)
  /-- A value is attached to an option that takes none. -/
  | surplusValue (option : String)
  deriving DecidableEq, Repr

/-- The wording of a fault. -/
def UsageFault.message : UsageFault → String
  | .helpRequested => "help"
  | .versionRequested => "version"
  | .nothingGiven => "no command given"
  | .missingSubcommand => "no command given"
  | .invalidSubcommand name => "unknown command '" ++ name ++ "'"
  | .missingOperand name => "missing <" ++ name ++ ">"
  | .unknownArgument argument => "unexpected argument '" ++ argument ++ "'"
  | .missingValue option => "--" ++ option ++ " needs a value"
  | .invalidChoice option value => "invalid value '" ++ value ++ "' for --" ++ option
  | .invalidNumber option value => "invalid number '" ++ value ++ "' for --" ++ option
  | .repeatedOption option => "--" ++ option ++ " is given more than once"
  | .surplusValue option => "--" ++ option ++ " takes no value"

namespace OptionSpec

/-- Whether an option may be given again. -/
def isRepeatable (option : OptionSpec) : Bool :=
  match option.kind with
  | .repeatable _ => true
  | _ => false

/-- Refuses a value that does not have the form. -/
def checkForm (option : OptionSpec) (value : String) : ValueForm → Except UsageFault Unit
  | .text => .ok ()
  | .path => if value = "" then .error (.missingValue option.name) else .ok ()
  | .number =>
    match Text.unsigned? 64 value.toList with
    | some _ => .ok ()
    | none => .error (.invalidNumber option.name value)
  | .choice words =>
    if words.contains value then .ok () else .error (.invalidChoice option.name value)

/-- Refuses a value that the option may not have. -/
def check (option : OptionSpec) (value : String) : Except UsageFault Unit :=
  match option.kind with
  | .single form => option.checkForm value form
  | .repeatable form => option.checkForm value form
  | _ => .ok ()

end OptionSpec

namespace CommandLevel

/-- The option written with two dashes and a name. -/
def named? (level : CommandLevel) (name : String) : Option OptionSpec :=
  level.options.find? fun option ↦ option.name == name

/-- The option written with one dash and a letter. -/
def lettered? (level : CommandLevel) (letter : Char) : Option OptionSpec :=
  level.options.find? fun option ↦ option.letter == some letter

/-- The fault of an argument for which there is no operand. Where a subcommand is expected it names
none, unless it is the name of one that comes too late. -/
def surplus (level : CommandLevel) (isLate : Bool) (argument : String) : UsageFault :=
  if level.subcommands.isEmpty || (isLate && level.subcommands.contains argument) then
    .unknownArgument argument
  else .invalidSubcommand argument

end CommandLevel

end SymbolGraph
