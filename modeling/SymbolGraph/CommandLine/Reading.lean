import SymbolGraph.CommandLine.Usage

/-!
# Reading a command line

`Reading.run` reads arguments at one level, up to the subcommand if there is one. The value of an
option follows it, or is attached by `=`; an argument that begins with a dash and is longer than
that is no value, unless it is attached or follows `--`.

An option without an attached value stays open. It is settled, and its value judged, when the next
option or operand has been recognised, or at the end of the arguments. So of two faults the one
further left may be reported second: an argument that is not known at all is reported first.
-/

set_option autoImplicit false

namespace SymbolGraph

/-- What has been read. -/
structure Reading where
  /-- The options that have been settled, in order, each with its value; a flag has an empty one. -/
  values : List (String × String)
  operands : List String
  /-- An option that is not settled, with its value once that has been read. -/
  pending : Option (OptionSpec × Option String)

/-- How an argument begins. -/
inductive ArgumentForm where
  /-- The argument `--`, after which there are no options. -/
  | endOfOptions
  /-- Two dashes, a name, and perhaps a value after `=`. -/
  | named (name : String) (attached : Option String)
  /-- A dash and a letter. -/
  | lettered (letter : Char)
  /-- Anything else. -/
  | plain
  deriving DecidableEq, Repr

/-- The form of an argument. -/
def ArgumentForm.ofText (argument : String) : ArgumentForm :=
  match argument.toList with
  | ['-', '-'] => .endOfOptions
  | '-' :: '-' :: rest =>
    match Text.cutFirst '=' rest with
    | some (name, value) => .named (String.ofList name) (some (String.ofList value))
    | none => .named (String.ofList rest) none
  | '-' :: letter :: _ => .lettered letter
  | _ => .plain

namespace Reading

/-- Before anything is read. -/
def start : Reading where
  values := []
  operands := []
  pending := none

/-- An option awaits its value. -/
def isAwaiting (reading : Reading) : Bool :=
  match reading.pending with
  | some (_, none) => true
  | _ => false

/-- Adds an option with its value. -/
def add (reading : Reading) (option : OptionSpec) (value : String) : Except UsageFault Reading :=
  if !option.isRepeatable && (reading.values.lookup option.name).isSome then
    .error (.repeatedOption option.name)
  else
    (option.check value).map fun _ ↦
      { reading with values := reading.values ++ [(option.name, value)] }

/-- Settles the open option. -/
def settle (reading : Reading) : Except UsageFault Reading :=
  match reading.pending with
  | none => .ok reading
  | some (option, none) => .error (.missingValue option.name)
  | some (option, some value) => add { reading with pending := none } option value

/-- Reads an option. -/
def readOption (reading : Reading) (option : OptionSpec) (attached : Option String) :
    Except UsageFault Reading := do
  match option.kind, attached with
  | .flag, some _ => .error (.surplusValue option.name)
  | .help, some _ => .error (.surplusValue option.name)
  | .version, some _ => .error (.surplusValue option.name)
  | kind, _ =>
    let settled ← reading.settle
    match kind, attached with
    | .help, _ => .error .helpRequested
    | .version, _ => .error .versionRequested
    | .flag, _ => settled.add option ""
    | _, some value => settled.add option value
    | _, none => .ok { settled with pending := some (option, none) }

/-- Reads an operand. -/
def readOperand (level : CommandLevel) (isLate : Bool) (reading : Reading) (argument : String) :
    Except UsageFault Reading :=
  if reading.operands.length < level.operands.length then
    reading.settle.map fun settled ↦
      { settled with operands := settled.operands ++ [argument] }
  else .error (level.surplus isLate argument)

/-- Reads a value of the option that awaits one, or an operand. -/
def readPlain (level : CommandLevel) (reading : Reading) (argument : String) :
    Except UsageFault Reading :=
  match reading.pending with
  | some (option, none) => .ok { reading with pending := some (option, some argument) }
  | _ => readOperand level false reading argument

/-- Reads the operands after `--`. -/
def readRest (level : CommandLevel) (reading : Reading) : List String → Except UsageFault Reading
  | [] => .ok reading
  | argument :: rest => do
    let next ← readOperand level true reading argument
    readRest level next rest

/-- Reads the arguments of a level; gives what was read, and the subcommand with the arguments after
it. -/
def run (level : CommandLevel) (reading : Reading) :
    List String → Except UsageFault (Reading × Option (String × List String))
  | [] => .ok (reading, none)
  | argument :: rest =>
    match ArgumentForm.ofText argument with
    | .endOfOptions => (readRest level reading rest).map fun last ↦ (last, none)
    | .named name attached =>
      match level.named? name with
      | none => .error (.unknownArgument argument)
      | some option => do
        let next ← reading.readOption option attached
        run level next rest
    | .lettered letter =>
      match level.lettered? letter with
      | none => .error (.unknownArgument argument)
      | some option => do
        let next ← reading.readOption option none
        run level next rest
    | .plain =>
      if level.subcommands.contains argument && !reading.isAwaiting then
        .ok (reading, some (argument, rest))
      else do
        let next ← readPlain level reading argument
        run level next rest

/-- The value of an option. -/
def value? (reading : Reading) (name : String) : Option String :=
  reading.values.lookup name

/-- The option was given. -/
def has (reading : Reading) (name : String) : Bool :=
  (reading.value? name).isSome

/-- All values of an option, in order. -/
def valuesOf (reading : Reading) (name : String) : List String :=
  (reading.values.filter fun entry ↦ entry.1 == name).map (·.2)

/-- The value of an option that is a number. -/
def number? (reading : Reading) (name : String) : Option Nat :=
  (reading.value? name).bind fun value ↦ Text.unsigned? 64 value.toList

end Reading

end SymbolGraph
