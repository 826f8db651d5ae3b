import OpenApiGen.Dict
import OpenApiGen.Text.Split

/-!
Arguments of a command line, sorted into options and operands. They are read from left to right, and
the first one that cannot be used, or that asks for help, decides.
-/

namespace OpenApiGen.Cli

/-- Why no command is run. -/
inductive Halt
  | help
  | version
  | misuse
  deriving DecidableEq, Repr

/-- An option that a command knows. -/
structure Flag where
  long : String
  short : Option Char := none
  /-- Which values the option takes. Without this it takes none. -/
  accepts : Option (String → Bool) := none

/-- What a command takes. -/
structure Usage where
  flags : List Flag := []
  /-- Which texts the operands may be, in order. -/
  operands : List (String → Bool) := []

/-- Arguments in order. -/
structure Arguments where
  /-- The options with their values; the value of an option that takes none is empty. -/
  options : Dict String := []
  operands : List String := []
  deriving DecidableEq, Repr

/-- What one argument says. -/
inductive Argument
  | operand
  | help
  | unknown
  /-- An option with its value. -/
  | option (flag : Flag) (value : String)
  /-- An option whose value is the next argument. -/
  | open (flag : Flag)

namespace Usage

/-- Adds an option with its value, which comes once and has to be one that the option takes. -/
def addOption (known : Arguments) (flag : Flag) (value : String) : Except Halt Arguments :=
  let accepted := match flag.accepts with
    | some accepts => accepts value
    | none => true
  if accepted && !known.options.has flag.long then
    .ok { known with options := known.options.insert flag.long value }
  else .error .misuse

/-- Adds an operand, if there is still one to come and it may be this one. -/
def addOperand (u : Usage) (known : Arguments) (value : String) : Except Halt Arguments :=
  match u.operands[known.operands.length]? with
  | some accepts =>
    if accepts value then .ok { known with operands := known.operands ++ [value] }
    else .error .misuse
  | none => .error .misuse

/-- An option, with the value that its own argument gives it. -/
def argumentOf (flag : Option Flag) (value : Option String) : Argument :=
  match flag with
  | none => .unknown
  | some flag =>
    match flag.accepts, value with
    | some _, some value => .option flag value
    | some _, none => .open flag
    | none, none => .option flag ""
    | none, some _ => .unknown

/-- What an argument says. A single hyphen is an operand. -/
def classify (u : Usage) (arg : String) : Argument :=
  match arg.toList with
  | '-' :: '-' :: body =>
    let name := String.ofList (body.takeWhile (· ≠ '='))
    let value := match body.dropWhile (· ≠ '=') with
      | _ :: value => some (String.ofList value)
      | [] => none
    if name = "help" && value.isNone then .help
    else argumentOf (u.flags.find? fun flag => flag.long = name) value
  | '-' :: 'h' :: _ => .help
  | '-' :: short :: attached =>
    let value := match attached with
      | [] => none
      | '=' :: value => some (String.ofList value)
      | value => some (String.ofList value)
    argumentOf (u.flags.find? fun flag => flag.short = some short) value
  | _ => .operand

/-- Reads arguments. Behind two hyphens all of them are operands. -/
def read (u : Usage) (known : Arguments) : List String → Except Halt Arguments
  | [] => .ok known
  | "--" :: rest => rest.foldlM u.addOperand known
  | arg :: rest =>
    match u.classify arg with
    | .operand => do read u (← u.addOperand known arg) rest
    | .help => .error .help
    | .unknown => .error .misuse
    | .option flag value => do read u (← addOption known flag value) rest
    | .open flag =>
      match rest with
      | value :: rest =>
        if Text.startsWith "-" value && value ≠ "-" then .error .misuse
        else do read u (← addOption known flag value) rest
      | [] => .error .misuse

end Usage

end OpenApiGen.Cli
