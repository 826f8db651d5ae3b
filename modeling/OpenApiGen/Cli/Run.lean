import OpenApiGen.Cli.Command
import OpenApiGen.Cli.Failure
import OpenApiGen.Naming.Enum
import OpenApiGen.Yaml.Printer

/-!
Runs of commands. A command reads files through a function that it is given, so that what it answers
is a function of their contents; a file that it writes is part of the answer.
-/

namespace OpenApiGen.Cli

/-- What a run answers. -/
structure Outcome where
  code : Nat := 0
  stdout : String := ""
  stderr : String := ""
  /-- A file to be written, with its text. -/
  written : Option (String × String) := none
  deriving DecidableEq, Repr

/-- How a command gets the text of a file. -/
abbrev FileReader (m : Type → Type) := String → m (Except FileError String)

/-- A line of output. -/
def Outcome.line (text : String) : Outcome :=
  { stdout := text ++ "\n" }

/-- The answer to a command that fails. -/
def Outcome.failed (f : Failure) : Outcome :=
  { code := 1, stderr := f.report }

/-- The name of the program and its version. -/
def versionLine : String := "cfgen 0.3.0"

/-- How the program is called. -/
def usageText : String :=
  "\n".intercalate
    ["Usage: cfgen <COMMAND>",
      "",
      "  resolve [-i INPUT] [-l LANGUAGE] [--format yaml|json]",
      "  type --schema SCHEMA [-i INPUT] [-l LANGUAGE]",
      "  name KIND RAW [-l LANGUAGE]",
      "  languages",
      "  init [--force]"]

/-- The answer to arguments that name no command to run. -/
def Outcome.halted : Halt → Outcome
  | .help => .line usageText
  | .version => .line versionLine
  | .misuse => { code := 2, stderr := usageText ++ "\n" }

/-- The format that the name of a file stands for: JSON if its extension says so. -/
def formatOf (path : String) : Format :=
  let name := (path.toList.reverse.dropWhile (· = '/')).takeWhile (· ≠ '/')
  match name with
  | 'n' :: 'o' :: 's' :: 'j' :: '.' :: _ :: _ => .json
  | _ => .yaml

section

variable {m : Type → Type} [Monad m]

/-- A result whose error becomes a failure of the command. -/
def orFail {ε α : Type} (failure : ε → Failure) (result : Except ε α) : ExceptT Failure m α :=
  MonadExcept.ofExcept (result.mapError failure)

/-- The configuration in the current directory, or the default one. -/
def loadConfig (read : FileReader m) : ExceptT Failure m Config := do
  match ← read Config.fileName with
  | .ok text =>
    match Config.read? text with
    | some config => return config
    | none => throw .malformedConfig
  | .error .absent => return {}
  | .error e => throw (.unreadableConfig e)

/-- The document in a file. -/
def loadSpec (read : FileReader m) (path : String) : ExceptT Failure m Spec := do
  match ← read path with
  | .ok text => orFail .spec (Spec.read (formatOf path) text)
  | .error e => throw (.unreadableSpec path e)

end

/-- The text of the result of a run. -/
def OutputFormat.print : OutputFormat → Output → String
  | yaml, output => Yaml.print output.toJson
  | json, output => output.toJson.pretty ++ "\n"

/-- The declared type and the base type of a schema that is given as a text. -/
def declareText (language : Language) (options : Options) (schema : String) (spec : Option Spec) :
    Except Failure String := do
  let profile ← (language.profile.withOptions options).mapError .configuration
  let library ← match spec with
    | some spec => (Library.ofSpec spec).mapError .reference
    | none => .ok []
  let schema ← match Spec.readSchema? .yaml schema with
    | some schema => .ok schema
    | none => .error .malformedSchema
  let node ← (lower schema).mapError .reference
  let r : Resolver := { profile, library }
  let declared ← (r.declare node).mapError .reference
  let base ← (r.baseType node).mapError .reference
  .ok (declared ++ "\n" ++ base)

/-- The name for a use. Cases of enumerations are named as if their values were texts. -/
def nameFor (p : Profile) (raw : String) : NameUse → String
  | .identifier => p.toIdentifier raw
  | .parameter => p.toParamName raw
  | .model => p.toModelName raw
  | .operation => p.toOperationId raw
  | .enumCase => p.toEnumCase raw ((p.types.get? "string").getD "string")

namespace Command

variable {m : Type → Type} [Monad m]

/-- Runs a command to its answer or its failure. -/
def answer (read : FileReader m) : Command → ExceptT Failure m Outcome
  | resolve input language format => do
    let config ← loadConfig read
    let spec ← loadSpec read (input.getD config.input)
    let output ←
      orFail .generation (generate (language.getD config.language) config.options spec)
    return { stdout := format.print output }
  | type language schema input => do
    let config ← loadConfig read
    let spec ← input.mapM (loadSpec read)
    let declared := declareText (language.getD config.language) config.options schema spec
    return .line (← orFail id declared)
  | name language use raw => do
    let config ← loadConfig read
    let builtin := (language.getD config.language).profile
    let profile ← orFail .configuration (builtin.withOptions config.options)
    return .line (nameFor profile raw use)
  | languages => return { stdout := String.join (Language.all.map fun l => l.name ++ "\n") }
  | init force => do
    let exists_ ← match ← read Config.fileName with
      | .error .absent => pure false
      | _ => pure true
    if exists_ && !force then throw .configExists
    return {
      stderr := s!"Created {Config.fileName}\n"
      written := some (Config.fileName, Config.template) }

/-- The answer to a command line. -/
def run (read : FileReader m) (args : List String) : m Outcome := do
  match parse args with
  | .error halt => return .halted halt
  | .ok command =>
    match ← (command.answer read).run with
    | .ok outcome => return outcome
    | .error failure => return .failed failure

end Command

end OpenApiGen.Cli
