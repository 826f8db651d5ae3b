import OpenApiGen.Cli.Arguments
import OpenApiGen.Language

/-!
The commands of the program.
-/

namespace OpenApiGen.Cli

/-- What a raw name is to become. -/
inductive NameUse
  | identifier
  | parameter
  | model
  | operation
  | enumCase
  deriving DecidableEq, Repr

/-- The uses of a name by the words for them. -/
def NameUse.names : List (String × NameUse) :=
  [("identifier", .identifier), ("param", .parameter), ("model", .model), ("operation", .operation),
    ("enum-var", .enumCase)]

/-- How the result of a run is written. -/
inductive OutputFormat
  | yaml
  | json
  deriving DecidableEq, Repr

/-- The output formats by their names. -/
def OutputFormat.names : List (String × OutputFormat) :=
  [("yaml", .yaml), ("json", .json)]

/-- A command. What is not given comes from the configuration. -/
inductive Command
  /-- Describes all models and operations of a document. -/
  | resolve (input : Option String) (language : Option Language) (format : OutputFormat)
  /-- Declares one schema. -/
  | type (language : Option Language) (schema : String) (input : Option String)
  /-- Forms one name. -/
  | name (language : Option Language) (use : NameUse) (raw : String)
  | languages
  /-- Writes a new configuration file. -/
  | init (force : Bool)
  deriving DecidableEq, Repr

namespace Command

/-- The option for a path. -/
def inputFlag : Flag where
  long := "input"
  short := some 'i'
  accepts := some fun value => value ≠ ""

/-- The option for a language. -/
def languageFlag : Flag where
  long := "language"
  short := some 'l'
  accepts := some fun value => (Language.parse? value).isSome

/-- The option for an output format. -/
def formatFlag : Flag where
  long := "format"
  accepts := some fun value => (OutputFormat.names.lookup value).isSome

/-- The option for a schema. -/
def schemaFlag : Flag where
  long := "schema"
  accepts := some fun _ => true

/-- The option to overwrite files. -/
def forceFlag : Flag where
  long := "force"

/-- The language that arguments name. -/
def language? (args : Arguments) : Option Language :=
  (args.options.get? "language").bind Language.parse?

/-- The command that the first argument names, with the arguments behind it. -/
def ofArguments (name : String) (rest : List String) : Except Halt Command :=
  match name with
  | "resolve" => do
    let args ← Usage.read { flags := [inputFlag, languageFlag, formatFlag] } {} rest
    let format := (args.options.get? "format").bind fun word => OutputFormat.names.lookup word
    .ok (.resolve (args.options.get? "input") (language? args) (format.getD .yaml))
  | "type" => do
    let args ← Usage.read { flags := [inputFlag, languageFlag, schemaFlag] } {} rest
    match args.options.get? "schema" with
    | some schema => .ok (.type (language? args) schema (args.options.get? "input"))
    | none => .error .misuse
  | "name" => do
    let uses : String → Bool := fun word => (NameUse.names.lookup word).isSome
    let args ← Usage.read { flags := [languageFlag], operands := [uses, fun _ => true] } {} rest
    match args.operands with
    | [word, raw] =>
      match NameUse.names.lookup word with
      | some use => .ok (.name (language? args) use raw)
      | none => .error .misuse
    | _ => .error .misuse
  | "languages" => do
    let _ ← Usage.read {} {} rest
    .ok .languages
  | "init" => do
    let args ← Usage.read { flags := [forceFlag] } {} rest
    .ok (.init (args.options.has "force"))
  | _ => .error .misuse

/-- The words that name a command. -/
def names : List String :=
  ["resolve", "type", "name", "languages", "init", "help"]

/-- The command of a command line. Help and the version can be asked for before any command, and
help also about one command. -/
def parse : List String → Except Halt Command
  | [] => .error .misuse
  | "help" :: topics =>
    if topics = [] ∨ topics ∈ names.map fun name => [name] then .error .help else .error .misuse
  | first :: rest =>
    if first = "--help" || Text.startsWith "-h" first then .error .help
    else if first = "--version" || Text.startsWith "-V" first then .error .version
    else ofArguments first rest

end Command

end OpenApiGen.Cli
