import OpenApiGen.Config
import OpenApiGen.Generation
import OpenApiGen.Spec.Reader

/-!
What can go wrong when a command runs, and how it is reported.
-/

namespace OpenApiGen

/-- What the failure of a run comes from. -/
def GenerationError.source : GenerationError → String
  | reference e => e.message
  | configuration e => e.message

namespace Cli

/-- Why the text of a file cannot be had. -/
inductive FileError
  | absent
  | directory
  /-- The bytes of the file are no text. -/
  | undecodable
  | other (reason : String)
  deriving DecidableEq, Repr

/-- The wording of a file error. -/
def FileError.message : FileError → String
  | absent => "No such file or directory (os error 2)"
  | directory => "Is a directory (os error 21)"
  | undecodable => "stream did not contain valid UTF-8"
  | other reason => reason

/-- Why a command fails. -/
inductive Failure
  | unreadableConfig (e : FileError)
  | malformedConfig
  | unreadableSpec (path : String) (e : FileError)
  | spec (e : SpecError)
  | malformedSchema
  | reference (e : RefError)
  | configuration (e : ConfigError)
  | generation (e : GenerationError)
  /-- There is a configuration file, and it must not be overwritten. -/
  | configExists
  deriving DecidableEq, Repr

namespace Failure

/-- The wording of a failure. -/
def message : Failure → String
  | unreadableConfig e => s!"failed to read config {Config.fileName}: {e.message}"
  | malformedConfig => s!"failed to parse config {Config.fileName}"
  | unreadableSpec path _ => s!"failed to read {path}"
  | spec e => e.message
  | malformedSchema => "failed to parse --schema"
  | reference e => e.message
  | configuration e => e.message
  | generation e => e.message
  | configExists => s!"{Config.fileName} already exists. Use --force to overwrite."

/-- What a failure comes from, if that is told on its own. -/
def source : Failure → Option String
  | unreadableConfig e => some e.message
  | unreadableSpec _ e => some e.message
  | generation e => some e.source
  | _ => none

/-- The report of a failure. The lines of its source are indented. -/
def report (f : Failure) : String :=
  let cause := match f.source with
    | some source => "\n\nCaused by:\n    " ++ Text.replaceChar '\n' "\n    " source
    | none => ""
  "Error: " ++ f.message ++ cause ++ "\n"

end Failure

end Cli

end OpenApiGen
