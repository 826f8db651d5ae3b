import OpenApiGen.Decoration.Go
import OpenApiGen.Decoration.JavaScript
import OpenApiGen.Decoration.PythonFlask
import OpenApiGen.Decoration.Swift
import OpenApiGen.Model.Reconcile
import OpenApiGen.Operation.Build
import OpenApiGen.Profile.Builtin

/-!
A run: the descriptors of all models and operations of a document, for one language.
-/

namespace OpenApiGen

/-- Why a run fails. -/
inductive GenerationError
  | reference (e : RefError)
  | configuration (e : ConfigError)
  deriving DecidableEq, Repr

/-- The wording of the failure of a run. -/
def GenerationError.message : GenerationError → String
  | reference e => "resolve error: " ++ e.message
  | configuration e => "configuration error: " ++ e.message

/-- The result of a run with all that a language needs in addition. -/
def Output.decorated (options : Options) (o : Output) : Output :=
  match o.language with
  | .go => Decoration.go o
  | .javascript => Decoration.javascript o
  | .pythonFlask => Decoration.pythonFlask options.controllerPackage o
  | .swift4 => Decoration.swift false options.unwrapRequired o
  | .swift5 => Decoration.swift true options.unwrapRequired o

/-- The descriptors of a document under a profile that is ready for use, before decoration. -/
def describe (profile : Profile) (spec : Spec) : Except RefError Output := do
  let library ← Library.ofSpec spec
  let r : Resolver := { profile, library }
  let built ← r.models
  let models := (reconcileModels profile.reconcile built).map r.markRecursive
  let operations ← r.operations spec
  .ok { language := profile.language, models, operations }

/-- A run with a given profile. -/
def generateWith (profile : Profile) (options : Options) (spec : Spec) :
    Except GenerationError Output := do
  let profile ← (profile.withOptions options).mapError .configuration
  let output ← (describe profile spec).mapError .reference
  .ok (output.decorated options)

/-- A run for a language. -/
def generate (language : Language) (options : Options) (spec : Spec) :
    Except GenerationError Output :=
  generateWith language.profile options spec

end OpenApiGen
