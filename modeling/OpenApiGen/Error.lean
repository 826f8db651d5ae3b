import OpenApiGen.Casing
import OpenApiGen.Language

/-!
What can be wrong with a document or a configuration, and how it is said.
-/

namespace OpenApiGen

/-- A reference that leads nowhere. -/
inductive RefError
  /-- No component has this name. -/
  | unresolved (ref : String)
  /-- The path has no name at its end. -/
  | malformed (path : String)
  deriving DecidableEq, Repr

/-- The wording of a reference error. -/
def RefError.message : RefError → String
  | unresolved ref => s!"unresolved reference: {ref}"
  | malformed path => s!"invalid reference format: {path}"

/-- A setting that cannot be used. -/
inductive ConfigError
  | unknownCasing (name : String)
  | disallowedCasing (language : Language) (requested : Casing) (allowed : List Casing)
  | unknownLanguage (name : String)
  deriving DecidableEq, Repr

/-- The wording of a configuration error. -/
def ConfigError.message : ConfigError → String
  | unknownCasing name => s!"unknown casing style: {name}"
  | disallowedCasing language requested allowed =>
    let styles := ", ".intercalate (allowed.map Casing.name)
    s!"casing style {requested.name} is not allowed for {language.name} (allowed: {styles})"
  | unknownLanguage name => s!"unknown language: {name}"

/-- The style with a name. -/
def Casing.parse (s : String) : Except ConfigError Casing :=
  match parse? s with
  | some casing => .ok casing
  | none => .error (.unknownCasing s)

/-- The language with a name. -/
def Language.parse (s : String) : Except ConfigError Language :=
  match parse? s with
  | some language => .ok language
  | none => .error (.unknownLanguage s)

end OpenApiGen
