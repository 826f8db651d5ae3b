import OpenApiGen.Json.Reader
import OpenApiGen.Spec.Decode
import OpenApiGen.Text.Split
import OpenApiGen.Yaml.Places

/-!
Documents from texts. A document that has the right form is still refused if it is of another
version than 3.
-/

namespace OpenApiGen

/-- The format that a document is written in. -/
inductive Format
  | json
  | yaml
  deriving DecidableEq, Repr

/-- The tree of a text, if the text is well formed. What a part of a YAML text is depends on the
shape of its place. -/
def Format.readTree? : Format → Shape → String → Option Tree
  | .json, _ => Json.readTree?
  | .yaml, shape => Yaml.readTree? shape

/-- Why a text is no document. -/
inductive SpecError
  /-- The text is not well formed, or it does not have the members of a document. -/
  | malformed (format : Format)
  | unsupportedVersion (version : String)
  deriving DecidableEq, Repr

/-- The wording of a document error. -/
def SpecError.message : SpecError → String
  | malformed .json => "failed to parse JSON"
  | malformed .yaml => "failed to parse YAML"
  | unsupportedVersion version => s!"unsupported OpenAPI version: {version}"

namespace Spec

/-- The document that a text holds. -/
def read (format : Format) (text : String) : Except SpecError Spec := do
  let spec ← match (format.readTree? (.record members) text).bind ofTree? with
    | some spec => .ok spec
    | none => .error (.malformed format)
  if Text.startsWith "3." spec.openapi then .ok spec
  else .error (.unsupportedVersion spec.openapi)

/-- The schema, or the reference to one, that a text holds. -/
def readSchema? (format : Format) (text : String) : Option (OrRef Schema) :=
  (format.readTree? .any text).bind schemaOrRef?

end Spec

end OpenApiGen
