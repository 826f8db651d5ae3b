import OpenApiGen.Naming.Identifier
import OpenApiGen.Text.Split

/-!
Names of models, of their files and of the groups of operations.
-/

namespace OpenApiGen.Profile

/-- The raw name with the profile's affixes, each only where the name does not have it in any
case. -/
def affixed (p : Profile) (raw : String) : String :=
  let withPrefix := match p.naming.modelPrefix with
    | some a =>
      if a = "" || Text.startsWith (Text.toLowercase a) (Text.toLowercase raw) then raw
      else a ++ "_" ++ raw
    | none => raw
  match p.naming.modelSuffix with
  | some a =>
    if a = "" || Text.endsWith (Text.toLowercase a) (Text.toLowercase withPrefix) then withPrefix
    else withPrefix ++ "_" ++ a
  | none => withPrefix

/-- The name of a model, with a report when it was replaced. -/
def modelNameReported (p : Profile) (raw : String) : GeneratedName :=
  let camel := Text.toUpperCamel (Text.sanitize (p.affixed raw))
  let marker := p.rules.modelMarker
  let replaced cause given renamed : GeneratedName :=
    .ofRenaming { cause, kind := .model, given, renamed }
  if camel = "" then replaced .empty raw marker
  else if p.isReserved camel then replaced .reservedWord camel (marker ++ camel)
  else if Text.startsWithDigit camel then replaced .leadingDigit camel (marker ++ camel)
  else { name := camel }

/-- The name of a model. -/
def toModelName (p : Profile) (raw : String) : String :=
  (p.modelNameReported raw).name

/-- The name of the file that holds a model, without its extension. -/
def toModelFile (p : Profile) (raw : String) : String :=
  let model := p.toModelName raw
  match p.rules.modelFile with
  | .modelName => model
  | .snake => Text.toSnake model
  | .prefixedSnake => "model_" ++ Text.toSnake model

/-- The name of the group of operations that share a tag. -/
def toApiName (p : Profile) (tag : String) : String :=
  let base := Text.toUpperCamel (Text.sanitize tag)
  (if base = "" then "Default" else base) ++ p.rules.apiSuffix

end OpenApiGen.Profile
