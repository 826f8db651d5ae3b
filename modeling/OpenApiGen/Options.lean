import OpenApiGen.Casing
import OpenApiGen.Dict

/-!
What a user can set for a run.
-/

namespace OpenApiGen

/-- The settings of a run. -/
structure Options where
  modelPrefix : Option String := none
  modelSuffix : Option String := none
  /-- Replacements of reserved words, tried before the general escape. -/
  reservedMappings : Dict String := []
  /-- Casing of properties, if not that of the language. -/
  propertyCasing : Option Casing := none
  /-- Required scalars are never optional. -/
  unwrapRequired : Bool := false
  /-- A leading dollar sign or underscore of a parameter is kept. -/
  preserveLeadingChar : Bool := false
  /-- The package that holds generated controllers. -/
  controllerPackage : String := "controllers"
  deriving DecidableEq, Repr

end OpenApiGen
