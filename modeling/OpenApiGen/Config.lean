import OpenApiGen.Language
import OpenApiGen.Options
import OpenApiGen.Record
import OpenApiGen.Yaml.Places

/-!
The configuration of a project: which document to read, which language to generate for, and with
which options. A member that is not given has its default value.
-/

namespace OpenApiGen

namespace Slots

variable {t : Tree} {α : Type}

/-- A member that may be null; there is none, too, when the record does not have it. -/
def nullable (slots : Slots t) (name : String) (f : Part t → Option α) : Option (Option α) :=
  slots.defaulted name none fun u => if u.1.isNull then some none else (f u).map some

end Slots

/-- The members of options, in the order of their declaration. -/
def Options.members : List (String × Shape) :=
  [("model_name_prefix", .optional .text), ("model_name_suffix", .optional .text),
    ("reserved_word_mappings", .dict .text), ("property_naming", .optional .choice),
    ("unwrap_required", .flag), ("preserve_leading_param_char", .flag),
    ("controller_package", .text)]

/-- The options of a tree. -/
def Options.ofTree? (t : Tree) : Option Options := do
  let default_ : Options := {}
  let slots ← t.slots? (members.map Prod.fst)
  let modelPrefix ← slots.nullable "model_name_prefix" fun u => u.1.text?
  let modelSuffix ← slots.nullable "model_name_suffix" fun u => u.1.text?
  let reservedMappings ← slots.defaulted "reserved_word_mappings" default_.reservedMappings fun u =>
    u.1.dictOf? fun v => v.1.text?
  let propertyCasing ← slots.nullable "property_naming" fun u => u.1.choice? Casing.names
  let unwrapRequired ← slots.defaulted "unwrap_required" default_.unwrapRequired fun u => u.1.bool?
  let preserveLeadingChar ←
    slots.defaulted "preserve_leading_param_char" default_.preserveLeadingChar fun u => u.1.bool?
  let controllerPackage ←
    slots.defaulted "controller_package" default_.controllerPackage fun u => u.1.text?
  let options : Options := {
    modelPrefix, modelSuffix, reservedMappings, propertyCasing, unwrapRequired, preserveLeadingChar
    controllerPackage }
  some options

/-- The configuration of a project. -/
structure Config where
  /-- The path of the document. -/
  input : String := "openapi.yaml"
  language : Language := .go
  options : Options := {}
  deriving DecidableEq, Repr

namespace Config

/-- The name of the file that holds the configuration. -/
def fileName : String := ".cfgen.yaml"

/-- The members of a configuration, in the order of their declaration. -/
def members : List (String × Shape) :=
  [("input", .text), ("language", .choice), ("options", .record Options.members)]

/-- The configuration of a tree. -/
def ofTree? (t : Tree) : Option Config := do
  let default_ : Config := {}
  let slots ← t.slots? (members.map Prod.fst)
  let input ← slots.defaulted "input" default_.input fun u => u.1.text?
  let language ← slots.defaulted "language" default_.language fun u => u.1.choice? Language.names
  let options ← slots.defaulted "options" default_.options fun u => Options.ofTree? u.1
  some { input, language, options }

/-- The configuration that a text holds. -/
def read? (text : String) : Option Config :=
  (Yaml.readTree? (.record members) text).bind ofTree?

/-- The text of a new configuration file. -/
def template : String :=
  "\n".intercalate
    ["# cfgen configuration",
      "input: openapi.yaml",
      "language: go            # go | javascript | python_flask | swift4 | swift5",
      "",
      "options:",
      "  # model_name_prefix: Api",
      "  # model_name_suffix: Dto",
      "  reserved_word_mappings: \x7b\x7d",
      "    # return: ret",
      "  # property_naming: camelCase   # PascalCase | camelCase | snake_case | original " ++
        "(javascript only)",
      "  unwrap_required: false         # swift: required scalars are non-optional",
      "  preserve_leading_param_char: false  # javascript: keep leading $ or _ on parameters",
      "  controller_package: controllers     # python_flask",
      ""]

end Config

end OpenApiGen
