import OpenApiGen.Text.Quoted

/-!
Reports about names that could not be kept.
-/

namespace OpenApiGen

/-- What a name is for. -/
inductive NameKind
  | identifier
  | model
  | operation
  deriving DecidableEq, Repr

/-- The kind of a name in a report. -/
def NameKind.label : NameKind → String
  | identifier => "identifier"
  | model => "model name"
  | operation => "operation id"

/-- Why a name could not be kept. -/
inductive RenamingCause
  | reservedWord
  | leadingDigit
  /-- Nothing is left of the name. -/
  | empty
  deriving DecidableEq, Repr

/-- A report that a name was replaced. -/
structure Renaming where
  cause : RenamingCause
  kind : NameKind
  given : String
  renamed : String
  deriving DecidableEq, Repr

/-- The wording of a report. -/
def Renaming.message (r : Renaming) : String :=
  let given := r.given
  let kind := r.kind.label
  let renamed := r.renamed
  match r.cause with
  | .reservedWord => s!"{given} (reserved word) cannot be used as {kind}, renamed to {renamed}"
  | .leadingDigit => s!"{given} ({kind} starts with a number) renamed to {renamed}"
  | .empty => s!"{kind} {Text.quoted given} is empty after sanitizing, using {renamed}"

/-- A generated name with the report about it, if there is one. -/
structure GeneratedName where
  name : String
  report : Option Renaming := none
  deriving DecidableEq, Repr

/-- The name that a report announces. -/
def GeneratedName.ofRenaming (r : Renaming) : GeneratedName :=
  { name := r.renamed, report := some r }

end OpenApiGen
