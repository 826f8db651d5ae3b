import OpenApiGen.Naming.Renaming
import OpenApiGen.Profile.Basic
import OpenApiGen.Text.Sanitize

/-!
Identifiers of properties, variables, parameters and operations. A raw name is cleaned and cased;
what would then be empty, reserved or start with a digit is replaced, and the replacement is
reported.
-/

namespace OpenApiGen

/-- Two texts that differ at most in the case of ASCII letters. -/
def eqIgnoringAsciiCase (a b : String) : Bool :=
  a.toList.map Char.toLower == b.toList.map Char.toLower

namespace Profile

/-- The replacement that the user gave for a word: under the word itself, or, where case does not
matter, under the first that differs from it in case only. -/
def mappedWord? (p : Profile) (word : String) : Option String :=
  match p.naming.reservedMappings.get? word with
  | some replacement => some replacement
  | none =>
    if p.naming.reserved.caseSensitive then none
    else (p.naming.reservedMappings.find? fun e => eqIgnoringAsciiCase e.1 word).map Prod.snd

/-- A word as a legal name: its replacement, or else the language's escape in the given casing. -/
def escapeAs (p : Profile) (casing : Casing) (word : String) : String :=
  match p.mappedWord? word with
  | some replacement => replacement
  | none =>
    match p.rules.escape with
    | .underscoreBefore => "_" ++ word
    | .underscoreAfter => casing.apply word ++ "_"

/-- A reserved word as a legal name, in the casing of properties. -/
def escapeReserved (p : Profile) (word : String) : String :=
  p.escapeAs p.naming.casing word

/-- A name that starts with a digit as a legal name. -/
def escapeDigit (p : Profile) (casing : Casing) (name : String) : String :=
  match p.rules.leadingDigit with
  | .escape => p.escapeAs casing name
  | .marker word =>
    if casing = .unchanged then word ++ name else casing.apply (word ++ "_" ++ name)

/-- The text without the underscores at its start. -/
def dropUnderscores (s : String) : String :=
  .ofList (s.toList.dropWhile (· = '_'))

/-- The identifier for a name that has been cleaned, before a leading character is put back. -/
def caseIdentifier (p : Profile) (casing : Casing) (raw clean : String) : GeneratedName :=
  let cased := casing.apply clean
  let name := if p.rules.stripLeadingUnderscores then dropUnderscores cased else cased
  let replaced cause renamed : GeneratedName :=
    .ofRenaming { cause, kind := .identifier, given := raw, renamed }
  if name = "" then replaced .empty (casing.apply "empty")
  else if p.isReserved name then replaced .reservedWord (p.escapeAs casing name)
  else if Text.startsWithDigit name then replaced .leadingDigit (p.escapeDigit casing name)
  else { name }

/-- Puts the leading dollar sign or underscore of a raw name back before the generated one, where
the profile preserves it. -/
def restoreLeading (p : Profile) (raw : String) (generated : GeneratedName) : GeneratedName :=
  match raw.toList with
  | [] => generated
  | first :: _ =>
    if p.rules.preserveLeadingChar ∧ (first = '$' ∨ first = '_') ∧
        generated.name.toList.head? ≠ some first then
      { generated with name := .ofList (first :: generated.name.toList) }
    else generated

/-- The identifier for a raw name in a casing, with a report when it was replaced. -/
def identifierReported (p : Profile) (casing : Casing) (raw : String) : GeneratedName :=
  let clean := Text.sanitize raw
  match (if clean = "_" then p.rules.loneUnderscore else none) with
  | some name => { name }
  | none =>
    if Text.isAllCaps clean then
      match p.rules.allCaps with
      | .keep =>
        if p.isReserved clean then
          .ofRenaming {
            cause := .reservedWord, kind := .identifier, given := raw
            renamed := p.escapeAs casing clean }
        else { name := clean }
      | .lowercase =>
        p.restoreLeading raw (p.caseIdentifier casing raw (Text.toLowercase clean))
    else p.restoreLeading raw (p.caseIdentifier casing raw clean)

/-- The identifier of a property or variable. -/
def toIdentifier (p : Profile) (raw : String) : String :=
  (p.identifierReported p.naming.casing raw).name

/-- The identifier of a parameter. -/
def toParamName (p : Profile) (raw : String) : String :=
  (p.identifierReported p.paramCasing raw).name

/-- The name of an operation, with a report when it was replaced. -/
def operationIdReported (p : Profile) (raw : String) : GeneratedName :=
  let casing := p.rules.operationCasing
  let clean := Text.sanitize raw
  let cased := casing.apply clean
  let replaced cause given renamed : GeneratedName :=
    .ofRenaming { cause, kind := .operation, given, renamed }
  if cased = "" then replaced .empty raw (casing.apply "operation")
  else if p.isReserved cased then replaced .reservedWord cased (casing.apply ("call_" ++ clean))
  else if Text.startsWithDigit cased then
    replaced .leadingDigit cased (casing.apply ("call_" ++ clean))
  else { name := cased }

/-- The name of an operation. -/
def toOperationId (p : Profile) (raw : String) : String :=
  (p.operationIdReported raw).name

end Profile

end OpenApiGen
