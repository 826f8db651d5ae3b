import OpenApiGen.Naming.Model
import OpenApiGen.Output
import OpenApiGen.Profile.PythonFlask
import OpenApiGen.Text.Sanitize

/-!
What descriptors need in addition for Python with Flask: the modules of controllers, clean parameter
names, and regular expressions with named flags.
-/

namespace OpenApiGen.Decoration

/-- The name of a flag of a regular expression. -/
def modifierName? : Char → Option String
  | 'i' => some "IGNORECASE"
  | 'l' => some "LOCALE"
  | 'm' => some "MULTILINE"
  | 's' => some "DOTALL"
  | 'u' => some "UNICODE"
  | 'x' => some "VERBOSE"
  | _ => none

/-- The body and the flags of a pattern in slashes: `/body/flags`, where the body is not empty. The
last slash ends the body. -/
def splitSlashes? (cs : List Char) : Option (List Char × List Char) :=
  match cs with
  | '/' :: rest =>
    let flags := (rest.reverse.takeWhile (· ≠ '/')).reverse
    let body := (rest.reverse.dropWhile (· ≠ '/')).drop 1
    if body.isEmpty then none else some (body.reverse, flags)
  | _ => none

/-- The regular expression of a pattern. A pattern that is not in slashes has no flags; apostrophes
are escaped. -/
def regexOf (pattern : String) : Regex :=
  let (body, flags) := (splitSlashes? pattern.toList).getD (pattern.toList, [])
  { body := Text.replaceChar '\x27' "\\'" (.ofList body)
    modifiers := flags.filterMap modifierName? }

/-- The module of the controller for an operation, by its first tag. -/
def controllerOf (package : String) (tags : List String) : String :=
  let api := Profile.pythonFlask.toApiName (tags.head?.getD "default")
  package ++ "." ++ Text.toSnake api

/-- A property with its regular expression. -/
def pythonProperty (p : Property) : Property :=
  { p with regex := p.pattern.map regexOf }

/-- A parameter with a clean name and its regular expression. -/
def pythonParameter (p : OperationParameter) : OperationParameter :=
  { p with baseName := Text.sanitize p.baseName, regex := p.pattern.map regexOf }

/-- The result of a run, decorated for Python with Flask. -/
def pythonFlask (package : String) (o : Output) : Output :=
  { o with
    models := o.models.map fun m =>
      { m with
        ownProperties := m.ownProperties.map pythonProperty
        allVars := m.allVars.map pythonProperty
        parentVars := m.parentVars.map pythonProperty }
    operations := o.operations.map fun op =>
      { op with
        controller := some (controllerOf package op.tags)
        parameters := op.parameters.map pythonParameter } }

end OpenApiGen.Decoration
