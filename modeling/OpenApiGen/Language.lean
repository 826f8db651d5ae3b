import OpenApiGen.Text.Split
import OpenApiGen.Text.CaseMapping

/-!
The languages that code is generated for.
-/

namespace OpenApiGen

/-- A target language with a profile of its own. -/
inductive Language
  | go
  | javascript
  | pythonFlask
  | swift4
  | swift5
  deriving DecidableEq, Repr

namespace Language

/-- Every target, in the order in which they are listed. -/
def all : List Language :=
  [.go, .javascript, .pythonFlask, .swift4, .swift5]

/-- The name of a target in configuration files and output. -/
def name : Language → String
  | go => "go"
  | javascript => "javascript"
  | pythonFlask => "python_flask"
  | swift4 => "swift4"
  | swift5 => "swift5"

/-- The targets by their names. -/
def names : List (String × Language) :=
  all.map fun language => (language.name, language)

/-- The target that a user means: case does not matter, hyphens stand for underscores, and short
names are known. -/
def parse? (s : String) : Option Language :=
  match Text.replaceChar '-' "_" (Text.toLowercase s) with
  | "go" => some .go
  | "javascript" | "js" => some .javascript
  | "python_flask" | "python" | "flask" => some .pythonFlask
  | "swift4" | "swift" => some .swift4
  | "swift5" => some .swift5
  | _ => none

end Language

end OpenApiGen
