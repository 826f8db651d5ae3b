import OpenApiGen.Text.Alphanumeric
import OpenApiGen.Text.CaseMapping

/-!
The words of a name. A name is cut at every character that is not alphanumeric, and inside a piece
before a capital that follows a lower-case letter (`petId` to `pet`, `Id`) and before the last of a
run of capitals when a lower-case letter follows it (`XMLHttp` to `XML`, `Http`). Characters without
case, such as digits, leave the case of the word as it stands.
-/

namespace OpenApiGen.Text

/-- The longest runs of alphanumeric characters; `run` holds the open one, last character first. -/
def runsFrom : List Char → List Char → List (List Char)
  | [], [] => []
  | run, [] => [run.reverse]
  | run, c :: rest =>
    if isAlphanumeric c then runsFrom (c :: run) rest
    else if run.isEmpty then runsFrom [] rest
    else run.reverse :: runsFrom [] rest

/-- The longest runs of alphanumeric characters of a text, in order. -/
def alphanumericRuns (cs : List Char) : List (List Char) :=
  runsFrom [] cs

/-- The case of the last letter of a word that has one. -/
inductive WordCase
  | unknown
  | lower
  | upper
  deriving DecidableEq, Repr

/-- The case of a word after one more character. -/
def WordCase.after (k : WordCase) (c : Char) : WordCase :=
  if isLowercase c then .lower else if isUppercase c then .upper else k

/-- Cuts the rest of a run into words. `word` is the open word, last character first, and `k` its
case. -/
def wordsFrom : List Char → WordCase → List Char → List (List Char)
  | [], _, [] => []
  | word, _, [] => [word.reverse]
  | word, _, [c] => [(c :: word).reverse]
  | word, k, c :: next :: rest =>
    if k.after c = .lower ∧ isUppercase next then
      (c :: word).reverse :: wordsFrom [] .unknown (next :: rest)
    else if k = .upper ∧ isUppercase c ∧ isLowercase next then
      word.reverse :: wordsFrom [c] .unknown (next :: rest)
    else wordsFrom (c :: word) (k.after c) (next :: rest)

/-- The words of a name, in order. -/
def words (cs : List Char) : List (List Char) :=
  (alphanumericRuns cs).flatMap (wordsFrom [] .unknown)

/-- A word in lower case. A capital sigma at its end takes the final form. -/
def lowerWord : List Char → List Char
  | [] => []
  | ['Σ'] => ['ς']
  | c :: rest => lowerChar c ++ lowerWord rest

/-- A word in upper case. -/
def upperWord (w : List Char) : List Char :=
  w.flatMap upperChar

/-- A word with its first character in upper case and the others in lower case. -/
def capitalWord : List Char → List Char
  | [] => []
  | c :: rest => upperChar c ++ lowerWord rest

/-- Words in lower case joined by underscores: `pet_id`. -/
def toSnake (s : String) : String :=
  .ofList (['_'].intercalate ((words s.toList).map lowerWord))

/-- Words in upper case joined by underscores: `PET_ID`. -/
def toUpperSnake (s : String) : String :=
  .ofList (['_'].intercalate ((words s.toList).map upperWord))

/-- Capitalized words run together: `PetId`. -/
def toUpperCamel (s : String) : String :=
  .ofList ((words s.toList).flatMap capitalWord)

/-- The first word in lower case and the others capitalized, run together: `petId`. -/
def toLowerCamel (s : String) : String :=
  match words s.toList with
  | [] => ""
  | w :: rest => .ofList (lowerWord w ++ rest.flatMap capitalWord)

end OpenApiGen.Text
