import OpenApiGen.Text.CodeRange

/-!
Cleaning of names: only ASCII letters, digits and underscores are left.
-/

namespace OpenApiGen.Text

/-- A letter or digit of ASCII, or an underscore. -/
def isIdentifierChar (c : Char) : Bool :=
  c.isAlphanum || c = '_'

/-- What a single character of a name leaves behind. Opening brackets and separators start a new
word, and any other character that an identifier cannot hold is dropped. -/
def sanitizeChar (c : Char) : List Char :=
  if c ∈ ['[', '(', '.', '-', ' '] then ['_']
  else if isIdentifierChar c then [c]
  else []

/-- What the characters of a name leave behind. An empty pair of square brackets leaves nothing. -/
def sanitizeChars : List Char → List Char
  | [] => []
  | '[' :: ']' :: rest => sanitizeChars rest
  | c :: rest => sanitizeChar c ++ sanitizeChars rest

/-- The name with all but identifier characters removed. A lone `$` becomes `value`. -/
def sanitize (name : String) : String :=
  if name = "$" then "value" else .ofList (sanitizeChars name.toList)

/-- All letters are capitals, there is one, and nothing but underscores stands between. -/
def isAllCaps (name : String) : Bool :=
  name.toList.any Char.isUpper && name.toList.all fun c => c.isUpper || c = '_'

/-- Whether the first character is a digit of ASCII. -/
def startsWithDigit (name : String) : Bool :=
  match name.toList with
  | c :: _ => c.isDigit
  | [] => false

/-- Every maximal run of characters that are neither alphanumeric nor an underscore becomes one
underscore; `inRun` tells whether such a run is open. -/
def collapseChars (isWord : Char → Bool) : Bool → List Char → List Char
  | _, [] => []
  | inRun, c :: rest =>
    if isWord c then c :: collapseChars isWord false rest
    else if inRun then collapseChars isWord true rest
    else '_' :: collapseChars isWord true rest

theorem sanitizeChar_subset {c d : Char} (h : d ∈ sanitizeChar c) : isIdentifierChar d = true := by
  unfold sanitizeChar at h
  split at h
  · simp_all [isIdentifierChar]
  · split at h <;> simp_all

/-- Cleaning leaves identifier characters only. -/
theorem sanitizeChars_subset {cs : List Char} {d : Char} (h : d ∈ sanitizeChars cs) :
    isIdentifierChar d = true := by
  fun_induction sanitizeChars cs with
  | case1 => simp at h
  | case2 rest ih => exact ih h
  | case3 c rest _ ih =>
    rcases List.mem_append.1 h with h | h
    · exact sanitizeChar_subset h
    · exact ih h

end OpenApiGen.Text
