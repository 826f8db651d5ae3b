/-!
Cutting, replacing and trimming of texts, as functions on their characters.
-/

namespace OpenApiGen.Text

/-- The pieces of a text between the characters that satisfy `p`; there is one piece more than
separators. -/
def splitWhere (p : Char → Bool) : List Char → List (List Char)
  | [] => [[]]
  | c :: rest =>
    if p c then [] :: splitWhere p rest
    else match splitWhere p rest with
      | piece :: more => (c :: piece) :: more
      | [] => [[c]]

/-- Every occurrence of one character replaced by a text. -/
def replaceChar (c : Char) (by_ : String) (s : String) : String :=
  .ofList (s.toList.flatMap fun d => if d = c then by_.toList else [d])

/-- The rest of a list after a given beginning, if it begins so. -/
def dropStart? : List Char → List Char → Option (List Char)
  | [], cs => some cs
  | _ :: _, [] => none
  | b :: beginning, c :: cs => if b = c then dropStart? beginning cs else none

/-- Nothing but the beginning is lost. -/
theorem length_of_dropStart? {b cs rest : List Char} (h : dropStart? b cs = some rest) :
    cs.length = b.length + rest.length := by
  fun_induction dropStart? b cs with
  | case1 => simp_all
  | case2 => simp at h
  | case3 c b cs ih => have := ih h; simp only [List.length_cons]; omega
  | case4 => simp at h

/-- The rest of a text after a given beginning, if it begins so. -/
def stripStart? (beginning s : String) : Option String :=
  (dropStart? beginning.toList s.toList).map .ofList

/-- The part of a text before a given ending, if it ends so. -/
def stripEnd? (ending s : String) : Option String :=
  (dropStart? ending.toList.reverse s.toList.reverse).map fun cs => .ofList cs.reverse

/-- Whether a text begins with another. -/
def startsWith (beginning s : String) : Bool :=
  (stripStart? beginning s).isSome

/-- Whether a text ends with another. -/
def endsWith (ending s : String) : Bool :=
  (stripEnd? ending s).isSome

/-- Whether a list occurs inside another, in one piece. -/
def occurs (inner : List Char) : List Char → Bool
  | [] => inner.isEmpty
  | c :: rest => (dropStart? inner (c :: rest)).isSome || occurs inner rest

/-- Whether a text has another inside. -/
def contains (inner s : String) : Bool :=
  occurs inner.toList s.toList

end OpenApiGen.Text
