import OpenApiGen.Profile.PythonFlask
import OpenApiGen.Proofs.Naming.LeadingChar

/-!
# Texts between quotes

A text that is written between two quotes stands for a text (`StandsFor`) if the first quote that no
backslash escapes is the last character, and if the inside, read from left to right with a backslash
standing for the character after it, gives the text back.

The value of an enumeration stands for its literal, whatever characters the literal has
(`Profile.standsFor_toEnumValue`): an escaped text has all its quotes and backslashes escaped
(`bareChars_escapeQuote`).  A text that is put between quotes as it is stands for itself if it has
none of either, and in no other case (`standsFor_between_iff`).
-/

namespace OpenApiGen

open Profile (unescape unescape_cons escapeQuote_cons unescape_escapeQuote)

/-! ## Reading from left to right -/

/-- The characters that no backslash escapes. A backslash that escapes one is not among them; one
that nothing follows is. -/
def bareChars : List Char → List Char
  | '\\' :: _ :: rest => bareChars rest
  | c :: rest => c :: bareChars rest
  | [] => []

theorem bareChars_cons {c : Char} (plain : c ≠ '\\') (rest : List Char) :
    bareChars (c :: rest) = c :: bareChars rest := by
  rw [bareChars.eq_2]
  rintro c' rest' rfl
  exact absurd rfl plain

/-- What stands between two quotes ends at no earlier quote, leaves the last quote bare, and is read
as a text. -/
structure Encloses (quote : Char) (inside text : List Char) : Prop where
  noQuote : quote ∉ bareChars inside
  noBackslash : '\\' ∉ bareChars inside
  reads : unescape inside = text

/-- A written text is the literal of a text between quotes. -/
def StandsFor (quote : Char) (written text : String) : Prop :=
  ∃ inside, written.toList = quote :: (inside ++ [quote]) ∧ Encloses quote inside text.toList

theorem Encloses.eq {quote : Char} {inside text text' : List Char} (h : Encloses quote inside text)
    (h' : Encloses quote inside text') : text = text' :=
  h.reads.symm.trans h'.reads

/-- A written text stands for one text at most. -/
theorem StandsFor.eq {quote : Char} {written text text' : String} (h : StandsFor quote written text)
    (h' : StandsFor quote written text') : text = text' := by
  obtain ⟨inside, split, encloses⟩ := h
  obtain ⟨inside', split', encloses'⟩ := h'
  rw [split, List.cons_inj_right, List.append_left_inj] at split'
  subst split'
  exact String.toList_injective (encloses.eq encloses')

/-! ## Escaped texts -/

theorem bareChars_escapeQuote {quote : Char} (plain : quote ≠ '\\') (cs : List Char) :
    bareChars (escapeQuote quote cs) = cs.filter fun c => c ≠ '\\' ∧ c ≠ quote := by
  induction cs with
  | nil => rfl
  | cons c rest ih =>
    rw [escapeQuote_cons plain]
    by_cases special : c = '\\' ∨ c = quote
    · rw [if_pos special, bareChars, ih,
        List.filter_cons_of_neg (by simpa using special.resolve_left)]
    · obtain ⟨noBackslash, noQuote⟩ := not_or.1 special
      rw [if_neg special, bareChars_cons noBackslash, ih,
        List.filter_cons_of_pos (by simp [noBackslash, noQuote])]

theorem encloses_escapeQuote {quote : Char} (plain : quote ≠ '\\') (cs : List Char) :
    Encloses quote (escapeQuote quote cs) cs where
  noQuote := by simp [bareChars_escapeQuote plain]
  noBackslash := by simp [bareChars_escapeQuote plain]
  reads := unescape_escapeQuote plain cs

/-! ## Texts as they are -/

theorem bareChars_of_notMem {cs : List Char} (h : '\\' ∉ cs) : bareChars cs = cs := by
  induction cs with
  | nil => rfl
  | cons c rest ih =>
    rw [List.mem_cons, not_or] at h
    rw [bareChars_cons (Ne.symm h.1), ih h.2]

theorem unescape_of_notMem {cs : List Char} (h : '\\' ∉ cs) : unescape cs = cs := by
  induction cs with
  | nil => rfl
  | cons c rest ih =>
    rw [List.mem_cons, not_or] at h
    rw [unescape_cons (Ne.symm h.1), ih h.2]

theorem length_unescape_le (cs : List Char) : (unescape cs).length ≤ cs.length := by
  fun_induction unescape cs with
  | case1 c rest ih =>
    simp only [List.length_cons]
    omega
  | case2 c rest _ ih => simpa using ih
  | case3 => exact Nat.le_refl _

/-- Each backslash that escapes a character is lost in reading. -/
theorem notMem_of_unescape_eq_self {cs : List Char} (complete : '\\' ∉ bareChars cs)
    (same : unescape cs = cs) : '\\' ∉ cs := by
  induction cs with
  | nil => exact List.not_mem_nil
  | cons c rest ih =>
    by_cases slash : c = '\\'
    · subst slash
      cases rest with
      | nil => exact absurd (List.mem_singleton_self _) complete
      | cons c' rest' =>
        have shorter := length_unescape_le rest'
        have length := congrArg List.length same
        simp only [unescape, List.length_cons] at length
        omega
    · rw [bareChars_cons slash, List.mem_cons, not_or] at complete
      rw [unescape_cons slash, List.cons_inj_right] at same
      rw [List.mem_cons, not_or]
      exact ⟨complete.1, ih complete.2 same⟩

theorem encloses_self_iff {quote : Char} {cs : List Char} :
    Encloses quote cs cs ↔ quote ∉ cs ∧ '\\' ∉ cs := by
  constructor
  · intro h
    have noBackslash := notMem_of_unescape_eq_self h.noBackslash h.reads
    have noQuote := h.noQuote
    rw [bareChars_of_notMem noBackslash] at noQuote
    exact ⟨noQuote, noBackslash⟩
  · rintro ⟨noQuote, noBackslash⟩
    have bare := bareChars_of_notMem noBackslash
    exact ⟨by rwa [bare], by rwa [bare], unescape_of_notMem noBackslash⟩

/-- A text between quotes stands for itself exactly if nothing in it needs to be escaped. -/
theorem standsFor_between_iff {quote : Char} {text : String} :
    StandsFor quote (.ofList (quote :: (text.toList ++ [quote]))) text ↔
      quote ∉ text.toList ∧ '\\' ∉ text.toList := by
  rw [← encloses_self_iff]
  constructor
  · rintro ⟨inside, split, encloses⟩
    rw [String.toList_ofList, List.cons_inj_right, List.append_left_inj] at split
    exact split ▸ encloses
  · exact fun h => ⟨text.toList, String.toList_ofList, h⟩

/-! ## Values of enumerations -/

namespace Profile

variable {p : Profile} {quote : Char} {dataType : String}

/-- In a language that quotes the values of enumerations, the value of a type that is neither
numeric nor Boolean stands for its literal. So values of different literals differ. -/
theorem standsFor_toEnumValue (quoted : p.rules.enumValueQuote = some quote) (plain : quote ≠ '\\')
    (notNumeric : p.isNumericType dataType = false)
    (notBoolean : p.isBooleanType dataType = false) :
    (∀ literal, StandsFor quote (p.toEnumValue literal dataType) literal) ∧
      Function.Injective fun literal => p.toEnumValue literal dataType := by
  have stands (literal : String) : StandsFor quote (p.toEnumValue literal dataType) literal := by
    refine ⟨escapeQuote quote literal.toList, ?_, encloses_escapeQuote plain _⟩
    simp [toEnumValue, notNumeric, notBoolean, quoted]
  refine ⟨stands, fun literal literal' same => ?_⟩
  have stands' : StandsFor quote (p.toEnumValue literal dataType) literal' := by
    rw [show p.toEnumValue literal dataType = p.toEnumValue literal' dataType from same]
    exact stands literal'
  exact (stands literal).eq stands'

/-- In Python an apostrophe and a backslash at the end of a literal are both escaped. -/
theorem standsFor_toEnumValue_apostrophe :
    pythonFlask.rules.enumValueQuote = some '\x27' ∧ '\x27' ≠ '\\' ∧
      pythonFlask.isNumericType "str" = false ∧ pythonFlask.isBooleanType "str" = false ∧
      pythonFlask.toEnumValue "it\x27s\\" "str" = "\x27it\\\x27s\\\\\x27" ∧
      StandsFor '\x27' "\x27it\\\x27s\\\\\x27" "it\x27s\\" := by
  have quoted : pythonFlask.rules.enumValueQuote = some '\x27' := rfl
  have plain : '\x27' ≠ '\\' := by decide
  have notNumeric : pythonFlask.isNumericType "str" = false := by decide
  have notBoolean : pythonFlask.isBooleanType "str" = false := by decide
  have value : pythonFlask.toEnumValue "it\x27s\\" "str" = "\x27it\\\x27s\\\\\x27" := by
    decide
  have stands := (standsFor_toEnumValue quoted plain notNumeric notBoolean).1 "it\x27s\\"
  rw [value] at stands
  exact ⟨quoted, plain, notNumeric, notBoolean, value, stands⟩

end Profile

end OpenApiGen
