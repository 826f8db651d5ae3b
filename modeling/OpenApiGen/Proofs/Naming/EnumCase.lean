import OpenApiGen.Naming.Enum
import OpenApiGen.Proofs.Naming.Legal
import OpenApiGen.Proofs.Text.FirstChar

/-!
# Names of the cases of an enumeration

Which values get a usable name for their case (`usable_toEnumCase_iff`).  JavaScript and Python name
every value.  Go writes the underscore of its escape after the name, so a constant that starts with
a digit stays unusable (`usable_escaped_iff`), and a value without letters leaves it nothing to
write.  Swift puts an underscore before the digits that a value starts with, but not before those
that casing brings to the start (`usable_spelledCamel_iff`).
-/

namespace OpenApiGen

open Text

theorem LegalName.usable {reserved : String → Prop} {dollar : Bool} {name : String}
    (h : LegalName reserved dollar name) : UsableName name := by
  obtain ⟨c, cs, chars⟩ :=
    List.exists_cons_of_ne_nil fun none => h.nonempty (String.toList_eq_nil_iff.1 none)
  have head : name.toList.head? = some c := by rw [chars]; rfl
  exact (usableName_iff_of_head head).2 (h.head c head)

/-- The names of the symbols are usable in both spellings. -/
theorem usable_of_symbolName? {value symbol : String} (h : symbolName? value = some symbol) :
    UsableName (toUppercase symbol) ∧ UsableName (toLowerCamel (toLowercase symbol)) := by
  -- the names are words of ASCII that begin with a letter
  have table : (symbolNames.all fun e =>
      e.2.toList.all isAscii && e.2.toList.head?.any Char.isAlpha) = true := by
    decide +kernel
  obtain ⟨before, after, entries, -⟩ := List.lookup_eq_some_iff.1 h
  have named := List.all_eq_true.1 table (value, symbol) (by rw [entries]; simp)
  rw [Bool.and_eq_true, List.all_eq_true, Option.any_eq_true] at named
  obtain ⟨ascii, c, head, alpha⟩ := named
  obtain ⟨rest, chars⟩ := List.head?_eq_some_iff.1 head
  have first : (letters symbol.toList).head? = some c.toLower := by
    rw [chars, letters_cons_of_isAlphanum (by rw [Char.isAlphanum, alpha, Bool.true_or])]
    rfl
  have upper := head_toUppercase head (ascii c (List.mem_of_head? head))
  refine ⟨(usableName_iff_of_head upper).2 ?_, usable_toLowerCamel_iff.2
    ((first_toLowercase_iff_of_isAscii ascii).2 ⟨c.toLower, first, ?_⟩)⟩
  · rw [isDigit_toUpper, isDigit_of_isAlpha alpha]
  · rw [isDigit_toLower, isDigit_of_isAlpha alpha]

/-! ## Constants -/

/-- The words of a value in capitals, as far as a constant can hold them. -/
def Text.constantText (value : String) : String :=
  trimmed (sanitize (toUppercase (toSnake value)))

theorem Text.isClean_constantText (value : String) : IsClean (constantText value).toList :=
  (isClean_sanitize _).subset (trimmed_subset _)

namespace Profile

variable {p : Profile} {value dataType : String}

namespace Disciplined

variable (hp : p.Disciplined)

include hp

/-- An underscore after a name does not make it usable. -/
theorem usable_escaped_iff (after : p.rules.escape = .underscoreAfter) {name : String}
    (clean : IsClean name.toList) :
    UsableName (if p.isReserved name || startsWithDigit name then p.escapeReserved name else name) ↔
      UsableName name := by
  by_cases reserved : p.isReserved name = true
  · rw [if_pos (by rw [reserved, Bool.true_or])]
    obtain ⟨c, head, alpha⟩ := hp.isAlpha_head_of_reserved after clean reserved
    exact iff_of_true (hp.legal_escapeAs _ clean reserved).usable
      ((usableName_iff_of_head head).2 (isDigit_of_isAlpha alpha))
  by_cases digit : startsWithDigit name = true
  · rw [if_pos (by rw [digit, Bool.or_true]), escapeReserved, hp.escapeAs_eq, after]
    -- casing keeps the digit in front, and the escape comes after it
    obtain ⟨c, head, isDigit⟩ := startsWithDigit_iff.1 digit
    obtain ⟨d, head', lower⟩ := Casing.head_apply p.naming.casing clean head
      (by rw [Char.isAlphanum, isDigit, Bool.or_true])
    have escaped : (p.naming.casing.apply name ++ "_").toList.head? = some d := by
      rw [String.toList_append, List.head?_append, head', Option.some_or]
    have isDigit' : d.isDigit = true := by rw [← isDigit_toLower, lower, isDigit_toLower, isDigit]
    exact iff_of_false
      (fun usable => by simp [(usableName_iff_of_head escaped).1 usable] at isDigit')
      (fun usable => by simp [usable.2] at digit)
  · rw [if_neg (by simp [reserved, digit])]

theorem usable_spelledConstant_iff (after : p.rules.escape = .underscoreAfter)
    (text : p.isNumericType dataType = false) : UsableName (p.spelledConstant value dataType) ↔
      (symbolName? value).isSome = true ∨ UsableName (constantText value) := by
  rw [spelledConstant, if_neg (by simp [text])]
  cases symbol : symbolName? value with
  | some name => exact iff_of_true (usable_of_symbolName? symbol).1 (.inl rfl)
  | none =>
    have escaped := hp.usable_escaped_iff after (isClean_constantText value)
    exact escaped.trans (by simp)

end Disciplined

/-! ## Camel case -/

/-- A value in the shape of a camel-case name has letters and digits only, a capital first. -/
theorem first_of_isCamelShaped (h : isCamelShaped value = true) :
    (∀ c ∈ value.toList, isAscii c = true) ∧
      ∃ c, (letters value.toList).head? = some c ∧ c.isDigit = false := by
  unfold isCamelShaped at h
  split at h
  · next first second rest chars =>
    simp only [Bool.and_eq_true, Bool.or_eq_true, List.all_eq_true] at h
    obtain ⟨⟨upper, lowerOrDigit⟩, alnum⟩ := h
    have alpha : first.isAlpha = true := by rw [Char.isAlpha, upper, Bool.true_or]
    have alnum₂ : second.isAlphanum = true := by
      rcases lowerOrDigit with lower | digit
      · exact isAlphanum_of_isLower lower
      · rw [Char.isAlphanum, digit, Bool.or_true]
    rw [chars]
    refine ⟨fun c mem => isAscii_of_isAlphanum ?_, first.toLower, ?_, ?_⟩
    · rcases List.mem_cons.1 mem with rfl | mem
      · exact isAlphanum_of_isUpper upper
      · rcases List.mem_cons.1 mem with rfl | mem
        · exact alnum₂
        · exact alnum c mem
    · rw [letters_cons_of_isAlphanum (isAlphanum_of_isUpper upper)]
      rfl
    · rw [isDigit_toLower, isDigit_of_isAlpha alpha]
  · cases h

theorem Disciplined.usable_spelledCamel_iff (hp : p.Disciplined)
    (before : p.rules.escape = .underscoreBefore)
    (words : ∀ name, p.isReserved name = true → name = "_" ∨
      ∃ c, name.toList.find? isAlphanumeric = some c ∧ c.isDigit = false)
    (text : p.isNumericType dataType = false) : UsableName (p.spelledCamel value dataType) ↔
      (symbolName? value).isSome = true ∨ startsWithDigit value = true ∨
        ∃ c, (toLowercase value).toList.find? isAlphanumeric = some c ∧ c.isDigit = false := by
  have escaped (name : String) : UsableName (p.escapeReserved name) := by
    rw [escapeReserved, hp.escapeAs_eq, before]
    exact usableName_underscore_append name
  rw [spelledCamel, if_neg (by simp [text])]
  dsimp only
  rw [isEmpty_takeWhile_isDigit]
  by_cases digit : startsWithDigit value = true
  · rw [if_pos (by simp [digit]), String.append_assoc]
    exact iff_of_true (usableName_underscore_append _) (.inr (.inl digit))
  rw [if_neg (by simp [digit])]
  cases symbol : symbolName? value with
  | some name => exact iff_of_true (usable_of_symbolName? symbol).2 (.inl rfl)
  | none =>
    dsimp only
    cases shaped : isCamelShaped value with
    | true =>
      obtain ⟨ascii, first⟩ := first_of_isCamelShaped shaped
      refine iff_of_true ?_ (.inr (.inr ((first_toLowercase_iff_of_isAscii ascii).2 first)))
      simp only [if_true]
      split_ifs
      · exact escaped _
      · exact usable_toLowerCamel_iff.2 ((first_iff_of_isAscii ascii).2 first)
    | false =>
      simp only [Bool.false_eq_true, if_false]
      by_cases reserved : p.isReserved (toLowercase value) = true
      · rw [if_pos reserved]
        refine iff_of_true (escaped _) ?_
        rcases words _ reserved with lone | first
        · -- a lone underscore is a symbol
          rw [eq_underscore_of_toLowercase lone] at symbol
          cases symbol
        · exact .inr (.inr first)
      · rw [if_neg reserved, usable_toLowerCamel_iff]
        simp [digit]

/-! ## Identifiers -/

theorem Disciplined.usable_toEnumCase_of_identifier (hp : p.Disciplined)
    (style : p.rules.enumCase = .identifier) (ne : value ≠ "") :
    UsableName (p.toEnumCase value dataType) := by
  rw [toEnumCase, if_neg ne, style]
  dsimp only
  cases symbol : symbolName? value with
  | some name => exact (usable_of_symbolName? symbol).1
  | none => exact (hp.legal_identifierReported _ value).usable

/-! ## Capitals and underscores -/

theorem usable_upperUnderscore (ne : value ≠ "") : UsableName (upperUnderscore value) := by
  rw [upperUnderscore]
  cases symbol : symbolName? value with
  | some name => exact (usable_of_symbolName? symbol).1
  | none =>
    dsimp only
    split_ifs with digit
    · exact usableName_underscore_append _
    · refine ⟨fun none => ?_, by simpa using digit⟩
      rw [← String.toList_eq_nil_iff, toUppercase, String.toList_ofList, String.toList_ofList,
        List.flatMap_eq_nil_iff] at none
      obtain ⟨c, rest, chars⟩ := List.exists_cons_of_ne_nil
        (collapseChars_ne_nil (fun c => isAlphanumeric c || decide (c = '_')) ne)
      exact upperChar_ne_nil c (none c (by rw [chars]; exact List.mem_cons_self))

end Profile

/-! ## Usable names of cases -/

/-- Whether the text of a value gives its case a usable name: always in JavaScript and Python, in Go
if something is left of the constant that starts with no digit, and in Swift if a digit comes first
or no digit is the first that a word can hold. -/
def Language.NamesText : Language → String → Prop
  | javascript, _ | pythonFlask, _ => True
  | go, value => UsableName (constantText value)
  | swift4, value | swift5, value => startsWithDigit value = true ∨
      ∃ c, (toLowercase value).toList.find? isAlphanumeric = some c ∧ c.isDigit = false

theorem usable_constantText_iff_of_isAscii {value : String}
    (ascii : ∀ c ∈ value.toList, isAscii c = true) : UsableName (constantText value) ↔
      ∃ c, (letters value.toList).head? = some c ∧ c.isDigit = false := by
  rw [← first_iff_of_isAscii ascii]
  cases found : value.toList.find? isAlphanumeric with
  | none =>
    have none_ : toSnake value = "" := by
      rw [toSnake, words_eq_nil (by rw [← List.head?_eq_none_iff, List.head?_filter, found])]
      rfl
    have unusable : ¬ UsableName (constantText value) := by
      rw [constantText, none_]
      decide
    simp [unusable]
  | some c =>
    -- `c` comes first at each stage, in lower and then in upper case
    have isAscii : isAscii c = true := ascii c (List.mem_of_find?_eq_some found)
    have alnum : c.isAlphanum = true := by
      rw [← isAlphanumeric_of_isAscii isAscii, List.find?_some found]
    have alnum' : c.toLower.toUpper.isAlphanum = true := by simp [alnum]
    have ne : c.toLower.toUpper ≠ '_' := fun same => by rw [same] at alnum'; cases alnum'
    have upper := head_toUppercase (head_toSnake found isAscii) (isAscii_toLower isAscii)
    have cleaned := head_sanitize upper (isIdentifierChar_of_isAlphanum alnum')
    simp [constantText, usableName_iff_of_head (head_trimmed cleaned ne)]

/-- Settings do not change how cases are named. -/
theorem enumCase_of_withOptions {language : Language} {o : Options} {p : Profile}
    (h : language.profile.withOptions o = .ok p) :
    p.rules.enumCase = language.profile.rules.enumCase ∧
      p.rules.emptyEnumCase = language.profile.rules.emptyEnumCase ∧
      p.rules.escape = language.profile.rules.escape := by
  obtain ⟨casing, -, rfl⟩ := Profile.withOptions_cases h
  exact ⟨rfl, rfl, rfl⟩

theorem first_of_swiftReserved {w : String} (h : w ∈ Profile.swiftReserved) :
    w = "_" ∨ ∃ c, w.toList.find? isAlphanumeric = some c ∧ c.isDigit = false := by
  have table : (Profile.swiftReserved.all fun w =>
      w == "_" || (w.toList.find? isAlphanumeric).any (!·.isDigit)) = true := by decide +kernel
  have := List.all_eq_true.1 table w h
  simpa [Option.any_eq_true] using this

/-- The case of a value has a usable name if and only if the value is empty, is a symbol, or has a
text that gives one; in ASCII that is a text whose first letter or digit is a letter, in all
languages but JavaScript and Python, which take any, and Swift, which also takes a digit that comes
first of all. -/
theorem usable_toEnumCase_iff {language : Language} {o : Options} {p : Profile}
    (h : language.profile.withOptions o = .ok p) (unmapped : o.reservedMappings = [])
    {dataType : String} (text : p.isNumericType dataType = false) (value : String) :
    (UsableName (p.toEnumCase value dataType) ↔
        value = "" ∨ (symbolName? value).isSome = true ∨ language.NamesText value) ∧
      ((∀ c ∈ value.toList, isAscii c = true) → (language.NamesText value ↔
        language = .javascript ∨ language = .pythonFlask ∨
          (language ≠ .go ∧ startsWithDigit value = true) ∨
            ∃ c, (letters value.toList).head? = some c ∧ c.isDigit = false)) := by
  have hp := disciplined_of_withOptions h unmapped
  obtain ⟨style, onEmpty, escape⟩ := enumCase_of_withOptions h
  refine ⟨?_, fun ascii => ?_⟩
  · by_cases empty : value = ""
    · refine iff_of_true ?_ (.inl empty)
      rw [Profile.toEnumCase, if_pos empty, onEmpty]
      cases language <;> decide
    · simp only [empty, false_or]
      cases language with
      | go =>
        rw [Profile.toEnumCase, if_neg empty, style]
        exact hp.usable_spelledConstant_iff escape text
      | javascript => exact iff_of_true (hp.usable_toEnumCase_of_identifier style empty) (.inr trivial)
      | pythonFlask =>
        rw [Profile.toEnumCase, if_neg empty, style]
        exact iff_of_true (Profile.usable_upperUnderscore empty) (.inr trivial)
      | swift4 | swift5 =>
        rw [Profile.toEnumCase, if_neg empty, style]
        refine hp.usable_spelledCamel_iff escape (fun name reserved => ?_) text
        obtain ⟨w, mem, rfl⟩ := (Language.isReserved_iff h name).1 reserved
        exact first_of_swiftReserved mem
  · cases language with
    | go => simpa [Language.NamesText] using usable_constantText_iff_of_isAscii ascii
    | javascript | pythonFlask => simp [Language.NamesText]
    | swift4 | swift5 =>
      simpa [Language.NamesText] using or_congr_right (first_toLowercase_iff_of_isAscii ascii)

/-- Words that start with letters make a constant. -/
theorem usable_toEnumCase_inTransit :
    UsableName (Language.go.profile.toEnumCase "in-transit" "string") :=
  (usable_toEnumCase_iff (Language.withOptions_default .go) rfl (by decide) "in-transit").1.2
    (.inr (.inr (show UsableName (constantText "in-transit") by decide +kernel)))

/-- A digit keeps its place before the underscore of the escape, two symbols in a row leave nothing,
and a sign hides the digit after it. -/
theorem not_usable_toEnumCase :
    (Language.go.profile.isNumericType "string" = false ∧
        Language.go.profile.toEnumCase "1" "string" = "1_" ∧
        Language.go.profile.toEnumCase "@@" "string" = "") ∧
      Language.swift5.profile.isNumericType "String" = false ∧
        Language.swift5.profile.toEnumCase "-1" "String" = "1" ∧
        Language.swift5.profile.toEnumCase "@@" "String" = "" ∧
        ¬ UsableName "1_" ∧ ¬ UsableName "1" ∧ ¬ UsableName "" := by
  decide +kernel

end OpenApiGen
