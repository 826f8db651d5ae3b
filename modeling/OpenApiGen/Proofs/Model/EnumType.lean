import OpenApiGen.Model.Build
import OpenApiGen.Proofs.Schema.Spelling
import OpenApiGen.Proofs.Schema.Spine
import OpenApiGen.Proofs.Text.FirstChar

/-!
# Names of the types of inline enumerations

A property whose node is an enumeration is always built, and the name of the enumeration's type has
the characters of an identifier and is not empty (`Resolver.enumName_property`).  It is named after
the identifier of the property.  Where that identifier escapes a digit by an underscore, the name in
camel case loses the underscore again, so that in JavaScript and Python the name starts with a digit
if the first letter or digit of the key is one.
-/

namespace OpenApiGen

open Text

namespace Profile

/-! ## Digits in identifiers -/

theorem letters_dropUnderscores (s : String) :
    letters (dropUnderscores s).toList = letters s.toList := by
  rw [dropUnderscores, String.toList_ofList]
  induction s.toList with
  | nil => rfl
  | cons c cs ih =>
    by_cases underscore : c = '_'
    · rw [List.dropWhile_cons_of_pos (by simpa using underscore), ih, underscore,
        letters_cons_underscore]
    · rw [List.dropWhile_cons_of_neg (by simpa using underscore)]

namespace Disciplined

variable {p : Profile} (hp : p.Disciplined)

include hp

theorem letters_escapeAs (before : p.rules.escape = .underscoreBefore) (casing : Casing)
    (name : String) : letters (p.escapeAs casing name).toList = letters name.toList := by
  rw [hp.escapeAs_eq, before, String.toList_append]
  exact letters_cons_underscore _

/-- Casing and escaping leave the first letter or digit of a name where it is. -/
theorem digitFirst_caseIdentifier (before : p.rules.escape = .underscoreBefore) (casing : Casing)
    (raw : String) {clean : String} (isClean : IsClean clean.toList) :
    digitFirst (p.caseIdentifier casing raw clean).name.toList = digitFirst clean.toList := by
  have escape : p.rules.leadingDigit = .escape := by
    rcases hp.digits with ⟨-, escape⟩ | ⟨after, -⟩
    · exact escape
    · rw [before] at after
      cases after
  unfold caseIdentifier
  dsimp only
  generalize hname : (if p.rules.stripLeadingUnderscores then dropUnderscores (casing.apply clean)
    else casing.apply clean) = name
  have kept : letters name.toList = letters clean.toList := by
    rw [← hname]
    split
    · rw [letters_dropUnderscores, Casing.letters_apply casing isClean]
    · exact Casing.letters_apply casing isClean
  split_ifs with empty reserved digit
  · -- the word for an empty name has letters only
    rw [empty] at kept
    rw [digitFirst_of_letters_eq_nil kept.symm]
    exact (digitFirst_congr (Casing.letters_apply casing (s := "empty") (by decide))).trans
      (by decide)
  · exact digitFirst_congr ((hp.letters_escapeAs before casing name).trans kept)
  · rw [escapeDigit, escape]
    exact digitFirst_congr ((hp.letters_escapeAs before casing name).trans kept)
  · exact digitFirst_congr kept

theorem digitFirst_identifierReported (before : p.rules.escape = .underscoreBefore)
    (unkept : p.rules.preserveLeadingChar = false) (casing : Casing) (raw : String) :
    digitFirst (p.identifierReported casing raw).name.toList = digitFirst raw.toList := by
  have clean := isClean_sanitize raw
  have restored (generated : GeneratedName) : p.restoreLeading raw generated = generated := by
    unfold restoreLeading
    split
    · rfl
    · simp [unkept]
  rw [← digitFirst_sanitize raw]
  unfold identifierReported
  dsimp only
  split
  · next name lone =>
    split at lone
    · next underscore =>
      obtain rfl := hp.lone name lone
      rw [underscore]
      rfl
    · cases lone
  · rw [restored, restored]
    split
    · split
      · split_ifs
        · exact digitFirst_congr (hp.letters_escapeAs before casing _)
        · rfl
      · rw [hp.digitFirst_caseIdentifier before casing raw clean.toLowercase]
        refine digitFirst_congr ?_
        rw [toLowercase_of_isAscii clean.isAscii, letters_map_toLower]
    · exact hp.digitFirst_caseIdentifier before casing raw clean

end Disciplined

/-! ## Names of enumeration types -/

variable {p : Profile} {property : String}

/-- In capitals, the name of a model gets no underscore before it. -/
theorem usable_toEnumName_of_upperSnake (style : p.rules.enumType = .upperSnake)
    (named : p.IsTypeName (p.toModelName property)) :
    UsableName (p.toEnumName property) ∧ IsClean (p.toEnumName property).toList := by
  obtain ⟨c, head, alpha⟩ := named.head
  have clean : IsClean (toUpperSnake (p.toModelName property)).toList :=
    isClean_toUpperSnake fun d hd => isIdentifierChar_of_isAlphanum (named.chars d hd)
  have usable : UsableName (toUpperSnake (p.toModelName property)) := by
    have first := head_toUpperSnake head (by rw [Char.isAlphanum, alpha, Bool.true_or])
    rw [usableName_iff_of_head first, isDigit_toUpper, isDigit_of_isAlpha alpha]
  rw [toEnumName, style]
  dsimp only
  rw [if_neg (by simp [usable.2])]
  exact ⟨usable, clean⟩

theorem usable_toEnumName_of_modelName (style : p.rules.enumType = .modelName)
    (named : p.IsTypeName (p.toModelName property)) :
    UsableName (p.toEnumName property) ∧ IsClean (p.toEnumName property).toList := by
  obtain ⟨c, head, alpha⟩ := named.head
  have clean : IsClean (p.toModelName property).toList :=
    fun d hd => isIdentifierChar_of_isAlphanum (named.chars d hd)
  rw [toEnumName, style]
  dsimp only
  split_ifs
  · rw [usableName_iff, String.toList_append]
    refine ⟨⟨c, by rw [List.head?_append, head, Option.some_or], isDigit_of_isAlpha alpha⟩, ?_⟩
    exact isClean_append_iff.2 ⟨clean, by decide⟩
  · exact ⟨usableName_iff.2 ⟨c, head, isDigit_of_isAlpha alpha⟩, clean⟩

/-- In camel case with `Enum` after it, a name starts with a digit if that is its first letter or
digit. -/
theorem toEnumName_of_camelSuffix (style : p.rules.enumType = .camelSuffix)
    (clean : IsClean property.toList) :
    p.toEnumName property ≠ "" ∧ IsClean (p.toEnumName property).toList ∧
      startsWithDigit (p.toEnumName property) = digitFirst property.toList := by
  rw [toEnumName, style]
  dsimp only
  rw [sanitize_of_isClean clean]
  have alnum : ∀ c ∈ (toUpperCamel property ++ "Enum").toList, c.isAlphanum = true := by
    rw [String.toList_append]
    exact List.forall_mem_append.2
      ⟨Casing.isAlphanum_of_mem_apply_upperCamel clean, by simp⟩
  refine ⟨fun none => ?_, fun c hc => isIdentifierChar_of_isAlphanum (alnum c hc), ?_⟩
  · exact absurd (String.append_eq_empty_iff.1 none).2 (by decide)
  · rw [startsWithDigit_of_isAlphanum alnum, String.toList_append,
      digitFirst_append _ (by decide)]
    exact digitFirst_congr (Casing.letters_apply .upperCamel clean)

theorem Disciplined.toEnumName_toIdentifier (hp : p.Disciplined)
    (style : p.rules.enumType = .camelSuffix) (before : p.rules.escape = .underscoreBefore)
    (unkept : p.rules.preserveLeadingChar = false) (key : String) :
    p.toEnumName (p.toIdentifier key) ≠ "" ∧ IsClean (p.toEnumName (p.toIdentifier key)).toList ∧
      startsWithDigit (p.toEnumName (p.toIdentifier key)) = digitFirst key.toList := by
  have legal := hp.legal_identifierReported p.naming.casing key
  rw [unkept] at legal
  obtain ⟨ne, clean, digit⟩ := toEnumName_of_camelSuffix style legal.isClean
  exact ⟨ne, clean, digit.trans (hp.digitFirst_identifierReported before unkept _ key)⟩

end Profile

namespace Resolver

theorem property_enum (r : Resolver) (key base : String) (literals : List String)
    (default_ : Option Json) (required : Bool) :
    ∃ property, r.property key (.enum base literals default_) required = .ok property ∧
      property.enumName = some (r.profile.toEnumName (r.profile.toIdentifier key)) := by
  have plain : (Node.enum base literals default_).isPlain = true := rfl
  rw [property, declare, declareWithin_of_isPlain plain, baseType_of_isPlain plain]
  exact ⟨_, rfl, rfl⟩

/-- A property that is an enumeration is built, with a name for its type that is not empty and has
the characters of an identifier.  The name starts with a digit in JavaScript and Python if the first
letter or digit of the key is one, and never in Go and Swift. -/
theorem enumName_property (language : Language) (library : Library) (key base : String)
    (literals : List String) (default_ : Option Json) (required : Bool) :
    ∃ property name, Resolver.property ⟨language.profile, library⟩ key
        (.enum base literals default_) required = .ok property ∧
      property.enumName = some name ∧ name ≠ "" ∧ IsClean name.toList ∧
        (startsWithDigit name = true ↔
          (language = .javascript ∨ language = .pythonFlask) ∧ digitFirst key.toList = true) := by
  obtain ⟨property, built, named⟩ :=
    property_enum ⟨language.profile, library⟩ key base literals default_ required
  refine ⟨property, _, built, named, ?_⟩
  have hp := disciplined_of_withOptions (Language.withOptions_default language) rfl
  have typeName := hp.isTypeName_toModelName (language.profile.toIdentifier key)
  cases language with
  | go =>
    obtain ⟨usable, clean⟩ := Profile.usable_toEnumName_of_upperSnake rfl typeName
    exact ⟨usable.1, clean, by simp [usable.2]⟩
  | javascript =>
    obtain ⟨ne, clean, digit⟩ := hp.toEnumName_toIdentifier rfl rfl rfl key
    exact ⟨ne, clean, by simp [digit]⟩
  | pythonFlask =>
    obtain ⟨ne, clean, digit⟩ := hp.toEnumName_toIdentifier rfl rfl rfl key
    exact ⟨ne, clean, by simp [digit]⟩
  | swift4 | swift5 =>
    obtain ⟨usable, clean⟩ := Profile.usable_toEnumName_of_modelName rfl typeName
    exact ⟨usable.1, clean, by simp [usable.2]⟩

/-- The underscore that keeps a property legal is lost in the name of its enumeration. -/
theorem not_usable_enumName_property :
    Language.javascript.profile.toIdentifier "1st" = "_1st" ∧
      ∃ property, Resolver.property ⟨Language.javascript.profile, []⟩ "1st"
          (.enum "string" ["a"] none) true = .ok property ∧
        property.enumName = some "1stEnum" ∧ startsWithDigit "1stEnum" = true := by
  obtain ⟨property, built, named⟩ :=
    property_enum ⟨Language.javascript.profile, []⟩ "1st" "string" ["a"] none true
  have name : Language.javascript.profile.toEnumName
      (Language.javascript.profile.toIdentifier "1st") = "1stEnum" := by decide +kernel
  exact ⟨by decide +kernel, property, built, by rw [named, name], by decide⟩

end Resolver

end OpenApiGen
