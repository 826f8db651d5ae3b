import OpenApiGen.Proofs.Schema.Spelling
import OpenApiGen.Proofs.Text.Sanitize

/-!
# Names of models and their affixes

The name of a model is made of its raw name between the affixes, in upper camel case, after the
marker where there is a report (`Profile.toModelName_eq`).  If affixes of ASCII letters and digits
are set, then up to case the name is made of the marker, the prefix, the letters and digits of the
raw name and the suffix, where an affix that the raw name has already is not put there again
(`folded_toModelName`).  So the name of a model has all affixes, unless a marker stands before them.

Naming a model after the name of a model gives the same name if and only if no affix is put there
again and the capitals of the name are apart (`toModelName_toModelName_iff`).
-/

namespace OpenApiGen

open Text

namespace Profile

variable {p : Profile} {a b : String}

/-! ## Raw names and affixes -/

/-- The raw name with the prefix, unless it starts with that in any case. -/
def withPrefix (p : Profile) (raw : String) : String :=
  match p.naming.modelPrefix with
  | some a =>
    if a = "" || startsWith (toLowercase a) (toLowercase raw) then raw else a ++ "_" ++ raw
  | none => raw

/-- A name with the suffix, unless it ends with that in any case. -/
def withSuffix (p : Profile) (name : String) : String :=
  match p.naming.modelSuffix with
  | some b =>
    if b = "" || endsWith (toLowercase b) (toLowercase name) then name else name ++ "_" ++ b
  | none => name

theorem affixed_eq (p : Profile) (raw : String) : p.affixed raw = p.withSuffix (p.withPrefix raw) :=
  rfl

theorem withPrefix_cases (p : Profile) (raw : String) :
    p.withPrefix raw = raw ∨ ∃ a : String, p.withPrefix raw = a ++ "_" ++ raw := by
  unfold withPrefix
  split
  · split_ifs
    · exact .inl rfl
    · exact .inr ⟨_, rfl⟩
  · exact .inl rfl

theorem withSuffix_cases (p : Profile) (name : String) :
    p.withSuffix name = name ∨ ∃ b : String, p.withSuffix name = name ++ "_" ++ b := by
  unfold withSuffix
  split
  · split_ifs
    · exact .inl rfl
    · exact .inr ⟨_, rfl⟩
  · exact .inl rfl

/-- Affixes stand around the raw name, and underscores between. -/
theorem exists_toList_affixed (p : Profile) (raw : String) : ∃ a b : List Char,
    (p.affixed raw).toList = a ++ raw.toList ++ b ∧
      (a = [] ∨ ∃ a', a = a' ++ ['_']) ∧ (b = [] ∨ ∃ b', b = '_' :: b') := by
  obtain ⟨a, ha, before⟩ : ∃ a : List Char, (p.withPrefix raw).toList = a ++ raw.toList ∧
      (a = [] ∨ ∃ a', a = a' ++ ['_']) := by
    rcases p.withPrefix_cases raw with h | ⟨a, h⟩
    · exact ⟨[], by simp [h], .inl rfl⟩
    · exact ⟨a.toList ++ ['_'], by simp [h], .inr ⟨_, rfl⟩⟩
  rw [affixed_eq]
  rcases p.withSuffix_cases (p.withPrefix raw) with h | ⟨b, h⟩
  · exact ⟨a, [], by simp [h, ha], before, .inl rfl⟩
  · exact ⟨a, '_' :: b.toList, by simp [h, ha], before, .inr ⟨_, rfl⟩⟩

/-! ## Names and reports -/

/-- What naming makes of a raw name before it looks whether that is legal. -/
def camelName (p : Profile) (raw : String) : String :=
  toUpperCamel (sanitize (p.affixed raw))

/-- There is a report if and only if the name is not legal as it stands, and then the marker is put
before it. -/
theorem toModelName_eq (p : Profile) (raw : String) : p.toModelName raw =
    (if (p.modelNameReported raw).report = none then "" else p.rules.modelMarker) ++
      p.camelName raw := by
  unfold toModelName modelNameReported
  dsimp only
  rw [← camelName]
  split_ifs with empty reserved digit <;> simp_all [GeneratedName.ofRenaming]

theorem report_modelNameReported_eq_none_iff {raw : String} :
    (p.modelNameReported raw).report = none ↔ p.camelName raw ≠ "" ∧
      ¬ p.isReserved (p.camelName raw) = true ∧ ¬ startsWithDigit (p.camelName raw) = true := by
  unfold modelNameReported
  dsimp only
  rw [← camelName]
  split_ifs with empty reserved digit <;> simp_all [GeneratedName.ofRenaming]

theorem isAlphanum_of_mem_camelName (p : Profile) (raw : String) :
    ∀ c ∈ (p.camelName raw).toList, c.isAlphanum = true :=
  Casing.isAlphanum_of_mem_apply_upperCamel (isClean_sanitize (p.affixed raw))

theorem letters_camelName {raw : String} (h : p.affixed raw ≠ "$") :
    letters (p.camelName raw).toList = letters (p.affixed raw).toList :=
  (Casing.letters_apply .upperCamel (isClean_sanitize _)).trans (letters_sanitize h)

/-! ## Affixes survive naming -/

theorem withPrefix_eq (prefixed : p.naming.modelPrefix = some a) (ne : a ≠ "")
    (ha : ∀ c ∈ a.toList, c.isAlphanum = true) {raw : String}
    (ascii : ∀ c ∈ raw.toList, isAscii c = true) :
    p.withPrefix raw = if folded a <+: folded raw then raw else a ++ "_" ++ raw := by
  have starts : startsWith (toLowercase a) (toLowercase raw) = true ↔ folded a <+: folded raw := by
    rw [startsWith_iff, toList_toLowercase_of_isAscii ascii,
      toList_toLowercase_of_isAscii fun c hc => isAscii_of_isAlphanum (ha c hc)]
  unfold withPrefix
  rw [prefixed]
  simp only [ne, decide_false, Bool.false_or, starts]

theorem withSuffix_eq (suffixed : p.naming.modelSuffix = some b) (ne : b ≠ "")
    (hb : ∀ c ∈ b.toList, c.isAlphanum = true) {name : String}
    (ascii : ∀ c ∈ name.toList, isAscii c = true) :
    p.withSuffix name = if folded b <:+ folded name then name else name ++ "_" ++ b := by
  have ends : endsWith (toLowercase b) (toLowercase name) = true ↔ folded b <:+ folded name := by
    rw [endsWith_iff, toList_toLowercase_of_isAscii ascii,
      toList_toLowercase_of_isAscii fun c hc => isAscii_of_isAlphanum (hb c hc)]
  unfold withSuffix
  rw [suffixed]
  simp only [ne, decide_false, Bool.false_or, ends]

/-- An underscore before a raw name keeps a prefix out of the ending. -/
theorem suffix_withPrefix_iff (prefixed : p.naming.modelPrefix = some a) (ne : a ≠ "")
    (ha : ∀ c ∈ a.toList, c.isAlphanum = true) (hb : ∀ c ∈ b.toList, c.isAlphanum = true)
    {raw : String} (ascii : ∀ c ∈ raw.toList, isAscii c = true) :
    folded b <:+ folded (p.withPrefix raw) ↔ folded b <:+ folded raw := by
  rw [withPrefix_eq prefixed ne ha ascii]
  split_ifs
  · rfl
  · rw [folded_append, folded_append, List.append_assoc]
    refine suffix_append_cons_iff fun mem => ?_
    exact absurd (isAlphanum_of_mem_folded hb mem) (by decide)

/-- Up to case, the letters and digits of a name with affixes are those of the prefix, of the raw
name and of the suffix. -/
theorem letters_affixed (prefixed : p.naming.modelPrefix = some a)
    (suffixed : p.naming.modelSuffix = some b) (nea : a ≠ "") (neb : b ≠ "")
    (ha : ∀ c ∈ a.toList, c.isAlphanum = true) (hb : ∀ c ∈ b.toList, c.isAlphanum = true)
    {raw : String} (ascii : ∀ c ∈ raw.toList, isAscii c = true) :
    letters (p.affixed raw).toList =
      (if folded a <+: folded raw then [] else folded a) ++ letters raw.toList ++
        (if folded b <:+ folded raw then [] else folded b) := by
  have ascii' : ∀ c ∈ (p.withPrefix raw).toList, isAscii c = true := by
    rw [withPrefix_eq prefixed nea ha ascii]
    split_ifs
    · exact ascii
    · have : ∀ c ∈ a.toList, isAscii c = true := fun c hc => isAscii_of_isAlphanum (ha c hc)
      simpa [or_imp, forall_and] using ⟨this, by decide, ascii⟩
  have before : letters (p.withPrefix raw).toList =
      (if folded a <+: folded raw then [] else folded a) ++ letters raw.toList := by
    rw [withPrefix_eq prefixed nea ha ascii]
    split_ifs
    · rfl
    · rw [String.toList_append, String.toList_append, letters_append, letters_append,
        letters_eq_folded ha]
      exact congrArg (· ++ _) (List.append_nil _)
  rw [← before, affixed_eq, withSuffix_eq suffixed neb hb ascii',
    if_congr (suffix_withPrefix_iff prefixed nea ha hb ascii) rfl rfl]
  split_ifs
  · rw [List.append_nil]
  · rw [String.toList_append, String.toList_append, letters_append, letters_append,
      letters_eq_folded hb]
    exact congrArg (· ++ _) (List.append_nil _)

/-- Names of models have the prefix before all other letters and digits, and the suffix after. -/
theorem affixes_letters_affixed (prefixed : p.naming.modelPrefix = some a)
    (suffixed : p.naming.modelSuffix = some b) (nea : a ≠ "") (neb : b ≠ "")
    (ha : ∀ c ∈ a.toList, c.isAlphanum = true) (hb : ∀ c ∈ b.toList, c.isAlphanum = true)
    {raw : String} (ascii : ∀ c ∈ raw.toList, isAscii c = true) :
    folded a <+: letters (p.affixed raw).toList ∧ folded b <:+ letters (p.affixed raw).toList := by
  rw [letters_affixed prefixed suffixed nea neb ha hb ascii]
  constructor
  · refine List.IsPrefix.trans ?_ (List.prefix_append _ _)
    split_ifs with starts
    · exact folded_prefix_letters ha starts
    · exact List.prefix_append _ _
  · rw [List.append_assoc]
    refine List.IsSuffix.trans ?_ (List.suffix_append _ _)
    split_ifs with ends
    · rw [List.append_nil]
      exact folded_suffix_letters hb ends
    · exact List.suffix_append _ _

end Profile

/-- Let affixes of ASCII letters and digits be set.  Up to case the name of a model is made of the
marker if there is a report, of the prefix unless the raw name starts with it, of the letters and
digits of the raw name, and of the suffix unless the raw name ends with it.  It ends with the
suffix, and without a report it starts with the prefix. -/
theorem folded_toModelName {language : Language} {o : Options} {p : Profile} {a b : String}
    (h : language.profile.withOptions o = .ok p) (prefixed : o.modelPrefix = some a)
    (suffixed : o.modelSuffix = some b) (nea : a ≠ "") (neb : b ≠ "")
    (ha : ∀ c ∈ a.toList, c.isAlphanum = true) (hb : ∀ c ∈ b.toList, c.isAlphanum = true)
    (raw : String) (ascii : ∀ c ∈ raw.toList, isAscii c = true) :
    folded (p.toModelName raw) =
        (if (p.modelNameReported raw).report = none then [] else folded p.rules.modelMarker) ++
          (if folded a <+: folded raw then [] else folded a) ++ letters raw.toList ++
            (if folded b <:+ folded raw then [] else folded b) ∧
      folded b <:+ folded (p.toModelName raw) ∧
      ((p.modelNameReported raw).report = none → folded a <+: folded (p.toModelName raw)) := by
  have prefixed' : p.naming.modelPrefix = some a := by
    obtain ⟨casing, -, rfl⟩ := Profile.withOptions_cases h
    simp [Profile.affix?, prefixed, nea]
  have suffixed' : p.naming.modelSuffix = some b := by
    obtain ⟨casing, -, rfl⟩ := Profile.withOptions_cases h
    simp [Profile.affix?, suffixed, neb]
  obtain ⟨starts, ends⟩ := Profile.affixes_letters_affixed prefixed' suffixed' nea neb ha hb ascii
  have other : p.affixed raw ≠ "$" := by
    intro dollar
    rw [dollar] at starts
    have : folded a = [] := List.prefix_nil.1 starts
    exact nea (String.toList_eq_nil_iff.1 (List.map_eq_nil_iff.1 this))
  have camel : folded (p.camelName raw) = letters (p.affixed raw).toList := by
    rw [← letters_eq_folded (p.isAlphanum_of_mem_camelName raw), Profile.letters_camelName other]
  have name : folded (p.toModelName raw) =
      (if (p.modelNameReported raw).report = none then [] else folded p.rules.modelMarker) ++
        letters (p.affixed raw).toList := by
    rw [p.toModelName_eq raw, folded_append, camel]
    split_ifs <;> rfl
  refine ⟨?_, ?_, fun plain => ?_⟩
  · rw [name, Profile.letters_affixed prefixed' suffixed' nea neb ha hb ascii, List.append_assoc,
      List.append_assoc, List.append_assoc]
  · rw [name]
    exact ends.trans (List.suffix_append _ _)
  · rw [name, if_pos plain]
    exact starts

/-- A name that has the prefix already, in small letters, and is given the suffix. -/
theorem folded_toModelName_apiPet : ∃ p,
    Language.go.profile.withOptions { modelPrefix := some "Api", modelSuffix := some "Dto" } =
        .ok p ∧
      folded (p.toModelName "api.pet[]") =
        (if (p.modelNameReported "api.pet[]").report = none then []
          else folded p.rules.modelMarker) ++ "apipetdto".toList ∧
      folded "Dto" <:+ folded (p.toModelName "api.pet[]") ∧
      ((p.modelNameReported "api.pet[]").report = none →
        folded "Api" <+: folded (p.toModelName "api.pet[]")) := by
  obtain ⟨p, settings⟩ : ∃ p, Language.go.profile.withOptions
      { modelPrefix := some "Api", modelSuffix := some "Dto" } = .ok p := ⟨_, rfl⟩
  refine ⟨p, settings, ?_⟩
  have named := folded_toModelName settings rfl rfl (by decide) (by decide) (by simp) (by simp)
    "api.pet[]" (by simp [isAscii])
  have starts : folded "Api" <+: folded "api.pet[]" := by decide
  have ends : ¬ folded "Dto" <:+ folded "api.pet[]" := by decide
  rw [if_pos starts, if_neg ends, List.append_assoc, List.append_assoc] at named
  exact named

/-! ## Naming a model after a name -/

theorem modelMarker_of_withOptions {language : Language} {o : Options} {p : Profile}
    (h : language.profile.withOptions o = .ok p) : p.rules.modelMarker = "Model" := by
  obtain ⟨casing, -, rfl⟩ := Profile.withOptions_cases h
  cases language <;> rfl

theorem isUpper_head_toModelName {language : Language} {o : Options} {p : Profile}
    (h : language.profile.withOptions o = .ok p) (raw : String) :
    ∃ c, (p.toModelName raw).toList.head? = some c ∧ c.isUpper = true := by
  obtain ⟨c, head, alpha⟩ := (isTypeName_toModelName h raw).head
  refine ⟨c, head, ?_⟩
  have small : c.isLower = false := by
    rw [p.toModelName_eq raw, modelMarker_of_withOptions h] at head
    split_ifs at head
    · rw [String.empty_append] at head
      exact isLower_head_toUpperCamel (isClean_sanitize _) head
    · rw [String.toList_append] at head
      cases head
      rfl
  simpa [Char.isAlpha, small] using alpha

/-- No affix takes letters from a raw name. -/
theorem Profile.letters_infix_affixed (p : Profile) (raw : String) :
    letters raw.toList <:+: letters (p.affixed raw).toList := by
  obtain ⟨a, b, chars, -⟩ := p.exists_toList_affixed raw
  rw [chars, letters_append, letters_append]
  exact ⟨letters a, letters b, rfl⟩

theorem Profile.affixed_ne_dollar {p : Profile} {raw : String} (h : letters raw.toList ≠ []) :
    p.affixed raw ≠ "$" := by
  intro dollar
  have inside := p.letters_infix_affixed raw
  rw [dollar] at inside
  exact h (List.infix_nil.1 inside)

/-- Affixes without letters and digits have no part in the name of a model. -/
theorem Profile.camelName_eq {p : Profile} {name : String} (clean : IsClean name.toList)
    (ne : letters name.toList ≠ [])
    (same : letters (p.affixed name).toList = letters name.toList) :
    p.camelName name = toUpperCamel name := by
  obtain ⟨a, b, chars, ha, hb⟩ := p.exists_toList_affixed name
  have lengths := congrArg List.length same
  rw [chars, letters_append, letters_append, List.length_append, List.length_append] at lengths
  have noneBefore : letters a = [] := List.length_eq_zero_iff.1 (by omega)
  have noneAfter : letters b = [] := List.length_eq_zero_iff.1 (by omega)
  have cut := words_sanitizeChars_padded ha hb noneBefore noneAfter name.toList
  rw [sanitizeChars_of_isClean clean] at cut
  rw [camelName, toUpperCamel, sanitize, if_neg (affixed_ne_dollar ne), String.toList_ofList, chars, cut]
  rfl

/-- The name of a model is named again as it is if and only if no affix is put there that has a
letter or digit, and its capitals are apart. -/
theorem toModelName_toModelName_iff {language : Language} {o : Options} {p : Profile}
    (h : language.profile.withOptions o = .ok p) (raw : String) :
    p.toModelName (p.toModelName raw) = p.toModelName raw ↔
      letters (p.affixed (p.toModelName raw)).toList = letters (p.toModelName raw).toList ∧
        capitalsApart false (p.toModelName raw).toList = true := by
  have named := isTypeName_toModelName h raw
  obtain ⟨c, head, upper⟩ := isUpper_head_toModelName h raw
  generalize p.toModelName raw = name at *
  obtain ⟨rest, chars⟩ := List.head?_eq_some_iff.1 head
  have clean : IsClean name.toList := fun d hd => isIdentifierChar_of_isAlphanum (named.chars d hd)
  have ne : letters name.toList ≠ [] := by
    rw [chars, letters_cons_of_isAlphanum (isAlphanum_of_isUpper upper)]
    exact List.cons_ne_nil _ _
  have again := p.toModelName_eq name
  rw [← toUpperCamel_eq_self_iff named.chars head upper]
  constructor
  · intro same
    rw [same] at again
    have kept := congrArg (fun s : String => letters s.toList) again
    rw [String.toList_append, letters_append,
      Profile.letters_camelName (Profile.affixed_ne_dollar ne)] at kept
    have plain : (p.modelNameReported name).report = none := by
      -- with the marker before it the name would be longer
      by_contra reported
      have longer := congrArg List.length kept
      have le := (p.letters_infix_affixed name).length_le
      have marker : (letters "Model".toList).length = 5 := by decide
      rw [if_neg reported, modelMarker_of_withOptions h, List.length_append, marker] at longer
      omega
    rw [if_pos plain] at again kept
    refine ⟨kept.symm, ?_⟩
    rw [← Profile.camelName_eq clean ne kept.symm]
    exact (again.trans String.empty_append).symm
  · rintro ⟨none_, apart⟩
    have camel : p.camelName name = name := (Profile.camelName_eq clean ne none_).trans apart
    have plain : (p.modelNameReported name).report = none := by
      refine Profile.report_modelNameReported_eq_none_iff.2 ?_
      rw [camel]
      refine ⟨?_, named.unreserved, fun digit => ?_⟩
      · rintro rfl
        cases head
      · obtain ⟨d, hd, isDigit⟩ := startsWithDigit_iff.1 digit
        obtain rfl : c = d := Option.some.inj (head.symm.trans hd)
        rw [isDigit_of_isAlpha (by rw [Char.isAlpha, upper]; rfl)] at isDigit
        cases isDigit
    rw [again, if_pos plain, camel, String.empty_append]

/-- Words that start with capitals keep them. -/
theorem toModelName_toModelName_petStore :
    Language.go.profile.toModelName (Language.go.profile.toModelName "pet_store_2") =
      Language.go.profile.toModelName "pet_store_2" :=
  (toModelName_toModelName_iff (Language.withOptions_default .go) "pet_store_2").2
    ⟨by decide +kernel, by decide +kernel⟩

/-- Two words of one letter each become one, and an affix with an underscore is put there twice. -/
theorem not_toModelName_toModelName :
    Language.go.profile.toModelName "x_y" = "XY" ∧ Language.go.profile.toModelName "XY" = "Xy" ∧
      ∃ p, Language.go.profile.withOptions { modelPrefix := some "My_" } = .ok p ∧
        p.toModelName "pet" = "MyPet" ∧ p.toModelName "MyPet" = "MyMyPet" := by
  have recased : Language.go.profile.toModelName "x_y" = "XY" ∧
      Language.go.profile.toModelName "XY" = "Xy" := by decide +kernel
  refine ⟨recased.1, recased.2, _, rfl, ?_⟩
  decide +kernel

end OpenApiGen
