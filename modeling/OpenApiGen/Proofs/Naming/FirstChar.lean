import OpenApiGen.Proofs.Naming.Identifier
import OpenApiGen.Proofs.Naming.Legal
import OpenApiGen.Proofs.Text.FirstChar

/-!
# First characters of identifiers

Which identifiers start as they should.  In Go an identifier is exported if it starts with a capital:
all are but those of raw names in capitals that an underscore comes before, which are kept as they
are (`exported_toIdentifier_iff`).  Where JavaScript keeps leading characters, an underscore is kept
always, and a dollar sign unless the rest of the name is taken whole (`head_toParamName_iff`).
-/

namespace OpenApiGen

open Text

/-! ## Exported names -/

/-- A name that starts with a capital of ASCII. -/
def Exported (name : String) : Prop :=
  ∃ c, name.toList.head? = some c ∧ c.isUpper = true

instance (name : String) : Decidable (Exported name) :=
  decidable_of_iff (name.toList.head?.any Char.isUpper = true) (Option.any_eq_true _ _)

theorem Exported.append {name : String} (h : Exported name) (t : String) : Exported (name ++ t) := by
  obtain ⟨c, head, upper⟩ := h
  exact ⟨c, by rw [String.toList_append, List.head?_append, head, Option.some_or], upper⟩

/-- Capitals are exported unless an underscore comes first. -/
theorem exported_iff_of_isAllCaps {name : String} (caps : isAllCaps name = true) :
    Exported name ↔ name.toList.head? ≠ some '_' := by
  rw [isAllCaps, Bool.and_eq_true, List.any_eq_true, List.all_eq_true] at caps
  obtain ⟨⟨d, hd, -⟩, all⟩ := caps
  obtain ⟨c, rest, chars⟩ := List.exists_cons_of_ne_nil (List.ne_nil_of_mem hd)
  have capital : c.isUpper = true ∨ c = '_' := by
    simpa using all c (by rw [chars]; exact List.mem_cons_self)
  rw [Exported, chars, List.head?_cons]
  constructor
  · rintro ⟨c', same, upper⟩ underscore
    rw [← Option.some.inj same, Option.some.inj underscore] at upper
    cases upper
  · intro ne
    exact ⟨c, rfl, capital.resolve_right fun underscore => ne (congrArg some underscore)⟩

theorem isUpper_head_toUpperCamel {s : String} (clean : IsClean s.toList) {c : Char}
    (head : (toUpperCamel s).toList.head? = some c) (digit : c.isDigit = false) :
    c.isUpper = true := by
  have alnum : c.isAlphanum = true :=
    Casing.isAlphanum_of_mem_apply_upperCamel clean c (List.mem_of_head? head)
  rw [Char.isAlphanum, Char.isAlpha, digit, isLower_head_toUpperCamel clean head] at alnum
  simpa using alnum

theorem exported_toUpperCamel {s : String} (clean : IsClean s.toList) {c : Char}
    (head : s.toList.head? = some c) (alpha : c.isAlpha = true) : Exported (toUpperCamel s) := by
  obtain ⟨d, head', lower⟩ :=
    Casing.head_apply .upperCamel clean head (by rw [Char.isAlphanum, alpha, Bool.true_or])
  have digit : d.isDigit = false := isDigit_of_isAlpha (isAlpha_of_toLower_eq lower alpha)
  exact ⟨d, head', isUpper_head_toUpperCamel clean head' digit⟩

namespace Profile.Disciplined

variable {p : Profile} (hp : p.Disciplined)

include hp

theorem exported_escapeAs (after : p.rules.escape = .underscoreAfter) {name : String}
    (clean : IsClean name.toList) (reserved : p.isReserved name = true) :
    Exported (p.escapeAs .upperCamel name) := by
  obtain ⟨c, head, alpha⟩ := hp.isAlpha_head_of_reserved after clean reserved
  rw [hp.escapeAs_eq, after]
  exact (exported_toUpperCamel clean head alpha).append "_"

theorem exported_escapeDigit (after : p.rules.escape = .underscoreAfter) {name : String}
    (clean : IsClean name.toList) : Exported (p.escapeDigit .upperCamel name) := by
  have marker : p.rules.leadingDigit = .marker "Var" := by
    rcases hp.digits with ⟨before, -⟩ | ⟨-, marker, -⟩
    · rw [before] at after
      cases after
    · exact marker
  have chars : ("Var" ++ "_" ++ name).toList = ['V', 'a', 'r', '_'] ++ name.toList :=
    String.toList_append
  unfold escapeDigit
  rw [marker]
  refine exported_toUpperCamel (c := 'V') ?_ (by rw [chars]; rfl) rfl
  rw [chars]
  exact isClean_append_iff.2 ⟨by decide, clean⟩

/-- A name in upper camel case is exported, whatever has to be put in its place. -/
theorem exported_caseIdentifier (after : p.rules.escape = .underscoreAfter)
    (strip : p.rules.stripLeadingUnderscores = false) (raw : String) {clean : String}
    (isClean : IsClean clean.toList) :
    Exported (p.caseIdentifier .upperCamel raw clean).name := by
  have cased : IsClean (Casing.upperCamel.apply clean).toList := Casing.isClean_apply _ isClean
  unfold caseIdentifier
  dsimp only
  rw [strip, if_neg Bool.false_ne_true]
  split_ifs with empty reserved digit
  · exact exported_toUpperCamel (s := "empty") (by decide) rfl rfl
  · exact hp.exported_escapeAs after cased reserved
  · exact hp.exported_escapeDigit after cased
  · obtain ⟨c, head, letter⟩ := usableName_iff.1 ⟨empty, by simpa using digit⟩
    exact ⟨c, head, isUpper_head_toUpperCamel isClean head letter⟩

theorem exported_identifierReported (after : p.rules.escape = .underscoreAfter)
    (strip : p.rules.stripLeadingUnderscores = false)
    (plain : p.rules.preserveLeadingChar = false) {raw : String}
    (split : ¬ p.TakesWhole (sanitize raw)) :
    Exported (p.identifierReported .upperCamel raw).name := by
  obtain ⟨clean, isClean, made⟩ := exists_caseIdentifier split .upperCamel
  rw [made, restoreLeading_of_plain plain]
  exact hp.exported_caseIdentifier after strip raw isClean

/-- Capitals that are kept are exported unless an underscore comes first, and with an underscore
they are the name as it stands. -/
theorem exported_identifierReported_iff_of_isAllCaps (after : p.rules.escape = .underscoreAfter)
    (keep : p.rules.allCaps = .keep) {raw : String} (caps : isAllCaps (sanitize raw) = true) :
    (Exported (p.identifierReported .upperCamel raw).name ↔
        (sanitize raw).toList.head? ≠ some '_') ∧
      ((sanitize raw).toList.head? = some '_' →
        (p.identifierReported .upperCamel raw).name = sanitize raw) := by
  have isClean := isClean_sanitize raw
  have way := p.identifies .upperCamel raw
  generalize p.identifierReported .upperCamel raw = g at way ⊢
  cases way with
  | lone clean own =>
    rw [clean] at caps
    cases caps
  | capitals _ _ free => exact ⟨exported_iff_of_isAllCaps caps, fun _ => rfl⟩
  | reservedCapitals _ _ reserved =>
    -- a reserved word starts with a letter
    obtain ⟨c, head, alpha⟩ := hp.isAlpha_head_of_reserved after isClean reserved
    have letter : (sanitize raw).toList.head? ≠ some '_' := by
      rw [head]
      rintro same
      rw [Option.some.inj same] at alpha
      cases alpha
    exact ⟨iff_of_true (hp.exported_escapeAs after isClean reserved) letter,
      fun underscore => absurd underscore letter⟩
  | cased split => exact absurd (.inr ⟨caps, keep⟩) split

end Profile.Disciplined

/-- Settings change neither the casing of Go nor any rule but one. -/
theorem go_of_withOptions {o : Options} {p : Profile}
    (h : Language.go.profile.withOptions o = .ok p) : p.naming.casing = .upperCamel ∧
      p.rules = { Profile.go.rules with preserveLeadingChar := o.preserveLeadingChar } := by
  obtain ⟨casing, requested, rfl⟩ := Profile.withOptions_cases h
  refine ⟨?_, rfl⟩
  rcases requested with ⟨-, same⟩ | ⟨-, allowed⟩
  · exact same
  · exact List.mem_singleton.1 allowed

theorem toIdentifier_eq_sanitize {o : Options} {p : Profile}
    (h : Language.go.profile.withOptions o = .ok p) (unmapped : o.reservedMappings = [])
    {raw : String} (caps : isAllCaps (sanitize raw) = true)
    (underscore : (sanitize raw).toList.head? = some '_') : p.toIdentifier raw = sanitize raw := by
  have hp := disciplined_of_withOptions h unmapped
  obtain ⟨casing, rules⟩ := go_of_withOptions h
  unfold Profile.toIdentifier
  rw [casing]
  exact (hp.exported_identifierReported_iff_of_isAllCaps (by rw [rules]; rfl) (by rw [rules]; rfl)
    caps).2 underscore

/-- Under every setting that maps no reserved word and does not keep leading characters, a Go
identifier is exported unless its raw name, once cleaned, consists of capitals and starts with an
underscore.  Such a name is the identifier as it stands. -/
theorem exported_toIdentifier_iff {o : Options} {p : Profile}
    (h : Language.go.profile.withOptions o = .ok p) (unmapped : o.reservedMappings = [])
    (plain : o.preserveLeadingChar = false) (raw : String) :
    (Exported (p.toIdentifier raw) ↔
        ¬ (isAllCaps (sanitize raw) = true ∧ (sanitize raw).toList.head? = some '_')) ∧
      (isAllCaps (sanitize raw) = true → (sanitize raw).toList.head? = some '_' →
        p.toIdentifier raw = sanitize raw) := by
  have hp := disciplined_of_withOptions h unmapped
  obtain ⟨casing, rules⟩ := go_of_withOptions h
  have after : p.rules.escape = .underscoreAfter := by rw [rules]; rfl
  have keep : p.rules.allCaps = .keep := by rw [rules]; rfl
  have strip : p.rules.stripLeadingUnderscores = false := by rw [rules]; rfl
  have plain' : p.rules.preserveLeadingChar = false :=
    (Language.preserveLeadingChar_of_withOptions h).trans plain
  refine ⟨?_, toIdentifier_eq_sanitize h unmapped⟩
  unfold Profile.toIdentifier
  rw [casing]
  by_cases caps : isAllCaps (sanitize raw) = true
  · rw [and_iff_right caps]
    exact (hp.exported_identifierReported_iff_of_isAllCaps after keep caps).1
  · have split : ¬ p.TakesWhole (sanitize raw) := by
      rintro (⟨-, own⟩ | ⟨caps', -⟩)
      · rw [rules] at own
        exact own rfl
      · exact caps caps'
    exact iff_of_true (hp.exported_identifierReported after strip plain' split)
      fun both => caps both.1

/-- An underscore before small letters is lost, so that the name is exported. -/
theorem exported_toIdentifier_links :
    Language.go.profile.withOptions {} = .ok Language.go.profile ∧
      Exported (Language.go.profile.toIdentifier "_links") :=
  ⟨rfl, (exported_toIdentifier_iff (o := {}) rfl rfl rfl "_links").1.2 (by decide)⟩

/-- An underscore before capitals is kept, so that the name is not exported. -/
theorem not_exported_toIdentifier_id :
    ∃ p, Language.go.profile.withOptions {} = .ok p ∧
      p.toIdentifier "_ID" = "_ID" ∧ ¬ Exported "_ID" := by
  obtain ⟨p, settings⟩ : ∃ p, Language.go.profile.withOptions {} = .ok p := ⟨_, rfl⟩
  exact ⟨p, settings, toIdentifier_eq_sanitize settings rfl rfl rfl, by decide⟩

/-! ## Kept signs -/

namespace Profile

variable {p : Profile} {raw : String} {c : Char}

/-- Where leading characters are kept, a name that is not taken whole starts with the sign of its
raw name. -/
theorem head_identifierReported (keep : p.rules.preserveLeadingChar = true)
    (split : ¬ p.TakesWhole (sanitize raw)) (starts : raw.toList.head? = some c)
    (sign : isLeadingSign c = true) (casing : Casing) :
    (p.identifierReported casing raw).name.toList.head? = some c := by
  obtain ⟨clean, -, made⟩ := exists_caseIdentifier split casing
  rw [made]
  exact head_restoreLeading keep starts sign _

namespace Disciplined

variable (hp : p.Disciplined)

include hp

theorem isClean_identifierReported (whole : p.TakesWhole (sanitize raw)) (casing : Casing) :
    IsClean (p.identifierReported casing raw).name.toList := by
  have way := p.identifies casing raw
  generalize p.identifierReported casing raw = g at way ⊢
  cases way with
  | lone clean own =>
    rw [hp.lone _ own]
    decide
  | capitals caps kept free => exact isClean_sanitize raw
  | reservedCapitals caps kept reserved =>
    exact (hp.legal_escapeAs casing (isClean_sanitize raw) reserved).isClean
  | cased split => exact absurd whole split

/-- Where leading characters are kept, an underscore is kept in every way to an identifier. -/
theorem head_identifierReported_underscore (keep : p.rules.preserveLeadingChar = true)
    (starts : raw.toList.head? = some '_') (casing : Casing) :
    (p.identifierReported casing raw).name.toList.head? = some '_' := by
  have cleaned : (sanitize raw).toList.head? = some '_' := head_sanitize starts rfl
  have way := p.identifies casing raw
  generalize p.identifierReported casing raw = g at way ⊢
  cases way with
  | lone clean own =>
    rw [hp.lone _ own]
    rfl
  | capitals caps kept free => exact cleaned
  | reservedCapitals caps kept reserved =>
    -- no reserved word has an underscore before its capitals
    refine absurd reserved (hp.not_reserved_of_edge (isClean_sanitize raw).isAscii (.inl cleaned) ?_)
    intro single
    obtain ⟨rest, chars⟩ := List.head?_eq_some_iff.1 cleaned
    obtain rfl : rest = [] := by simpa [chars] using single
    rw [isAllCaps, chars] at caps
    cases caps
  | cased => exact head_restoreLeading keep starts rfl _

end Disciplined

end Profile

/-- Under every setting that keeps leading characters and maps no reserved word, the name of a
parameter in JavaScript starts with the dollar sign or underscore of its raw name, unless that is a
dollar sign and a lone underscore or only capitals and underscores are left after cleaning. -/
theorem head_toParamName_iff {o : Options} {p : Profile}
    (h : Language.javascript.profile.withOptions o = .ok p) (unmapped : o.reservedMappings = [])
    (keep : o.preserveLeadingChar = true) {raw : String} {c : Char}
    (starts : raw.toList.head? = some c) (sign : c = '$' ∨ c = '_') :
    (p.toParamName raw).toList.head? = some c ↔
      ¬ (c = '$' ∧ (sanitize raw = "_" ∨ isAllCaps (sanitize raw) = true)) := by
  have hp := disciplined_of_withOptions h unmapped
  have rules := Profile.rules_of_withOptions h
  have keep' : p.rules.preserveLeadingChar = true :=
    (Language.preserveLeadingChar_of_withOptions h).trans keep
  rcases sign with rfl | rfl
  · have whole : p.TakesWhole (sanitize raw) ↔
        sanitize raw = "_" ∨ isAllCaps (sanitize raw) = true := by
      unfold Profile.TakesWhole
      rw [rules]
      exact or_congr (and_iff_left (Option.some_ne_none _)) (and_iff_left rfl)
    rw [← whole, eq_self, true_and]
    refine ⟨fun head taken => ?_, fun split => Profile.head_identifierReported keep' split starts rfl _⟩
    have clean := hp.isClean_identifierReported taken p.paramCasing '$' (List.mem_of_head? head)
    cases clean
  · exact iff_of_true (hp.head_identifierReported_underscore keep' starts _)
      fun both => absurd both.1 (by decide)

/-- A dollar sign before small letters is kept. -/
theorem head_toParamName_dollar_top :
    ∃ p, Language.javascript.profile.withOptions { preserveLeadingChar := true } = .ok p ∧
      "$top".toList.head? = some '$' ∧ (p.toParamName "$top").toList.head? = some '$' := by
  have starts : "$top".toList.head? = some '$' := rfl
  refine ⟨_, rfl, starts, ?_⟩
  exact (head_toParamName_iff (o := { preserveLeadingChar := true }) rfl rfl rfl starts
    (.inl rfl)).2 (by decide)

/-- A dollar sign before capitals is lost, and so is one before an underscore. -/
theorem toParamName_dollar_top_ne :
    ∃ p, Language.javascript.profile.withOptions { preserveLeadingChar := true } = .ok p ∧
      (p.toParamName "$TOP").toList.head? ≠ "$TOP".toList.head? ∧ p.toParamName "$_" = "_u" := by
  let o : Options := { preserveLeadingChar := true }
  obtain ⟨p, settings⟩ : ∃ p, Language.javascript.profile.withOptions o = .ok p := ⟨_, rfl⟩
  have hp := disciplined_of_withOptions settings rfl
  have rules := Profile.rules_of_withOptions settings
  have starts : "$TOP".toList.head? = some '$' := rfl
  have whole : p.TakesWhole (sanitize "$TOP") := by
    refine .inr ⟨rfl, ?_⟩
    rw [rules]
    rfl
  refine ⟨p, settings, fun dollar => ?_, ?_⟩
  · rw [starts] at dollar
    have clean := hp.isClean_identifierReported whole p.paramCasing '$' (List.mem_of_head? dollar)
    cases clean
  · have lone : p.rules.loneUnderscore = some "_u" := by
      rw [rules]
      rfl
    have clean : sanitize "$_" = "_" := rfl
    unfold Profile.toParamName Profile.identifierReported
    rw [clean, lone]
    rfl

end OpenApiGen
