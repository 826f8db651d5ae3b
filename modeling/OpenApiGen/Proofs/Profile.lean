import Mathlib
import OpenApiGen.Proofs.Dict
import OpenApiGen.Profile.Builtin

/-!
# Profiles and their settings

What the settings of a run change in a profile (`withOptions_cases`), and which names the profile
of a language takes for reserved words: those that agree with a word of the language's list, in
any case except for Swift (`isReserved_iff`).  The types that a type table maps to need no model,
but for the decimal numbers of Swift (`builtin_or_decimal`).
-/

namespace OpenApiGen

open Text

/-! ## Settings -/

namespace Profile

/-- A profile with the settings of a run differs from the one without them in affixes, mappings and
casing of names, and in whether a leading character is kept. -/
theorem withOptions_cases {p q : Profile} {o : Options} (h : p.withOptions o = .ok q) :
    ∃ casing, (o.propertyCasing = none ∧ casing = p.naming.casing ∨
        o.propertyCasing = some casing ∧ casing ∈ p.rules.allowedPropertyCasings) ∧
      q = { p with
        naming := { p.naming with
          modelPrefix := affix? o.modelPrefix p.naming.modelPrefix
          modelSuffix := affix? o.modelSuffix p.naming.modelSuffix
          reservedMappings :=
            o.reservedMappings.foldl (fun d e => d.insert e.1 e.2) p.naming.reservedMappings
          casing := casing }
        rules := { p.rules with
          preserveLeadingChar := p.rules.preserveLeadingChar || o.preserveLeadingChar } } := by
  unfold withOptions at h
  cases hc : o.propertyCasing with
  | none =>
    rw [hc] at h
    exact ⟨p.naming.casing, .inl ⟨rfl, rfl⟩, (Except.ok.inj h).symm⟩
  | some requested =>
    rw [hc] at h
    by_cases allowed : p.rules.allowedPropertyCasings.contains requested = true
    · simp only [allowed, if_true] at h
      exact ⟨requested, .inr ⟨rfl, List.contains_iff_mem.1 allowed⟩, (Except.ok.inj h).symm⟩
    · simp only [allowed] at h
      cases h

/-- Settings do not change the types of a language. -/
theorem types_of_withOptions {p q : Profile} {o : Options} (h : p.withOptions o = .ok q) :
    q.types = p.types ∧ q.builtins = p.builtins := by
  obtain ⟨casing, -, rfl⟩ := withOptions_cases h
  exact ⟨rfl, rfl⟩

/-- Of the naming rules of a language, settings change one. -/
theorem rules_of_withOptions {p q : Profile} {o : Options} (h : p.withOptions o = .ok q) :
    q.rules = { p.rules with
      preserveLeadingChar := p.rules.preserveLeadingChar || o.preserveLeadingChar } := by
  obtain ⟨casing, -, rfl⟩ := withOptions_cases h
  rfl

/-- Settings can be used if and only if the casing is allowed. -/
theorem exists_withOptions_iff {p : Profile} {o : Options} : (∃ q, p.withOptions o = .ok q) ↔
    ∀ casing, o.propertyCasing = some casing → casing ∈ p.rules.allowedPropertyCasings := by
  constructor
  · rintro ⟨q, h⟩ casing requested
    obtain ⟨_, ⟨none, -⟩ | ⟨same, allowed⟩, -⟩ := withOptions_cases h
    · rw [none] at requested
      cases requested
    · rw [same] at requested
      cases requested
      exact allowed
  · intro allowed
    unfold withOptions
    cases hc : o.propertyCasing with
    | none => exact ⟨_, rfl⟩
    | some casing =>
      dsimp only
      rw [if_pos (List.contains_iff_mem.2 (allowed casing hc))]
      exact ⟨_, rfl⟩

end Profile

/-- No language keeps leading characters on its own. -/
theorem Language.preserveLeadingChar_of_withOptions {language : Language} {o : Options}
    {p : Profile} (h : language.profile.withOptions o = .ok p) :
    p.rules.preserveLeadingChar = o.preserveLeadingChar := by
  rw [Profile.rules_of_withOptions h]
  cases language <;> exact Bool.false_or _

/-- The settings that a user has not touched change nothing. -/
theorem Language.withOptions_default (language : Language) :
    language.profile.withOptions {} = .ok language.profile := by
  cases language <;> rfl

/-! ## Reserved words -/

/-- The words that a language reserves. -/
def Language.reservedWords : Language → List String
  | go => Profile.goReserved
  | javascript => Profile.javascriptReserved
  | pythonFlask => Profile.pythonReserved
  | swift4 | swift5 => Profile.swiftReserved

/-- Whether a language takes two names for the same word: only in Swift case matters. -/
def Language.SameWord : Language → String → String → Prop
  | swift4, a, b | swift5, a, b => a = b
  | _, a, b => toLowercase a = toLowercase b

/-- Whether a name is one of the words that a language reserves. -/
def Language.Reserves (language : Language) (name : String) : Prop :=
  ∃ w ∈ language.reservedWords, language.SameWord w name

namespace ReservedWords

theorem mem_foldl_distinct {w : String} (ws known : List String) :
    w ∈ ws.foldl (fun ws w => if ws.contains w then ws else ws ++ [w]) known ↔
      w ∈ known ∨ w ∈ ws := by
  induction ws generalizing known with
  | nil => simp
  | cons v ws ih =>
    rw [List.foldl_cons, ih, List.mem_cons]
    split
    · next h =>
      have hv : v ∈ known := by simpa using h
      refine ⟨fun h => h.imp_right .inr, ?_⟩
      rintro (h | rfl | h)
      · exact .inl h
      · exact .inl hv
      · exact .inr h
    · rw [List.mem_append, List.mem_singleton, or_assoc]

theorem contains_exact (words : List String) (name : String) :
    (exact words).contains name = true ↔ ∃ w ∈ words, w = name := by
  unfold contains exact
  rw [if_pos rfl, List.contains_iff_mem, mem_foldl_distinct]
  simp

theorem contains_anyCase (words : List String) (name : String) :
    (anyCase words).contains name = true ↔ ∃ w ∈ words, toLowercase w = toLowercase name := by
  unfold contains anyCase
  rw [if_neg Bool.false_ne_true, List.contains_iff_mem, mem_foldl_distinct]
  simp

end ReservedWords

theorem Language.isReserved_profile (language : Language) (name : String) :
    language.profile.isReserved name = true ↔ language.Reserves name := by
  cases language with
  | go | javascript | pythonFlask => exact ReservedWords.contains_anyCase _ name
  | swift4 | swift5 => exact ReservedWords.contains_exact _ name

/-- Settings do not change which words are reserved. -/
theorem Language.isReserved_iff {language : Language} {o : Options} {p : Profile}
    (h : language.profile.withOptions o = .ok p) (name : String) :
    p.isReserved name = true ↔ language.Reserves name := by
  obtain ⟨casing, -, rfl⟩ := Profile.withOptions_cases h
  exact language.isReserved_profile name

/-! ## Type tables -/

namespace Language

/-- The pairs that the type table of a language is made of. -/
def typePairs : Language → List (String × String)
  | go => Profile.goTypes
  | javascript => Profile.javascriptTypes
  | pythonFlask => Profile.pythonTypes
  | swift4 | swift5 => Profile.swiftTypes

theorem types_profile (language : Language) :
    language.profile.types = .ofPairs language.typePairs := by
  cases language <;> rfl

theorem all_typePairs (language : Language) : (language.typePairs.all fun e =>
    language.profile.builtins.contains e.2 ||
      (e == ("BigDecimal", "Decimal") && (language == .swift4 || language == .swift5))) = true := by
  cases language <;> decide +kernel

theorem builtin_or_decimal {language : Language} {name t : String}
    (mem : (name, t) ∈ language.profile.types.entries) :
    language.profile.builtins.contains t = true ∨
      name = "BigDecimal" ∧ t = "Decimal" ∧ ¬ language.Reserves t := by
  rw [types_profile] at mem
  have h := List.all_eq_true.1 language.all_typePairs _ (Dict.mem_of_mem_ofEntries mem)
  simp only [Bool.or_eq_true, Bool.and_eq_true, beq_iff_eq, Prod.mk.injEq] at h
  refine h.imp_right fun ⟨⟨hname, ht⟩, swift⟩ => ⟨hname, ht, ?_⟩
  have free : "Decimal" ∉ Profile.swiftReserved := by decide +kernel
  rcases swift with rfl | rfl <;>
  · rintro ⟨w, hw, same⟩
    obtain rfl : w = t := same
    exact free (ht ▸ hw)

end Language

end OpenApiGen
