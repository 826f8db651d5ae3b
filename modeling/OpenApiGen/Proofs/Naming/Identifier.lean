import OpenApiGen.Naming.Model
import OpenApiGen.Profile.Builtin
import OpenApiGen.Proofs.Naming.LeadingChar
import OpenApiGen.Proofs.Text.Sanitize

/-!
# Ways to an identifier

A cleaned name is either taken whole, as a lone underscore and capitals may be, or it is cased and
gets its leading character back (`Profile.Identifies`).  Where leading characters are not kept, the
identifier is that of the cleaned name (`Profile.name_identifierReported_sanitize`).

A report announces the name that is generated, for models and operations always.  For identifiers it
is made before the leading character is put back, and so it announces the name without that character
(`announced_names`).
-/

namespace OpenApiGen

open Text

/-! ## Announced names -/

/-- The report about a name, if there is one, announces this name. -/
def GeneratedName.Announced (g : GeneratedName) : Prop :=
  ∀ r, g.report = some r → r.renamed = g.name

namespace GeneratedName

theorem announced_ofRenaming (r : Renaming) : (ofRenaming r).Announced := by
  intro r' h
  rw [← Option.some.inj h]
  rfl

theorem announced_unreported (name : String) : ({ name } : GeneratedName).Announced := by
  intro r h
  cases h

end GeneratedName

open GeneratedName

/-- A raw name starts with a sign that can be kept, and a generated name does not start with it. -/
def LacksSign (raw name : String) (c : Char) : Prop :=
  raw.toList.head? = some c ∧ isLeadingSign c = true ∧ name.toList.head? ≠ some c

instance (raw name : String) (c : Char) : Decidable (LacksSign raw name c) :=
  inferInstanceAs (Decidable (_ ∧ _))

namespace Profile

variable {p : Profile} {casing : Casing} {raw clean : String} {g : GeneratedName} {c : Char}

theorem announced_modelNameReported (p : Profile) (raw : String) :
    (p.modelNameReported raw).Announced := by
  unfold modelNameReported
  dsimp only
  split_ifs
  · exact announced_ofRenaming _
  · exact announced_ofRenaming _
  · exact announced_ofRenaming _
  · exact announced_unreported _

theorem announced_operationIdReported (p : Profile) (raw : String) :
    (p.operationIdReported raw).Announced := by
  unfold operationIdReported
  dsimp only
  split_ifs
  · exact announced_ofRenaming _
  · exact announced_ofRenaming _
  · exact announced_ofRenaming _
  · exact announced_unreported _

/-! ## Cased names -/

theorem announced_caseIdentifier (p : Profile) (casing : Casing) (raw clean : String) :
    (p.caseIdentifier casing raw clean).Announced := by
  unfold caseIdentifier
  dsimp only
  generalize (if p.rules.stripLeadingUnderscores then dropUnderscores (casing.apply clean)
    else casing.apply clean) = name
  split_ifs
  · exact announced_ofRenaming _
  · exact announced_ofRenaming _
  · exact announced_ofRenaming _
  · exact announced_unreported _

/-- The raw name is only reported. -/
theorem name_caseIdentifier (raw raw' : String) :
    (p.caseIdentifier casing raw clean).name = (p.caseIdentifier casing raw' clean).name := by
  unfold caseIdentifier
  dsimp only
  split_ifs <;> rfl

/-! ## Leading characters -/

theorem report_restoreLeading (raw : String) (g : GeneratedName) :
    (p.restoreLeading raw g).report = g.report := by
  unfold restoreLeading
  split
  · rfl
  · split_ifs <;> rfl

theorem restoreLeading_of_lacksSign (keep : p.rules.preserveLeadingChar = true)
    (lacks : LacksSign raw g.name c) :
    p.restoreLeading raw g = { g with name := .ofList (c :: g.name.toList) } := by
  obtain ⟨starts, sign, ne⟩ := lacks
  obtain ⟨rest, chars⟩ := List.head?_eq_some_iff.1 starts
  have sign' : c = '$' ∨ c = '_' := by simpa [isLeadingSign] using sign
  unfold restoreLeading
  rw [chars]
  exact if_pos ⟨keep, sign', ne⟩

theorem restoreLeading_eq_self
    (h : ¬ ∃ c, p.rules.preserveLeadingChar = true ∧ LacksSign raw g.name c) :
    p.restoreLeading raw g = g := by
  unfold restoreLeading
  split
  · rfl
  · next first rest chars =>
    refine if_neg fun ⟨keep, sign, ne⟩ => h ⟨first, keep, ?_, ?_, ne⟩
    · rw [chars, List.head?_cons]
    · simpa [isLeadingSign] using sign

/-- A name with its leading character put back starts with that character. -/
theorem head_restoreLeading (keep : p.rules.preserveLeadingChar = true)
    (starts : raw.toList.head? = some c) (sign : isLeadingSign c = true) (g : GeneratedName) :
    (p.restoreLeading raw g).name.toList.head? = some c := by
  by_cases has : g.name.toList.head? = some c
  · rw [restoreLeading_eq_self, has]
    rintro ⟨d, -, starts', -, lacks⟩
    obtain rfl : c = d := Option.some.inj (starts.symm.trans starts')
    exact lacks has
  · rw [restoreLeading_of_lacksSign keep ⟨starts, sign, has⟩, String.toList_ofList]
    rfl

/-! ## Identifiers -/

/-- Whether a cleaned name is taken whole: a lone underscore that has a name of its own, or capitals
where these are kept. -/
def TakesWhole (p : Profile) (clean : String) : Prop :=
  (clean = "_" ∧ p.rules.loneUnderscore ≠ none) ∨
    (isAllCaps clean = true ∧ p.rules.allCaps = .keep)

instance (p : Profile) (clean : String) : Decidable (p.TakesWhole clean) :=
  inferInstanceAs (Decidable (_ ∨ _))

/-- The ways to the identifier for a raw name. -/
inductive Identifies (p : Profile) (casing : Casing) (raw : String) : GeneratedName → Prop
  | lone {name : String} (clean : sanitize raw = "_") (own : p.rules.loneUnderscore = some name) :
    Identifies p casing raw { name }
  | capitals (caps : isAllCaps (sanitize raw) = true) (keep : p.rules.allCaps = .keep)
      (free : ¬ p.isReserved (sanitize raw) = true) :
    Identifies p casing raw { name := sanitize raw }
  | reservedCapitals (caps : isAllCaps (sanitize raw) = true) (keep : p.rules.allCaps = .keep)
      (reserved : p.isReserved (sanitize raw) = true) :
    Identifies p casing raw (.ofRenaming {
      cause := .reservedWord, kind := .identifier, given := raw
      renamed := p.escapeAs casing (sanitize raw) })
  | cased {clean : String} (split : ¬ p.TakesWhole (sanitize raw))
      (isClean : IsClean clean.toList) :
    Identifies p casing raw (p.restoreLeading raw (p.caseIdentifier casing raw clean))

theorem identifies (p : Profile) (casing : Casing) (raw : String) :
    p.Identifies casing raw (p.identifierReported casing raw) := by
  have isClean := isClean_sanitize raw
  unfold identifierReported
  dsimp only
  split
  · next name own =>
    split_ifs at own with clean
    exact .lone clean own
  · next none_ =>
    have notLone : ¬ (sanitize raw = "_" ∧ p.rules.loneUnderscore ≠ none) := by
      rintro ⟨clean, own⟩
      rw [if_pos clean] at none_
      exact own none_
    split
    · next caps =>
      split
      · next keep =>
        split_ifs with reserved
        · exact .reservedCapitals caps keep reserved
        · exact .capitals caps keep reserved
      · next lowercase =>
        refine .cased (not_or.2 ⟨notLone, ?_⟩) isClean.toLowercase
        rintro ⟨-, keep⟩
        rw [lowercase] at keep
        cases keep
    · next small => exact .cased (not_or.2 ⟨notLone, fun ⟨caps, _⟩ => small caps⟩) isClean

theorem exists_caseIdentifier (split : ¬ p.TakesWhole (sanitize raw)) (casing : Casing) :
    ∃ clean : String, IsClean clean.toList ∧ p.identifierReported casing raw =
      p.restoreLeading raw (p.caseIdentifier casing raw clean) := by
  have way := p.identifies casing raw
  generalize p.identifierReported casing raw = g at way
  cases way with
  | lone clean own =>
    refine absurd (.inl ⟨clean, ?_⟩) split
    rw [own]
    exact Option.some_ne_none _
  | capitals caps keep | reservedCapitals caps keep => exact absurd (.inr ⟨caps, keep⟩) split
  | cased _ isClean => exact ⟨_, isClean, rfl⟩

/-- Where leading characters are not kept, nothing but the cleaned name counts. -/
theorem name_identifierReported_sanitize (plain : p.rules.preserveLeadingChar = false)
    (casing : Casing) (raw : String) :
    (p.identifierReported casing (sanitize raw)).name = (p.identifierReported casing raw).name := by
  unfold identifierReported
  rw [sanitize_of_isClean (isClean_sanitize raw)]
  dsimp only
  split
  · rfl
  · split
    · split
      · split_ifs <;> rfl
      · rw [restoreLeading_of_plain plain, restoreLeading_of_plain plain]
        exact name_caseIdentifier _ _
    · rw [restoreLeading_of_plain plain, restoreLeading_of_plain plain]
      exact name_caseIdentifier _ _

/-- Whether the sign of a raw name is put back before a name once that is made. -/
structure PutsBack (p : Profile) (raw name : String) (c : Char) : Prop where
  keep : p.rules.preserveLeadingChar = true
  split : ¬ p.TakesWhole (sanitize raw)
  lacks : LacksSign raw name c

end Profile

/-- The reports about models and operations announce the names that are generated, and so do those
about identifiers unless a leading character is put back, which then stands before the name that the
report announces. -/
theorem announced_names (p : Profile) (raw : String) :
    (p.modelNameReported raw).Announced ∧ (p.operationIdReported raw).Announced ∧
      ∀ casing r, (p.identifierReported casing raw).report = some r →
        (r.renamed = (p.identifierReported casing raw).name ↔
          ¬ ∃ c, p.PutsBack raw r.renamed c) ∧
        ∀ c, p.PutsBack raw r.renamed c →
          (p.identifierReported casing raw).name = .ofList (c :: r.renamed.toList) := by
  refine ⟨p.announced_modelNameReported raw, p.announced_operationIdReported raw,
    fun casing r reported => ?_⟩
  have way := p.identifies casing raw
  generalize p.identifierReported casing raw = g at way reported
  cases way with
  | lone clean own => cases reported
  | capitals caps keep free => cases reported
  | reservedCapitals caps keep reserved =>
    have whole : p.TakesWhole (sanitize raw) := .inr ⟨caps, keep⟩
    have same := announced_ofRenaming _ r reported
    exact ⟨iff_of_true same fun ⟨c, back⟩ => back.split whole,
      fun c back => absurd whole back.split⟩
  | @cased clean split isClean =>
    rw [Profile.report_restoreLeading] at reported
    rw [p.announced_caseIdentifier casing raw clean r reported]
    generalize p.caseIdentifier casing raw clean = g
    have putBack : ∀ c, p.PutsBack raw g.name c →
        (p.restoreLeading raw g).name = .ofList (c :: g.name.toList) := fun c back => by
      rw [Profile.restoreLeading_of_lacksSign back.keep back.lacks]
    refine ⟨⟨?_, fun none_ => ?_⟩, putBack⟩
    · rintro same ⟨c, back⟩
      have longer := congrArg (fun s : String => s.toList.length) (same.trans (putBack c back))
      rw [String.toList_ofList, List.length_cons] at longer
      omega
    · rw [Profile.restoreLeading_eq_self fun ⟨c, keep, lacks⟩ => none_ ⟨c, keep, split, lacks⟩]

/-- The report about a dollar sign with nothing to keep after it announces a name without the sign. -/
theorem not_announced_dollar : ∃ p : Profile, ∃ r : Renaming,
    Language.javascript.profile.withOptions { preserveLeadingChar := true } = .ok p ∧
      (p.identifierReported p.paramCasing "$!").report = some r ∧
      r.renamed = "empty" ∧ (p.identifierReported p.paramCasing "$!").name = "$empty" ∧
      ¬ (p.identifierReported p.paramCasing "$!").Announced := by
  let p := Language.javascript.profile.keeping true
  have made : p.identifierReported p.paramCasing "$!" = {
      name := "$empty"
      report := some {
        cause := .empty, kind := .identifier, given := "$!", renamed := "empty" } } := by
    decide
  refine ⟨p, _, rfl, congrArg GeneratedName.report made, rfl, congrArg GeneratedName.name made,
    fun announced => ?_⟩
  have same := announced _ (congrArg GeneratedName.report made)
  rw [made] at same
  exact absurd same (by decide)

end OpenApiGen
