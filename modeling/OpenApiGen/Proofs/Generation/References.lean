import OpenApiGen.Proofs.Generation.Basic
import OpenApiGen.Proofs.Operation.Faults
import OpenApiGen.Proofs.Profile

/-!
# Runs and references

A document whose references all lead somewhere has a run, and what the error of a failed run says of
a reference is true (`exists_generate_and_fault_of_error`).  A reference to no component makes the
run fail if it stands where the model of a component follows it (`generate_of_dangling`).
-/

namespace OpenApiGen

/-! ## Faults -/

theorem failsWith_describe (profile : Profile) (spec : Spec) :
    FailsWith spec.Fault (describe profile spec) := by
  unfold describe
  refine (Library.failsWith_ofSpec spec).bind fun library lowered => ?_
  let r : Resolver := { profile, library }
  have models : FailsWith spec.Fault r.models := by
    refine r.looksUp_models.missing.mono fun e missing => missing.fault lowered fun name mem => ?_
    obtain ⟨c, hc, mem⟩ := List.mem_flatMap.1 mem
    exact Library.mentions_of_mem lowered hc name (c.2.modelRefs_subset_refs mem)
  refine models.bind fun built _ => ?_
  exact (Resolver.failsWith_operations lowered).bind fun operations _ => .ok _

/-- If all references of a document lead somewhere, then each language has a run on it with any
casing that it allows.  If a run fails on a reference, then the reference occurs in the document and
leads nowhere in the way that the error says. -/
theorem exists_generate_and_fault_of_error (language : Language) (options : Options) (spec : Spec) :
    (spec.Sound →
      (∀ casing, options.propertyCasing = some casing →
        casing ∈ language.profile.rules.allowedPropertyCasings) →
      ∃ out, generate language options spec = .ok out) ∧
    ∀ e, generate language options spec = .error (.reference e) → spec.Fault e := by
  constructor
  · intro sound allowed
    obtain ⟨profile, configured⟩ := Profile.exists_withOptions_iff.2 allowed
    obtain ⟨o, ran⟩ := (failsWith_describe profile spec).exists_eq_ok sound.not_fault
    exact ⟨o.decorated options, generate_eq_ok_iff.2 ⟨profile, configured, o, ran, rfl⟩⟩
  · intro e h
    obtain ⟨profile, -, failed⟩ := generate_eq_error_iff.1 h
    exact failsWith_describe profile spec e failed

/-- A document with an operation that replaces a pet.  Its parameter is declared under two names. -/
def petUpdate : Spec where
  openapi := "3.0.3"
  info := { title := "Pets", version := "1" }
  paths := [("/pet", { put := some {
    parameters := [.ref "#/components/parameters/Id"]
    requestBody := some (.ref "#/components/requestBodies/Pet")
    responses := [("200", .ref "#/components/responses/Pet")] } })]
  components := some {
    schemas := [("Pet", .inline { properties := [("parent", .ref "#/components/schemas/Pet")] })]
    parameters := [("Id", .ref "#/components/parameters/Key"),
      ("Key", .inline { name := "id", location := .path })]
    requestBodies := [("Pet", .inline {
      content := [("application/json", { schema := some (.ref "#/components/schemas/Pet") })] })]
    responses := [("Pet", .inline {
      content := [("application/json", { schema := some (.ref "#/components/schemas/Pet") })] })] }

theorem sound_petUpdate : petUpdate.Sound where
  named := by decide
  schemas := by decide
  parameters := by
    have key : petUpdate.ReachesParameter "Key" := ⟨"Key", _, .refl, rfl⟩
    have id : petUpdate.ReachesParameter "Id" :=
      ⟨"Key", _, .single ⟨"#/components/parameters/Key", rfl, rfl⟩, rfl⟩
    intro path mem
    rcases List.mem_pair.1 mem with rfl | rfl
    · exact key
    · exact id
  bodies := by
    intro path mem
    cases List.mem_singleton.1 mem
    exact ⟨_, rfl⟩
  responses := by
    intro path mem
    cases List.mem_singleton.1 mem
    exact ⟨_, rfl⟩

/-- An operation with a parameter that is referred to. -/
def fetchById : Spec.Operation where
  parameters := [.ref "#/components/parameters/Id"]

/-- A document with two parameters that refer to each other. -/
def parameterCycle : Spec where
  openapi := "3.0.3"
  info := { title := "Cycle", version := "1" }
  paths := [("/pet", { get := some fetchById })]
  components := some {
    parameters := [("Id", .ref "#/components/parameters/Key"),
      ("Key", .ref "#/components/parameters/Id")] }

theorem generate_parameterCycle : generate .go {} parameterCycle =
    .error (.reference (.unresolved "#/components/parameters/Id")) := by
  refine generate_eq_error_iff.2 ⟨_, rfl, ?_⟩
  have first : refName "#/components/parameters/Id" = .ok "Id" := rfl
  have second : refName "#/components/parameters/Key" = .ok "Key" := rfl
  have looped : parameterCycle.resolveParameter (.ref "#/components/parameters/Id") =
      .error (.unresolved "#/components/parameters/Id") := by
    unfold Spec.resolveParameter
    rw [Spec.findParameter_ref first List.not_mem_nil rfl,
      Spec.findParameter_ref second (by decide) rfl, Spec.findParameter_ref_seen first (by decide)]
  have failed (r : Resolver) : r.operations parameterCycle =
      .error (.unresolved "#/components/parameters/Id") := by
    have own : r.ownParameters parameterCycle fetchById.parameters =
        .error (.unresolved "#/components/parameters/Id") := by
      unfold Resolver.ownParameters fetchById
      rw [List.foldlM_cons, looped]
      rfl
    have operation : r.operation parameterCycle "GET" "/pet" fetchById fetchById.parameters =
        .error (.unresolved "#/components/parameters/Id") := by
      rw [Resolver.operation_eq, own]
      rfl
    exact bind_eq_error_iff.2 (.inl (mapM_cons_eq_error (mapM_cons_eq_error operation []) []))
  exact bind_eq_error_iff.2 (.inr ⟨[], rfl, bind_eq_error_iff.2 (.inr ⟨[], rfl,
    bind_eq_error_iff.2 (.inl (failed _))⟩)⟩)

theorem exists_generate_and_fault_petUpdate :
    petUpdate.Sound ∧ (∃ out, generate .go {} petUpdate = .ok out) ∧
      generate .go {} parameterCycle =
        .error (.reference (.unresolved "#/components/parameters/Id")) ∧
      parameterCycle.Fault (.unresolved "#/components/parameters/Id") := by
  have runs := (exists_generate_and_fault_of_error .go {} petUpdate).1 sound_petUpdate
  have faults := (exists_generate_and_fault_of_error .go {} parameterCycle).2
  refine ⟨sound_petUpdate, runs ?_, generate_parameterCycle, faults _ generate_parameterCycle⟩
  intro casing requested
  cases requested

/-! ## Dangling references -/

/-- Let the settings be right and every component schema have a node.  If a component follows a
reference to no component for its model, then the run fails, and the error names such a reference.
Otherwise all models are built, whatever the references are that no model follows. -/
theorem generate_of_dangling {language : Language} {options : Options} {profile : Profile}
    (configured : language.profile.withOptions options = .ok profile) {spec : Spec}
    {library : Library} (lowered : Library.ofSpec spec = .ok library) :
    ((∃ c ∈ library, ∃ name ∈ c.2.modelRefs, name ∉ library.keys) →
      ∃ name, generate language options spec = .error (.reference (.unresolved name)) ∧
        name ∉ library.keys ∧ ∃ c ∈ library, name ∈ c.2.modelRefs) ∧
    ((∀ c ∈ library, ∀ name ∈ c.2.modelRefs, name ∈ library.keys) →
      ∃ built, Resolver.models { profile, library } = .ok built) := by
  let r : Resolver := { profile, library }
  refine ⟨fun ⟨c, hc, name, followed, gone⟩ => ?_, r.exists_models_iff.2⟩
  cases modelled : r.models with
  | ok built => exact absurd (r.exists_models_iff.1 ⟨built, modelled⟩ c hc name followed) gone
  | error e =>
    obtain ⟨name, gone, rfl, mem⟩ := r.looksUp_models.missing e modelled
    refine ⟨name, ?_, gone, mem.elim List.mem_flatMap.1 id⟩
    refine generate_eq_error_iff.2 ⟨profile, configured, ?_⟩
    unfold describe
    exact bind_eq_error_iff.2 (.inr ⟨library, lowered, bind_eq_error_iff.2 (.inl modelled)⟩)

/-- A document of component schemas only. -/
def schemaDocument (schemas : Dict (OrRef Spec.Schema)) : Spec where
  openapi := "3.0.3"
  info := { title := "Schemas", version := "1" }
  components := some { schemas }

theorem generate_of_dangling_owner :
    let spec := schemaDocument
      [("Owner", .inline { properties := [("pet", .ref "#/components/schemas/Missing")] })]
    let library : Library := [("Owner", .object [("pet", .ref "Missing")] [] none)]
    (∃ profile, Language.go.profile.withOptions {} = .ok profile) ∧
      Library.ofSpec spec = .ok library ∧
      (∃ c ∈ library, ∃ name ∈ c.2.modelRefs, name ∉ library.keys) ∧
      generate .go {} spec = .error (.reference (.unresolved "Missing")) := by
  intro spec library
  obtain ⟨profile, configured⟩ : ∃ profile, Language.go.profile.withOptions {} = .ok profile :=
    ⟨_, rfl⟩
  have lowered : Library.ofSpec spec = .ok library := rfl
  have followed : (Node.object [("pet", .ref "Missing")] [] none).modelRefs = ["Missing"] := rfl
  have dangling : ∃ c ∈ library, ∃ name ∈ c.2.modelRefs, name ∉ library.keys :=
    ⟨_, List.mem_singleton_self _, "Missing", by simp [followed], by decide⟩
  obtain ⟨name, failed, -, c, hc, mem⟩ := (generate_of_dangling configured lowered).1 dangling
  cases List.mem_singleton.1 hc
  rw [followed] at mem
  cases List.mem_singleton.1 mem
  exact ⟨⟨profile, configured⟩, lowered, dangling, failed⟩

/-- A component schema may refer to none among the members of a `oneOf` schema. -/
theorem generate_of_dangling_oneOf :
    let spec := schemaDocument [("Pet", .inline {
      oneOf := [.ref "#/components/schemas/Missing", .inline { type := some (.single .string) }] })]
    let library : Library := [("Pet", .composed .oneOf [.ref "Missing", .scalar "string"] none)]
    Library.ofSpec spec = .ok library ∧
      (∃ c ∈ library, "Missing" ∈ c.2.refs ∧ "Missing" ∉ library.keys) ∧
      ∃ out, generate .go {} spec = .ok out := by
  intro spec library
  have lowered : Library.ofSpec spec = .ok library := rfl
  refine ⟨lowered, ⟨_, List.mem_singleton_self _, by simp [Node.refs, Node.refsAll], by decide⟩, ?_⟩
  let r : Resolver := { profile := .go, library }
  obtain ⟨built, modelled⟩ := r.exists_models_iff.2 fun c hc name mem => by
    cases List.mem_singleton.1 hc
    cases mem
  exact ⟨_, generate_eq_ok_iff.2 ⟨_, rfl, _,
    describe_eq_ok_iff.2 ⟨library, lowered, built, modelled, [], rfl, rfl⟩, rfl⟩⟩

end OpenApiGen
