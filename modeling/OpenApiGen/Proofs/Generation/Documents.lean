import OpenApiGen.Cli.Run
import OpenApiGen.Proofs.Generation.Extension
import OpenApiGen.Proofs.Operation.Parameters
import OpenApiGen.Proofs.Spec.Keyed

/-!
# Runs on documents that were read

Names are distinct in a document that was read, and so nothing has to be said of them there: further
components change no model and no operation (`models_of_read`), and each operation merges the
parameters of its path with its own and with those of its body (`merges_of_read`).  What the program
prints for a document comes from such a run (`exists_keyed_of_resolve`).
-/

namespace OpenApiGen

variable {format format' : Format} {text text' : String} {spec spec' : Spec}

/-! ## Further components -/

/-- Let one document that was read have all components of another one, and the same paths.  Each
component schema of the smaller one has the same model in both, and the operations are the same. -/
theorem models_of_read (read : Spec.read format text = .ok spec)
    (read' : Spec.read format' text' = .ok spec') (le : spec.Le spec') {language : Language}
    {options : Options} {out out' : Output} (h : generate language options spec = .ok out)
    (h' : generate language options spec' = .ok out') :
    (∀ name ∈ (spec.component Spec.Components.schemas).keys,
      ∃ m, out.model? name = some m ∧ out'.model? name = some m) ∧
    out'.operations = out.operations := by
  obtain ⟨profile, o, o', ran, ran', rfl, rfl⟩ := exists_describe_of_generate h h'
  have distinct := (Spec.keyed_of_read read).schemas
  have distinct' := (Spec.keyed_of_read read').schemas
  exact decorated_of_le le distinct distinct' ran ran' options

/-! ## Parameters of operations -/

theorem Spec.keyed_of_resolveRequestBody (read : Spec.read format text = .ok spec)
    {o : Spec.Operation} (mem : o ∈ spec.allOperations) {reference : OrRef RequestBody}
    (given : o.requestBody = some reference) {body : RequestBody}
    (resolved : spec.resolveRequestBody reference = .ok body) : body.Keyed := by
  have place : reference ∈ spec.bodyPlaces :=
    List.mem_append_right _ (List.mem_filterMap.2 ⟨o, mem, given⟩)
  exact keyed_body_of_read read ((endsIn_resolveRequestBody place).value body resolved)

/-- Each operation that is described of a document that was read comes from one at a path, and it
merges the parameters of the path with its own and with those of its body. -/
theorem merges_of_read (read : Spec.read format text = .ok spec) {profile : Profile} {o : Output}
    (h : describe profile spec = .ok o) : ∃ library, Library.ofSpec spec = .ok library ∧
      ∀ op ∈ o.operations, ∃ e ∈ spec.paths, ∃ m ∈ e.2.operations, ∃ declared body,
        (e.2.parameters ++ m.2.parameters).mapM spec.resolveParameter = .ok declared ∧
          Resolver.requestParameters { profile, library } spec m.2.requestBody = .ok body ∧
          Resolver.Merges { profile, library } declared body op := by
  obtain ⟨library, lowered, built, -, operations, described, rfl⟩ := describe_eq_ok_iff.1 h
  refine ⟨library, lowered, fun op mem => ?_⟩
  obtain ⟨e, he, m, hm, made⟩ := Resolver.exists_operation_of_mem described mem
  have keyed : library.Keyed := Library.keyed_ofSpec (Spec.keyed_of_read read) lowered
  have among : m.2 ∈ spec.allOperations := List.mem_flatMap.2 ⟨e, he, List.mem_map_of_mem hm⟩
  refine ⟨e, he, m, hm, Resolver.merges_of_inBody (fun body => ?_) made⟩
  exact Resolver.inBody_of_requestParameters keyed fun reference body given resolved =>
    Spec.keyed_of_resolveRequestBody read among given resolved

/-! ## The command line -/

namespace Cli

variable {ε α β : Type}

theorem run_bind_eq_ok_iff {x : ExceptT ε Id α} {f : α → ExceptT ε Id β} {b : β} :
    (x >>= f).run = .ok b ↔ ∃ a, x.run = .ok a ∧ (f a).run = .ok b := by
  rw [ExceptT.run_bind]
  cases x.run with
  | ok a => exact ⟨fun h => ⟨a, rfl, h⟩, fun ⟨_, same, h⟩ => Except.ok.inj same ▸ h⟩
  | error e => exact ⟨nofun, fun ⟨_, same, _⟩ => nomatch same⟩

theorem run_orFail_eq_ok_iff {failure : ε → Failure} {result : Except ε α} {a : α} :
    (orFail (m := Id) failure result).run = .ok a ↔ result = .ok a := by
  cases result with
  | ok b =>
    refine ⟨fun h => congrArg _ (Except.ok.inj h), ?_⟩
    rintro ⟨⟩
    rfl
  | error e => exact ⟨nofun, nofun⟩

/-- A document that was loaded was read from the text of its file. -/
theorem read_of_loadSpec {reader : FileReader Id} {path : String}
    (h : (loadSpec reader path).run = .ok spec) :
    ∃ text, reader path = .ok text ∧ Spec.read (formatOf path) text = .ok spec := by
  obtain ⟨content, found, h⟩ := run_bind_eq_ok_iff.1 h
  cases content with
  | ok text => exact ⟨text, Except.ok.inj found, run_orFail_eq_ok_iff.1 h⟩
  | error e => cases h

/-- What the program prints for a file is the result of a run on the document that was read from
it, and names are distinct there. -/
theorem exists_keyed_of_resolve {reader : FileReader Id} {input : Option String}
    {language : Option Language} {printed : OutputFormat} {outcome : Outcome}
    (h : ((Command.resolve input language printed).answer reader).run = .ok outcome) :
    ∃ (config : Config) (text : String) (spec : Spec) (out : Output),
      reader (input.getD config.input) = .ok text ∧
      Spec.read (formatOf (input.getD config.input)) text = .ok spec ∧ spec.Keyed ∧
      generate (language.getD config.language) config.options spec = .ok out ∧
      outcome = { stdout := printed.print out } := by
  obtain ⟨config, -, h⟩ := run_bind_eq_ok_iff.1 h
  obtain ⟨spec, loaded, h⟩ := run_bind_eq_ok_iff.1 h
  obtain ⟨out, generated, h⟩ := run_bind_eq_ok_iff.1 h
  obtain ⟨text, found, read⟩ := read_of_loadSpec loaded
  refine ⟨config, text, spec, out, found, read, Spec.keyed_of_read read, ?_, ?_⟩
  · exact run_orFail_eq_ok_iff.1 generated
  · exact (Except.ok.inj h).symm

end Cli

end OpenApiGen
