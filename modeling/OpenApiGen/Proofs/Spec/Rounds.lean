import OpenApiGen.Proofs.Spec.References
import OpenApiGen.Proofs.Spec.Trail

/-!
# Rounds of a search

The search for a parameter goes on in rounds (`Follows`).  Each round follows a name that was not
followed before, to a component that is there (`Rounds.seen`), and leaves the result as it is
(`Rounds.findParameter`).  So there are at most as many rounds as components before the last one,
which finds the parameter or stops at a reference that leads no further (`Halts`).
`resolveParameter_halts` puts this together: the search ends, with the parameter exactly where a
trail of names leads to one, and else with the error of the first reference that does not lead on.
-/

namespace OpenApiGen.Spec

/-- Where a search is: the names that were followed, the last one first, and what they led to. -/
structure Searching where
  seen : List String
  current : OrRef Parameter

variable {parameters : Dict (OrRef Parameter)} {s s' : Searching}

/-- A round of the search that goes on: it follows a new name to a component. -/
inductive Follows (parameters : Dict (OrRef Parameter)) : Searching → Searching → Prop
  | ref {seen : List String} {path : String} {next : OrRef Parameter} (named : HasName path)
      (new : simpleName path ∉ seen) (found : parameters.get? (simpleName path) = some next) :
      Follows parameters ⟨seen, .ref path⟩ ⟨simpleName path :: seen, next⟩

/-- The last round of a search: it finds a parameter, or a reference whose path has no name at its
end, or whose name is the one of no component or was followed before. -/
inductive Halts (parameters : Dict (OrRef Parameter)) :
    Searching → Except RefError Parameter → Prop
  | found {seen : List String} {p : Parameter} : Halts parameters ⟨seen, .inline p⟩ (.ok p)
  | malformed {seen : List String} {path : String} (nameless : ¬ HasName path) :
      Halts parameters ⟨seen, .ref path⟩ (.error (.malformed path))
  | missing {seen : List String} {path : String} (named : HasName path)
      (missing : simpleName path ∉ parameters.keys) :
      Halts parameters ⟨seen, .ref path⟩ (.error (.unresolved path))
  | again {seen : List String} {path : String} (named : HasName path)
      (old : simpleName path ∈ seen) :
      Halts parameters ⟨seen, .ref path⟩ (.error (.unresolved path))

/-- So many rounds lead from one place of a search to another. -/
inductive Rounds (parameters : Dict (OrRef Parameter)) : Nat → Searching → Searching → Prop
  | none (s : Searching) : Rounds parameters 0 s s
  | more {n : Nat} {s s' last : Searching} (first : Follows parameters s s')
      (rest : Rounds parameters n s' last) : Rounds parameters (n + 1) s last

theorem Follows.findParameter (h : Follows parameters s s') :
    findParameter parameters s'.seen s'.current = findParameter parameters s.seen s.current := by
  cases h with
  | ref named new found =>
    exact (findParameter_ref (refName_eq_ok_iff.2 ⟨named, rfl⟩) new found).symm

theorem Halts.findParameter {result : Except RefError Parameter} (h : Halts parameters s result) :
    findParameter parameters s.seen s.current = result := by
  cases h with
  | found => rw [Spec.findParameter]
  | malformed nameless =>
    exact findParameter_ref_nameless (refName_eq_error_iff.2 ⟨nameless, rfl⟩)
  | @missing seen path named missing =>
    have name := refName_eq_ok_iff.2 ⟨named, rfl⟩
    by_cases old : simpleName path ∈ seen
    · exact findParameter_ref_seen name old
    · exact findParameter_ref_missing name old (Dict.get?_eq_none_iff.2 missing)
  | again named old => exact findParameter_ref_seen (refName_eq_ok_iff.2 ⟨named, rfl⟩) old

namespace Rounds

variable {n : Nat}

/-- Whatever rounds were made, the search comes to the same result. -/
theorem findParameter (h : Rounds parameters n s s') :
    findParameter parameters s'.seen s'.current = findParameter parameters s.seen s.current := by
  induction h with
  | none => rfl
  | more first _ ih => exact ih.trans first.findParameter

/-- Each round follows one name, which is new and the name of a component. -/
theorem seen (h : Rounds parameters n s s') (distinct : s.seen.Nodup)
    (there : s.seen ⊆ parameters.keys) :
    s'.seen.length = s.seen.length + n ∧ s'.seen.Nodup ∧ s'.seen ⊆ parameters.keys := by
  induction h with
  | none => exact ⟨rfl, distinct, there⟩
  | @more n _ _ _ first _ ih =>
    cases first with
    | ref named new found =>
      obtain ⟨length, distinct, there⟩ := ih (List.nodup_cons.2 ⟨new, distinct⟩)
        (List.cons_subset.2 ⟨Dict.mem_keys_of_get? found, there⟩)
      refine ⟨?_, distinct, there⟩
      dsimp only [List.length_cons] at length ⊢
      omega

end Rounds

/-- Every search comes to a last round, and there stands its result. -/
theorem exists_halts (parameters : Dict (OrRef Parameter)) (s : Searching) : ∃ n last,
    Rounds parameters n s last ∧
      Halts parameters last (findParameter parameters s.seen s.current) := by
  obtain ⟨seen, reference⟩ := s
  induction seen, reference using findParameter.induct parameters with
  | case1 seen parameter =>
    refine ⟨0, _, .none _, ?_⟩
    rw [findParameter]
    exact .found
  | case2 seen path e nameless =>
    refine ⟨0, _, .none _, ?_⟩
    rw [findParameter_ref_nameless nameless]
    obtain ⟨noName, rfl⟩ := refName_eq_error_iff.1 nameless
    exact .malformed noName
  | case3 seen path name named old =>
    refine ⟨0, _, .none _, ?_⟩
    rw [findParameter_ref_seen named old]
    obtain ⟨hasName, rfl⟩ := refName_eq_ok_iff.1 named
    exact .again hasName old
  | case4 seen path name named new missing =>
    refine ⟨0, _, .none _, ?_⟩
    rw [findParameter_ref_missing named new missing]
    obtain ⟨hasName, rfl⟩ := refName_eq_ok_iff.1 named
    exact .missing hasName (Dict.get?_eq_none_iff.1 missing)
  | case5 seen path name named new next found ih =>
    obtain ⟨n, last, rounds, halts⟩ := ih
    rw [← findParameter_ref named new found] at halts
    obtain ⟨hasName, rfl⟩ := refName_eq_ok_iff.1 named
    exact ⟨n + 1, last, .more (.ref hasName new found) rounds, halts⟩

/-- Whatever cycles the references between parameters form, a search makes at most one round for
each component and a last one, and never follows a name twice.  It finds a parameter exactly if a
trail of names leads to it.  An error is that of the reference at which the rounds stop: its path has
no name, or its name is missing or was followed before. -/
theorem resolveParameter_halts (spec : Spec) (reference : OrRef Parameter) :
    let parameters := spec.component Components.parameters
    (∀ n s, Rounds parameters n ⟨[], reference⟩ s →
      s.seen.length = n ∧ s.seen.Nodup ∧ n ≤ parameters.length) ∧
    (∃ n last, Rounds parameters n ⟨[], reference⟩ last ∧
      Halts parameters last (spec.resolveParameter reference)) ∧
    (∀ p, spec.resolveParameter reference = .ok p ↔
      ∃ names, Trail parameters reference names p) ∧
    ∀ e, spec.resolveParameter reference = .error e ↔ ∃ n last,
      Rounds parameters n ⟨[], reference⟩ last ∧ Halts parameters last (.error e) := by
  intro parameters
  refine ⟨fun n s rounds => ?_, exists_halts parameters ⟨[], reference⟩, fun p => ?_,
    fun e => ⟨fun h => ?_, ?_⟩⟩
  · obtain ⟨length, distinct, there⟩ := rounds.seen List.nodup_nil (List.nil_subset _)
    rw [List.length_nil, Nat.zero_add] at length
    refine ⟨length, distinct, ?_⟩
    have bound := distinct.length_le_of_subset there
    rw [length, Dict.keys, List.length_map] at bound
    exact bound
  · rw [resolveParameter, findParameter_eq_ok_iff]
    constructor
    · rintro ⟨names, trail, -⟩
      exact ⟨names, trail⟩
    · rintro ⟨names, trail⟩
      exact ⟨names, trail, trail.nodup, fun _ _ => List.not_mem_nil⟩
  · rw [← h]
    exact exists_halts parameters ⟨[], reference⟩
  · rintro ⟨n, last, rounds, halts⟩
    exact rounds.findParameter.symm.trans halts.findParameter

/-- A parameter that leads back to itself, under another path than it was entered by. -/
theorem resolveParameter_halts_loop :
    let spec : Spec := {
      openapi := "3.0.3"
      info := { title := "Pets", version := "1" }
      components := some {
        parameters := [("Key", .ref "#/components/parameters/Id"), ("Id", .ref "#/Key")] } }
    let parameters := spec.component Components.parameters
    let reference : OrRef Parameter := .ref "#/components/parameters/Key"
    Rounds parameters 2 ⟨[], reference⟩ ⟨["Id", "Key"], .ref "#/Key"⟩ ∧
      ["Id", "Key"].Nodup ∧ 2 ≤ parameters.length ∧
      Halts parameters ⟨["Id", "Key"], .ref "#/Key"⟩ (.error (.unresolved "#/Key")) ∧
      spec.resolveParameter reference = .error (.unresolved "#/Key") := by
  intro spec parameters reference
  have rounds : Rounds parameters 2 ⟨[], reference⟩ ⟨["Id", "Key"], .ref "#/Key"⟩ :=
    .more (.ref (by decide) List.not_mem_nil rfl)
      (.more (.ref (by decide) (by decide) rfl) (.none _))
  have halts : Halts parameters ⟨["Id", "Key"], .ref "#/Key"⟩ (.error (.unresolved "#/Key")) :=
    .again (by decide) (by decide)
  obtain ⟨bound, -, -, error⟩ := resolveParameter_halts spec reference
  obtain ⟨-, distinct, few⟩ := bound _ _ rounds
  exact ⟨rounds, distinct, few, halts, (error _).2 ⟨_, _, rounds, halts⟩⟩

end OpenApiGen.Spec
