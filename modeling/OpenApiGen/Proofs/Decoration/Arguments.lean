import Mathlib.Data.List.Nodup
import OpenApiGen.Decoration.JavaScript

/-!
# Arguments of generated methods

A generated method takes the required parameters by their names and all optional ones in one
argument, `opts` (`arguments`).  If the names of the parameters differ, so do the arguments, but for
one case: `opts` is no reserved word, so a required parameter can have this name too, and with an
optional parameter beside it the argument comes twice (`nodup_arguments_iff`).  Entries of a text
with commas can be read back (`listed_intercalate`), so the same is true of the text that is kept
with an operation (`nodup_listed_argList_iff`).
-/

namespace OpenApiGen.Decoration

/-! ## Texts that list entries -/

/-- The entries of a text with commas between them; blanks before an entry do not count. -/
def listed (text : String) : List String :=
  (text.toList.splitOn ',').map fun entry => .ofList (entry.dropWhile (· = ' '))

/-- An entry has no comma and does not start with a blank. -/
def CanBeListed (entry : String) : Prop :=
  ',' ∉ entry.toList ∧ entry.toList.head? ≠ some ' '

instance (entry : String) : Decidable (CanBeListed entry) :=
  inferInstanceAs (Decidable (_ ∧ _))

/-- A blank after each comma is one before each entry but the first. -/
theorem intercalate_comma_blank (first : List Char) (rest : List (List Char)) :
    [',', ' '].intercalate (first :: rest) =
      [','].intercalate (first :: rest.map fun entry => ' ' :: entry) := by
  induction rest generalizing first with
  | nil => rfl
  | cons second rest ih =>
    rw [List.map_cons, List.intercalate_cons_cons, List.intercalate_cons_cons, ih second,
      List.intercalate_cons_cons_left]
    simp

theorem dropWhile_blank {entry : String} (h : CanBeListed entry) :
    String.ofList (entry.toList.dropWhile (· = ' ')) = entry := by
  cases chars : entry.toList with
  | nil =>
    rw [List.dropWhile_nil, ← chars, String.ofList_toList]
  | cons c rest =>
    have noBlank : c ≠ ' ' := fun blank => h.2 (by rw [chars, blank]; rfl)
    rw [List.dropWhile_cons_of_neg (by simpa using noBlank), ← chars, String.ofList_toList]

/-- The entries of a list are read back from its text. -/
theorem listed_intercalate {entries : List String} (nonempty : entries ≠ [])
    (h : ∀ entry ∈ entries, CanBeListed entry) : listed (", ".intercalate entries) = entries := by
  obtain ⟨first, rest, rfl⟩ := List.exists_cons_of_ne_nil nonempty
  obtain ⟨hfirst, hrest⟩ := List.forall_mem_cons.1 h
  have noComma : ∀ entry ∈ first.toList :: rest.map fun entry => ' ' :: entry.toList,
      ',' ∉ entry := by
    refine List.forall_mem_cons.2 ⟨hfirst.1, List.forall_mem_map.2 fun entry mem => ?_⟩
    simpa using (hrest entry mem).1
  have split : (", ".intercalate (first :: rest)).toList.splitOn ',' =
      first.toList :: rest.map fun entry => ' ' :: entry.toList := by
    rw [String.toList_intercalate, List.map_cons, show ", ".toList = [',', ' '] from rfl,
      intercalate_comma_blank, List.map_map]
    exact List.splitOn_intercalate ',' noComma (List.cons_ne_nil _ _)
  rw [listed, split, List.map_cons, List.map_map, dropWhile_blank hfirst]
  refine congrArg (first :: ·) ((List.map_congr_left fun entry mem => ?_).trans (List.map_id rest))
  exact dropWhile_blank (hrest entry mem)

/-- A text lists different entries if and only if it was made of different entries. -/
theorem nodup_listed_iff {entries : List String} (h : ∀ entry ∈ entries, CanBeListed entry) :
    (listed (", ".intercalate entries)).Nodup ↔ entries.Nodup := by
  by_cases none : entries = []
  · rw [none]
    exact iff_of_true (List.nodup_singleton _) List.nodup_nil
  · rw [listed_intercalate none h]

/-! ## Arguments -/

/-- The arguments of the generated method, in order. -/
def arguments (params : List OperationParameter) : List String :=
  (params.filter (·.required)).map (·.paramName) ++
    if params.any (!·.required) then ["opts"] else []

/-- A required parameter has the name of the argument for the optional ones, and there are some. -/
def OptionsClash (params : List OperationParameter) : Prop :=
  (∃ p ∈ params, p.required = false) ∧ ∃ p ∈ params, p.required = true ∧ p.paramName = "opts"

instance (params : List OperationParameter) : Decidable (OptionsClash params) :=
  inferInstanceAs (Decidable (_ ∧ _))

variable {params : List OperationParameter}

theorem argList_eq (params : List OperationParameter) :
    argList params = ", ".intercalate (arguments params) := by
  unfold argList arguments
  split <;> simp

theorem nodup_arguments_iff (distinct : (params.map (·.paramName)).Nodup) :
    (arguments params).Nodup ↔ ¬ OptionsClash params := by
  have required : ((params.filter (·.required)).map (·.paramName)).Nodup :=
    distinct.sublist (List.filter_sublist.map _)
  have named : "opts" ∈ (params.filter (·.required)).map (·.paramName) ↔
      ∃ p ∈ params, p.required = true ∧ p.paramName = "opts" := by
    simp [and_assoc]
  unfold arguments OptionsClash
  by_cases optional : ∃ p ∈ params, p.required = false
  · have any : params.any (!·.required) = true := by simpa using optional
    rw [if_pos any, List.nodup_append_comm, List.singleton_append, List.nodup_cons, named]
    exact ⟨fun h clash => h.1 clash.2, fun h => ⟨fun clash => h ⟨optional, clash⟩, required⟩⟩
  · have any : ¬ params.any (!·.required) = true := by simpa using optional
    rw [if_neg any, List.append_nil]
    exact iff_of_true required fun clash => optional clash.1

theorem canBeListed_of_mem_arguments (h : ∀ p ∈ params, CanBeListed p.paramName) {entry : String}
    (mem : entry ∈ arguments params) : CanBeListed entry := by
  rcases List.mem_append.1 mem with required | options
  · obtain ⟨p, hp, rfl⟩ := List.mem_map.1 required
    exact h p (List.mem_of_mem_filter hp)
  · split at options
    · obtain rfl := List.mem_singleton.1 options
      exact ⟨by decide, by decide⟩
    · cases options

/-! ## Operations in the result of a run -/

@[simp] theorem required_markRuns (params : List OperationParameter) :
    ((markRuns params).filter (·.required)).map (·.paramName) =
      (params.filter (·.required)).map (·.paramName) := by
  induction params with
  | nil => rfl
  | cons p rest ih =>
    rw [markRuns, List.filter_cons, List.filter_cons]
    split
    · exact congrArg (p.paramName :: ·) ih
    · exact ih

@[simp] theorem any_optional_markRuns (params : List OperationParameter) :
    (markRuns params).any (!·.required) = params.any (!·.required) := by
  induction params with
  | nil => rfl
  | cons p rest ih => simp [markRuns, ih]

/-- The marks for the ends of runs change no argument. -/
@[simp] theorem arguments_markRuns (params : List OperationParameter) :
    arguments (markRuns params) = arguments params := by
  simp [arguments]

@[simp] theorem arguments_map_jsdocType (f : OperationParameter → Option String) :
    arguments (params.map fun p => { p with jsdocType := f p }) = arguments params := by
  simp [arguments, List.filter_map, List.any_map, Function.comp_def]

/-- The arguments of an operation in the result of a run: its parameters' arguments, in order, with
commas between them.  If the names of the parameters differ, no two arguments are the same unless a
required parameter clashes with the argument for the optional ones, and then two are; and so it can
be read off the text, if the names can be listed. -/
theorem nodup_listed_argList_iff {o : Output} {op : Operation}
    (mem : op ∈ (javascript o).operations)
    (distinct : (op.parameters.map (·.paramName)).Nodup) :
    op.argList = some (", ".intercalate (arguments op.parameters)) ∧
      ((arguments op.parameters).Nodup ↔ ¬ OptionsClash op.parameters) ∧
      ((∀ p ∈ op.parameters, CanBeListed p.paramName) →
        ((listed (", ".intercalate (arguments op.parameters))).Nodup ↔
          ¬ OptionsClash op.parameters)) := by
  have nodup := nodup_arguments_iff distinct
  refine ⟨?_, nodup, fun names => ?_⟩
  · obtain ⟨plain, -, rfl⟩ := List.mem_map.1 mem
    dsimp only
    rw [arguments_map_jsdocType, arguments_markRuns, argList_eq]
  · rw [nodup_listed_iff fun entry => canBeListed_of_mem_arguments names, nodup]

/-- Required and optional parameters in turns. -/
theorem nodup_listed_argList_findPets :
    let findPets : Operation := { operationId := "findPets", parameters := [
      { baseName := "pet-id", paramName := "petId", required := true },
      { baseName := "limit", paramName := "limit" },
      { baseName := "name", paramName := "name", required := true },
      { baseName := "offset", paramName := "offset" }] }
    ∃ op ∈ (javascript ⟨.javascript, [], [findPets]⟩).operations,
      (op.parameters.map (·.paramName)).Nodup ∧ op.argList = some "petId, name, opts" ∧
        (listed "petId, name, opts").Nodup := by
  intro findPets
  let found : Output := javascript ⟨.javascript, [], [findPets]⟩
  let op : Operation := found.operations.head (List.cons_ne_nil _ _)
  have mem : op ∈ found.operations := List.head_mem _
  have distinct : (op.parameters.map (·.paramName)).Nodup := by decide
  obtain ⟨text, -, entries⟩ := nodup_listed_argList_iff mem distinct
  exact ⟨op, mem, distinct, text.trans (by decide), (entries (by decide)).2 (by decide)⟩

/-- A required parameter `opts` and an optional parameter. -/
theorem not_nodup_listed_argList_opts :
    let findPets : Operation := { operationId := "findPets", parameters := [
      { baseName := "opts", paramName := "opts", required := true },
      { baseName := "limit", paramName := "limit" }] }
    ∃ op ∈ (javascript ⟨.javascript, [], [findPets]⟩).operations,
      (op.parameters.map (·.paramName)).Nodup ∧ op.argList = some "opts, opts" ∧
        ¬ (listed "opts, opts").Nodup := by
  intro findPets
  refine ⟨_, List.mem_singleton_self _, ?_, ?_, ?_⟩
  · decide
  · decide
  · decide +kernel

end OpenApiGen.Decoration
