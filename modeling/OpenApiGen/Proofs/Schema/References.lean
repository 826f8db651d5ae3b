import Mathlib.Data.List.DropRight
import OpenApiGen.Proofs.Schema.Lower

/-!
# References of schemas

The path of a reference leads to the name after its last slash, if there is one that does not start
with a hash (`refName_eq_ok_iff`).  The nodes of a schema refer to names of its references only, and
no schema fails to have a node but for a reference without a name (`traced_lower`).
-/

namespace OpenApiGen

/-! ## Paths -/

namespace Text

variable {p : Char → Bool}

theorem rtakeWhile_cons_of_exists {c : Char} {cs : List Char} (h : ∃ d ∈ c :: cs, ¬ p d = true) :
    (c :: cs).rtakeWhile p = cs.rtakeWhile p := by
  unfold List.rtakeWhile
  rw [List.reverse_cons, List.takeWhile_append]
  split
  · next whole =>
    have all : ∀ d ∈ cs, p d = true := by
      have := List.takeWhile_eq_self_iff.1 ((List.takeWhile_prefix p).eq_of_length whole)
      exact fun d hd => this d (List.mem_reverse.2 hd)
    obtain ⟨d, hd, other⟩ := h
    rcases List.mem_cons.1 hd with rfl | hd
    · rw [List.takeWhile_cons_of_neg other, List.append_nil, List.takeWhile_eq_self_iff.2]
      exact fun e he => all e (List.mem_reverse.1 he)
    · exact absurd (all d hd) other
  · rfl

/-- The last piece of a text is what follows the last separator. -/
theorem splitWhere_eq_concat (p : Char → Bool) (cs : List Char) :
    ∃ init, splitWhere p cs = init ++ [cs.rtakeWhile fun c => !p c] ∧
      (init = [] ↔ ∀ c ∈ cs, p c = false) := by
  induction cs with
  | nil => exact ⟨[], rfl, by simp⟩
  | cons c rest ih =>
    obtain ⟨init, hinit, plain⟩ := ih
    rw [splitWhere, hinit]
    by_cases hc : p c = true
    · rw [if_pos hc, rtakeWhile_cons_of_exists ⟨c, List.mem_cons_self, by simp [hc]⟩]
      exact ⟨[] :: init, rfl, by simp [hc]⟩
    · rw [if_neg hc]
      cases init with
      | nil =>
        have all := plain.1 rfl
        have whole (l : List Char) (h : ∀ d ∈ l, p d = false) :
            (l.rtakeWhile fun d => !p d) = l :=
          List.rtakeWhile_eq_self_iff.2 fun d hd => by rw [h d hd]; rfl
        have all' : ∀ d ∈ c :: rest, p d = false :=
          List.forall_mem_cons.2 ⟨eq_false_of_ne_true hc, all⟩
        rw [whole rest all, whole (c :: rest) all']
        exact ⟨[], rfl, iff_of_true rfl all'⟩
      | cons piece more =>
        have some : ¬ ∀ d ∈ rest, p d = false := fun all => List.cons_ne_nil _ _ (plain.2 all)
        rw [rtakeWhile_cons_of_exists]
        · exact ⟨(c :: piece) :: more, rfl, by simpa using fun _ => by simpa using some⟩
        · simp only [not_forall] at some
          obtain ⟨d, hd, sep⟩ := some
          exact ⟨d, List.mem_cons_of_mem _ hd, by simpa using sep⟩

end Text

/-- What follows the last slash of a path. -/
def lastSegment (path : String) : List Char :=
  path.toList.rtakeWhile fun c => c ≠ '/'

/-- The simple name that a path ends with. -/
def simpleName (path : String) : String :=
  .ofList (lastSegment path)

/-- The last segment of a path is not empty and does not start with a hash. -/
def HasName (path : String) : Prop :=
  lastSegment path ≠ [] ∧ (lastSegment path).head? ≠ some '#'

instance (path : String) : Decidable (HasName path) :=
  inferInstanceAs (Decidable (_ ∧ _))

theorem refName_eq (path : String) : refName path =
    if HasName path then .ok (simpleName path) else .error (.malformed path) := by
  have last : ((Text.splitWhere (fun c => decide (c = '/')) path.toList).getLast?).getD [] =
      lastSegment path := by
    obtain ⟨init, hinit, -⟩ := Text.splitWhere_eq_concat (fun c => decide (c = '/')) path.toList
    rw [hinit, List.getLast?_concat, Option.getD_some]
    simp [lastSegment]
  unfold refName
  dsimp only
  rw [last]
  split
  · next empty =>
    rw [if_neg fun h => h.1 empty]
  · next hash =>
    rw [if_neg fun h => h.2 (by rw [hash]; rfl)]
  · next empty hash =>
    rw [if_pos, simpleName]
    refine ⟨empty, fun h => ?_⟩
    obtain ⟨rest, hrest⟩ := List.head?_eq_some_iff.1 h
    exact hash rest hrest

theorem refName_eq_ok_iff {path name : String} :
    refName path = .ok name ↔ HasName path ∧ simpleName path = name := by
  rw [refName_eq]
  by_cases h : HasName path <;> simp [h]

theorem refName_eq_error_iff {path : String} {e : RefError} :
    refName path = .error e ↔ ¬ HasName path ∧ .malformed path = e := by
  rw [refName_eq]
  by_cases h : HasName path <;> simp [h]

/-! ## References in schemas and in nodes -/

namespace Spec

mutual

/-- The paths of the references in a schema, at any depth. -/
def Schema.references : Schema → List String
  | { properties, additional, items, allOf, oneOf, anyOf, .. } =>
    propertyReferences properties ++
      (match additional with
        | some (.schema value) => schemaReferences value
        | _ => []) ++
      (match items with
        | some element => schemaReferences element
        | none => []) ++
      memberReferences allOf ++ memberReferences oneOf ++ memberReferences anyOf

/-- The paths of the references in a schema that may be one itself. -/
def schemaReferences : OrRef Schema → List String
  | .ref path => [path]
  | .inline schema => schema.references

/-- The paths of the references in the members of a composition. -/
def memberReferences : List (OrRef Schema) → List String
  | [] => []
  | s :: rest => schemaReferences s ++ memberReferences rest

/-- The paths of the references in the properties of an object. -/
def propertyReferences : List (String × OrRef Schema) → List String
  | [] => []
  | (_, s) :: rest => schemaReferences s ++ propertyReferences rest

end

end Spec

namespace Node

mutual

/-- The components that a node refers to, at any depth. -/
def refs : Node → List String
  | ref name => [name]
  | array items _ => refs items
  | map value _ => refs value
  | composed _ members _ => refsAll members
  | object entries _ _ => entryRefs entries
  | primitive .. | enum .. => []

/-- The components that some nodes refer to. -/
def refsAll : List Node → List String
  | [] => []
  | member :: rest => refs member ++ refsAll rest

/-- The components that the properties of an object refer to. -/
def entryRefs : List (String × Node) → List String
  | [] => []
  | (_, node) :: rest => refs node ++ entryRefs rest

end

theorem refsAll_append (members more : List Node) :
    refsAll (members ++ more) = refsAll members ++ refsAll more := by
  induction members with
  | nil => rfl
  | cons member rest ih => rw [List.cons_append, refsAll, refsAll, ih, List.append_assoc]

end Node

/-! ## Lowering -/

/-- One of some paths leads to a name. -/
def Leads (paths : List String) (name : String) : Prop :=
  ∃ path ∈ paths, refName path = .ok name

/-- What is made of some paths refers to names that they lead to, and fails because of one of them
that leads to none. -/
abbrev Traced {α : Type} (refs : α → List String) (paths : List String)
    (x : Except RefError α) : Prop :=
  EndsIn (fun a => ∀ name ∈ refs a, Leads paths name)
    (fun e => ∃ path ∈ paths, refName path = .error e) x

theorem Leads.mono {paths more : List String} (sub : paths ⊆ more) {name : String}
    (h : Leads paths name) : Leads more name := by
  obtain ⟨path, hpath, named⟩ := h
  exact ⟨path, sub hpath, named⟩

theorem Traced.of_subset {α : Type} {refs : α → List String} {paths more : List String}
    {x : Except RefError α} (h : Traced refs paths x) (sub : paths ⊆ more) : Traced refs more x :=
  h.mono (fun _ led name mem => (led name mem).mono sub)
    fun _ ⟨path, hpath, bad⟩ => ⟨path, sub hpath, bad⟩

open Spec in
mutual

theorem traced_lowerSchema (s : Schema) : Traced Node.refs s.references (lowerSchema s) := by
  obtain ⟨type, format, description, properties, required, additional, items, allOf, oneOf, anyOf,
    enum, pattern, default_, tag⟩ := s
  have fields := traced_lowerProperties properties
  have all := traced_lowerAll allOf
  have one := traced_lowerAll oneOf
  have any := traced_lowerAll anyOf
  have element : ∀ e, items = some e → Traced Node.refs (schemaReferences e) (lower e) := by
    rintro e rfl
    exact traced_lower e
  have value : ∀ v, additional = some (.schema v) →
      Traced Node.refs (schemaReferences v) (lower v) := by
    rintro v rfl
    exact traced_lower v
  rw [Schema.references.eq_def]
  dsimp only
  generalize hpaths : propertyReferences properties ++ _ ++ _ ++ memberReferences allOf ++
    memberReferences oneOf ++ memberReferences anyOf = paths
  replace fields : Traced Node.entryRefs paths (lowerProperties properties) :=
    fields.of_subset fun path mem => by simp [← hpaths, mem]
  replace all : Traced Node.refsAll paths (lowerAll allOf) :=
    all.of_subset fun path mem => by simp [← hpaths, mem]
  replace one : Traced Node.refsAll paths (lowerAll oneOf) :=
    one.of_subset fun path mem => by simp [← hpaths, mem]
  replace any : Traced Node.refsAll paths (lowerAll anyOf) :=
    any.of_subset fun path mem => by simp [← hpaths, mem]
  replace element : ∀ e, items = some e → Traced Node.refs paths (lower e) := by
    rintro e rfl
    exact (element e rfl).of_subset fun path mem => by simp [← hpaths, mem]
  replace value : ∀ v, additional = some (.schema v) → Traced Node.refs paths (lower v) := by
    rintro v rfl
    exact (value v rfl).of_subset fun path mem => by simp [← hpaths, mem]
  have members : ∀ ms ∈ [allOf, oneOf, anyOf], Traced Node.refsAll paths (lowerAll ms) := by
    simp [all, one, any]
  apply endsIn_lowerSchema members fields element value
  case composed => exact fun _ _ => id
  case array | map | object => exact fun _ => id
  case extended =>
    intro kind nodes entries hnodes hentries
    rw [Node.refs, Node.refsAll_append]
    refine List.forall_mem_append.2 ⟨hnodes, ?_⟩
    simpa [Node.refsAll, Node.refs] using hentries
  case untyped | enum | primitive => simp [Node.refs, Node.scalar]

theorem traced_lower (s : OrRef Schema) : Traced Node.refs (schemaReferences s) (lower s) := by
  cases s with
  | ref path =>
    rw [lower, schemaReferences]
    refine ⟨fun node h => ?_, ?_⟩
    · obtain ⟨name, named, h⟩ := bind_eq_ok_iff.1 h
      cases h
      intro other mem
      cases List.mem_singleton.1 mem
      exact ⟨path, List.mem_singleton_self _, named⟩
    · refine FailsWith.bind (fun e bad => ?_) fun _ _ => .ok _
      exact ⟨path, List.mem_singleton_self _, bad⟩
  | inline schema => exact traced_lowerSchema schema

theorem traced_lowerAll (members : List (OrRef Schema)) :
    Traced Node.refsAll (memberReferences members) (lowerAll members) := by
  cases members with
  | nil => exact .ok (by simp [Node.refsAll])
  | cons s rest =>
    have first := (traced_lower s).of_subset (List.subset_append_left _ (memberReferences rest))
    have later := (traced_lowerAll rest).of_subset (List.subset_append_right (schemaReferences s) _)
    rw [lowerAll]
    refine first.bind fun node hnode => later.bind fun nodes hnodes => .ok ?_
    exact List.forall_mem_append.2 ⟨hnode, hnodes⟩

theorem traced_lowerProperties (properties : List (String × OrRef Schema)) :
    Traced Node.entryRefs (propertyReferences properties) (lowerProperties properties) := by
  cases properties with
  | nil => exact .ok (by simp [Node.entryRefs])
  | cons e rest =>
    obtain ⟨name, s⟩ := e
    have first := (traced_lower s).of_subset (List.subset_append_left _ (propertyReferences rest))
    have later := (traced_lowerProperties rest).of_subset
      (List.subset_append_right (schemaReferences s) _)
    rw [lowerProperties]
    refine first.bind fun node hnode => later.bind fun nodes hnodes => .ok ?_
    exact List.forall_mem_append.2 ⟨hnode, hnodes⟩

end

end OpenApiGen
