import OpenApiGen.Proofs.Model.Flattening

/-!
# The schemas of properties

What a model takes over is declared somewhere with a schema, in its own node or in one that
flattening comes to (`Library.declarations`).  The first declaration of a key counts: each property
of a model is made of the schema that its key has there (`Resolver.exists_schemaOf?`).
-/

namespace OpenApiGen

/-! ## Declarations in order -/

namespace Library

mutual

/-- The keys that a node declares with their schemas, in the order of flattening, while the
components in `visiting` are being looked at. -/
def declarations (library : Library) (visiting : List String) (node : Node) :
    List (String × Node) :=
  match node with
  | .object entries _ _ => entries
  | .composed .allOf members _ => library.declarationsOfAll visiting members
  | _ => []
termination_by (library.countOutside visiting, sizeOf node)
decreasing_by exact Prod.Lex.right _ (by simp only [Node.composed.sizeOf_spec]; omega)

/-- The keys that members of an `allOf` schema declare with their schemas. -/
def declarationsOfAll (library : Library) (visiting : List String) (members : List Node) :
    List (String × Node) :=
  match members with
  | [] => []
  | .ref name :: rest =>
    if _new : name ∈ visiting then library.declarationsOfAll visiting rest
    else
      match _found : library.get? name with
      | none => library.declarationsOfAll visiting rest
      | some target =>
        library.declarations (name :: visiting) target ++ library.declarationsOfAll visiting rest
  | member :: rest =>
    library.declarations visiting member ++ library.declarationsOfAll visiting rest
termination_by (library.countOutside visiting, sizeOf members)
decreasing_by
  · exact Prod.Lex.right _ (by simp only [List.cons.sizeOf_spec]; omega)
  · exact Prod.Lex.right _ (by simp only [List.cons.sizeOf_spec]; omega)
  · exact Prod.Lex.left _ _ (Dict.countOutside_cons_lt _found _new)
  · exact Prod.Lex.right _ (by simp only [List.cons.sizeOf_spec]; omega)
  · exact Prod.Lex.right _ (by simp only [List.cons.sizeOf_spec]; omega)
  · exact Prod.Lex.right _ (by simp only [List.cons.sizeOf_spec]; omega)

end

/-- The schema of a key in the model of a component: that of its first declaration. -/
def schemaOf? (library : Library) (name key : String) : Option Node :=
  (library.get? name).bind fun node => Dict.get? (library.declarations [name] node) key

theorem declarationsOfAll_ref {library : Library} {visiting : List String} {name : String}
    {rest : List Node} {target : Node} (new : name ∉ visiting)
    (found : library.get? name = some target) :
    library.declarationsOfAll visiting (.ref name :: rest) =
      library.declarations (name :: visiting) target ++
        library.declarationsOfAll visiting rest := by
  rw [declarationsOfAll, dif_neg new]
  split
  · next missing =>
    rw [found] at missing
    cases missing
  · next found' =>
    rw [found] at found'
    cases found'
    rfl

end Library

/-! ## Properties of declarations -/

/-- The first property of a name. -/
abbrev firstOf? (ps : List Property) (key : String) : Option Property :=
  ps.find? fun p => p.baseName = key

namespace Resolver

variable {r : Resolver}

theorem firstOf?_isSome_iff {ps : List Property} {key : String} :
    (firstOf? ps key).isSome = true ↔ key ∈ baseNames ps := by
  rw [List.find?_isSome]
  simp [baseNames]

/-- What is known comes before what is added. -/
theorem firstOf?_addMissing (known more : List Property) (key : String) :
    firstOf? (addMissing known more) key = (firstOf? known key).or (firstOf? more key) := by
  induction more generalizing known with
  | nil => exact Option.or_none.symm
  | cons p rest ih =>
    rw [addMissing_cons, ih]
    split
    · next there =>
      by_cases same : p.baseName = key
      · obtain ⟨q, first⟩ := Option.isSome_iff_exists.1 (firstOf?_isSome_iff.2 (same ▸ there))
        rw [first, Option.some_or, Option.some_or]
      · rw [firstOf?, firstOf?, firstOf?, List.find?_cons_of_neg (by simpa using same)]
    · rw [firstOf?, List.find?_append, Option.or_assoc, ← List.find?_append]
      rfl

/-- A property is made of the schema of its key, or there is neither. -/
def Made (r : Resolver) (key : String) : Option Property → Option Node → Prop :=
  Option.Rel fun p schema => ∃ required, r.property key schema required = .ok p

theorem Made.or {key : String} {p? q? : Option Property} {schema? schema'? : Option Node}
    (first : r.Made key p? schema?) (second : r.Made key q? schema'?) :
    r.Made key (p?.or q?) (schema?.or schema'?) := by
  cases first with
  | none => exact second
  | some made => exact .some made

/-- What one member adds, and what the rest adds after it. -/
theorem made_firstOf?_addMissing {known inherited ps : List Property} {key : String}
    {first later : List (String × Node)}
    (here : r.Made key (firstOf? inherited key) (Dict.get? first key))
    (rest : ∃ p?, firstOf? ps key = (firstOf? (addMissing known inherited) key).or p? ∧
      r.Made key p? (Dict.get? later key)) :
    ∃ p?, firstOf? ps key = (firstOf? known key).or p? ∧
      r.Made key p? (Dict.get? (first ++ later) key) := by
  obtain ⟨p?, second, made⟩ := rest
  refine ⟨(firstOf? inherited key).or p?, ?_, ?_⟩
  · rw [second, firstOf?_addMissing, Option.or_assoc]
  · unfold Dict.get?
    rw [List.lookup_append]
    exact here.or made

theorem made_firstOf?_properties {entries : List (String × Node)} {required : List String}
    {ps : List Property} (h : r.properties entries required = .ok ps) (key : String) :
    r.Made key (firstOf? ps key) (Dict.get? entries key) := by
  replace h := mapM_eq_ok_iff.1 h
  induction h with
  | nil => exact .none
  | @cons e p _ _ made _ ih =>
    obtain ⟨k, schema⟩ := e
    have named := baseName_property made
    rw [Dict.get?_cons]
    by_cases same : key = k
    · subst same
      rw [if_pos rfl, firstOf?, List.find?_cons_of_pos (by simpa using named)]
      exact .some ⟨_, made⟩
    · rw [if_neg same, firstOf?,
        List.find?_cons_of_neg (by simpa [named] using Ne.symm same)]
      exact ih

/-- Flattening makes the first property of each key of the first declaration of the key.  What is
known already comes before any declaration. -/
theorem made_firstOf?_contributed_and (r : Resolver) :
    (∀ visiting node ps, r.contributed visiting node = .ok ps →
      ∀ key, r.Made key (firstOf? ps key)
        (Dict.get? (r.library.declarations visiting node) key)) ∧
    (∀ visiting known members ps, r.contributedByAll visiting known members = .ok ps →
      ∀ key, ∃ p?, firstOf? ps key = (firstOf? known key).or p? ∧
        r.Made key p? (Dict.get? (r.library.declarationsOfAll visiting members) key)) := by
  apply contributed_rule
  case object =>
    intro visiting entries required description ps h key
    rw [Library.declarations]
    exact made_firstOf?_properties h key
  case allOf =>
    intro visiting members tag ps ih key
    rw [Library.declarations]
    obtain ⟨p?, first, made⟩ := ih key
    rw [first]
    exact made
  case other =>
    intro visiting node notObject notAllOf key
    rw [Library.declarations.eq_3 _ _ _ notObject notAllOf]
    exact .none
  case nil =>
    intro visiting known key
    rw [Library.declarationsOfAll]
    exact ⟨none, Option.or_none.symm, .none⟩
  case seen =>
    intro visiting known name rest ps old ih key
    rw [Library.declarationsOfAll, dif_pos old]
    exact ih key
  case ref =>
    intro visiting known name target rest inherited ps new found ihTarget ihRest key
    rw [Library.declarationsOfAll_ref new (Library.get?_of_find found)]
    exact made_firstOf?_addMissing (ihTarget key) (ihRest key)
  case inline =>
    intro visiting known member rest inherited ps notRef ihMember ihRest key
    rw [Library.declarationsOfAll.eq_3 _ _ _ _ notRef]
    exact made_firstOf?_addMissing (ihMember key) (ihRest key)

theorem firstOf?_of_mem {ps : List Property} (distinct : (baseNames ps).Nodup) {p : Property}
    (mem : p ∈ ps) : firstOf? ps p.baseName = some p := by
  induction ps with
  | nil => cases mem
  | cons q rest ih =>
    obtain ⟨new, distinct⟩ := List.nodup_cons.1 distinct
    rcases List.mem_cons.1 mem with rfl | mem
    · exact List.find?_cons_of_pos (by simp)
    · have other : q.baseName ≠ p.baseName := fun same =>
        new (same ▸ List.mem_map_of_mem mem)
      rw [firstOf?, List.find?_cons_of_neg (by simpa using other)]
      exact ih distinct mem

/-- Each property of a model is made of the schema that its key has in the component, given that
the properties of its own schema have distinct keys. -/
theorem exists_schemaOf? {name : String} {node : Node} {m : Model}
    (found : r.library.get? name = some node) (distinct : node.Keyed)
    (h : r.model name node = .ok m) {p : Property} (mem : p ∈ m.allVars) :
    ∃ schema required, r.library.schemaOf? name p.baseName = some schema ∧
      r.property p.baseName schema required = .ok p := by
  have made := r.made_firstOf?_contributed_and.1 _ _ _ (model_cases h).2.2.2 p.baseName
  rw [firstOf?_of_mem (nodup_baseNames_model h distinct) mem] at made
  unfold Library.schemaOf?
  rw [found, Option.bind_some]
  generalize Dict.get? (r.library.declarations [name] node) p.baseName = schema? at made ⊢
  cases made with
  | some made =>
    obtain ⟨required, made⟩ := made
    exact ⟨_, required, rfl, made⟩

end Resolver

end OpenApiGen
