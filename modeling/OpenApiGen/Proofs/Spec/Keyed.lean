import OpenApiGen.Proofs.Spec.References
import OpenApiGen.Proofs.Spec.RoundTrip

/-!
# Names in a document that was read

Each dictionary of a document is put together entry by entry, and so the names in it are distinct,
among component schemas (`keyed_of_read`) and in request bodies (`keyed_body_of_read`).
-/

namespace OpenApiGen.Spec

open OpenApiGen.Tree

/-- A member for a dictionary has distinct names, whether it was given or left out. -/
theorem nodup_keys_of_defaulted {α : Type} {t : Tree} {slots : Slots t} {name : String}
    {read : Tree → Option α} {d : Dict α}
    (h : slots.defaulted name [] (fun u => u.1.dictOf? fun v => read v.1) = some d) :
    d.keys.Nodup ∧ ∀ e ∈ d, ∃ v, read v = some e.2 := by
  unfold Slots.defaulted at h
  split at h
  · refine ⟨nodup_keys_of_dictOf? h, fun e mem => ?_⟩
    obtain ⟨p, -, hp⟩ := mem_of_dictOf? h mem
    exact ⟨p.1, hp⟩
  · cases h
    exact ⟨List.nodup_nil, List.forall_mem_nil _⟩

theorem nodup_properties_of_schema? {t : Tree} {s : Schema} (h : schema? t = some (.inline s)) :
    (s.properties.map Prod.fst).Nodup := by
  cases found : refPath? t with
  | some path =>
    rw [schema?, found] at h
    cases h
  | none =>
    obtain ⟨slots, s', hslots, readsAs, same⟩ := (schema?_eq_some_iff found).1 h
    cases same
    exact (nodup_keys_of_defaulted readsAs.properties).1

theorem keyed_of_requestBody? {t : Tree} {body : RequestBody} (h : requestBody? t = some body) :
    body.Keyed := by
  simp only [requestBody?, bind, Option.bind_eq_some_iff] at h
  obtain ⟨slots, -, content, hcontent, required, -, same⟩ := h
  cases same
  intro e mem schema inline
  obtain ⟨v, hv⟩ := (nodup_keys_of_defaulted hcontent).2 e mem
  simp only [mediaType?, bind, Option.bind_eq_some_iff] at hv
  obtain ⟨slots, hslots, schema?, hschema, same⟩ := hv
  rw [← Option.some.inj same] at inline
  cases inline
  obtain ⟨u, -, -, hread⟩ := part_of_optional hslots hschema
  exact nodup_properties_of_schema? hread

theorem keyed_of_requestBodyOrRef? {t : Tree} {body : RequestBody}
    (h : requestBodyOrRef? t = some (.inline body)) : body.Keyed := by
  unfold requestBodyOrRef? orRef? at h
  split at h
  · split at h
    · cases h
    · obtain ⟨body', hread, same⟩ := Option.map_eq_some_iff.1 h
      cases same
      exact keyed_of_requestBody? hread
  · cases h

theorem keyed_of_operation? {t : Tree} {o : Operation} (h : operation? t = some o)
    {body : RequestBody} (given : o.requestBody = some (.inline body)) : body.Keyed := by
  simp only [operation?, bind, Option.bind_eq_some_iff] at h
  obtain ⟨slots, hslots, _, -, _, -, _, -, _, -, requestBody, hbody, _, -, _, -, same⟩ := h
  cases same
  cases given
  obtain ⟨u, -, -, hread⟩ := part_of_optional hslots hbody
  exact keyed_of_requestBodyOrRef? hread

/-- Each operation of a path item was read as one. -/
theorem exists_operation?_of_pathItem? {t : Tree} {item : PathItem} (h : pathItem? t = some item)
    {m : String × Operation} (mem : m ∈ item.operations) : ∃ u, operation? u = some m.2 := by
  simp only [pathItem?, bind, Option.bind_eq_some_iff] at h
  obtain ⟨slots, hslots, _, -, get, hget, put, hput, post, hpost, delete, hdelete, options,
    hoptions, head, hhead, patch, hpatch, trace, htrace, same⟩ := h
  cases same
  have read {name : String} {operation : Option Operation}
      (hread : slots.optional name (fun u => operation? u.1) = some operation)
      (given : operation = some m.2) : ∃ u, operation? u = some m.2 := by
    subst given
    obtain ⟨u, -, -, hread⟩ := part_of_optional hslots hread
    exact ⟨u, hread⟩
  obtain ⟨⟨method, operation⟩, among, same⟩ := List.mem_filterMap.1 mem
  obtain ⟨o, given, rfl⟩ := Option.map_eq_some_iff.1 same
  simp only [List.mem_cons, Prod.mk.injEq, List.not_mem_nil, or_false] at among
  rcases among with ⟨-, rfl⟩ | ⟨-, rfl⟩ | ⟨-, rfl⟩ | ⟨-, rfl⟩ | ⟨-, rfl⟩ | ⟨-, rfl⟩ | ⟨-, rfl⟩ |
    ⟨-, rfl⟩
  exacts [read hget given, read hput given, read hpost given, read hdelete given,
    read hoptions given, read hhead given, read hpatch given, read htrace given]

/-- Component schemas have distinct names, and they were read as such; so were request bodies. -/
theorem component_of_read {format : Format} {text : String} {s : Spec}
    (h : read format text = .ok s) :
    ((s.component Components.schemas).keys.Nodup ∧
      ∀ e ∈ s.component Components.schemas, ∃ v, schemaOrRef? v = some e.2) ∧
    ∀ e ∈ s.component Components.requestBodies, ∃ v, requestBodyOrRef? v = some e.2 := by
  obtain ⟨t, -, hs, -⟩ := read_eq_ok_iff.1 h
  simp only [ofTree?, bind, Option.bind_eq_some_iff] at hs
  obtain ⟨slots, hslots, openapi, -, info, -, paths, -, components, hcomponents, hs⟩ := hs
  cases hs
  cases components with
  | none => exact ⟨⟨List.nodup_nil, List.forall_mem_nil _⟩, List.forall_mem_nil _⟩
  | some c =>
    obtain ⟨u, -, -, hread⟩ := part_of_optional hslots hcomponents
    simp only [components?, bind, Option.bind_eq_some_iff] at hread
    obtain ⟨slots, -, schemas, hschemas, _, -, bodies, hbodies, _, -, hread⟩ := hread
    cases hread
    exact ⟨nodup_keys_of_defaulted hschemas, (nodup_keys_of_defaulted hbodies).2⟩

/-- Each operation of a document was read as one. -/
theorem exists_operation?_of_read {format : Format} {text : String} {s : Spec}
    (h : read format text = .ok s) {o : Operation} (mem : o ∈ s.allOperations) :
    ∃ u, operation? u = some o := by
  obtain ⟨t, -, hs, -⟩ := read_eq_ok_iff.1 h
  simp only [ofTree?, bind, Option.bind_eq_some_iff] at hs
  obtain ⟨slots, -, openapi, -, info, -, paths, hpaths, components, -, hs⟩ := hs
  cases hs
  obtain ⟨e, he, mem⟩ := List.mem_flatMap.1 mem
  obtain ⟨m, hm, rfl⟩ := List.mem_map.1 mem
  obtain ⟨v, hv⟩ := (nodup_keys_of_defaulted hpaths).2 e he
  exact exists_operation?_of_pathItem? hv hm

theorem keyed_of_read {format : Format} {text : String} {s : Spec}
    (h : read format text = .ok s) : s.Keyed := by
  obtain ⟨⟨names, values⟩, -⟩ := component_of_read h
  refine ⟨names, fun name schema mem => ?_⟩
  obtain ⟨v, hv⟩ := values _ mem
  unfold schemaOrRef? at hv
  split at hv
  · exact nodup_properties_of_schema? hv
  · cases hv

/-- The forms of every request body that is written in place have fields with distinct names. -/
theorem keyed_body_of_read {format : Format} {text : String} {s : Spec}
    (h : read format text = .ok s) {body : RequestBody} (mem : .inline body ∈ s.bodyPlaces) :
    body.Keyed := by
  rcases List.mem_append.1 mem with component | operation
  · obtain ⟨e, he, same⟩ := List.mem_map.1 component
    obtain ⟨v, hv⟩ := (component_of_read h).2 e he
    exact keyed_of_requestBodyOrRef? (same ▸ hv)
  · obtain ⟨o, ho, given⟩ := List.mem_filterMap.1 operation
    obtain ⟨u, hread⟩ := exists_operation?_of_read h ho
    exact keyed_of_operation? hread given

end OpenApiGen.Spec
