import Mathlib
import OpenApiGen.Proofs.Json.Reader
import OpenApiGen.Proofs.Spec.Faithful
import OpenApiGen.Spec.Reader

/-!
# Documents that are written and read again

Each type of a document has a reader that is faithful to its encoder.  For schemas this goes by
induction on the tree (`faithful_schema`), for the other types member by member.  So a document that
was read from a JSON text is read again from what it is written as (`ofTree?_toJson`).
-/

namespace OpenApiGen.Spec

open OpenApiGen.Tree

/-! ## Schemas -/

theorem choice?_schemaType (t : SchemaType) :
    (Json.text t.name).toTree.choice? SchemaType.names = some t := by
  cases t <;> rfl

theorem faithful_typeSet {P : Tree → Prop} : Faithful P typeSet? encodeTypeSet := by
  intro t types _ _
  cases types with
  | single type =>
    unfold typeSet?
    rw [encodeTypeSet, choice?_schemaType]
  | multiple types =>
    have texts : encodeTypeSet (.multiple types) =
        .array (types.map fun type => .text type.name) := by
      rw [encodeTypeSet, encodeTexts, List.map_map]
      rfl
    unfold typeSet?
    rw [texts]
    show (listOf? _ _).map TypeSet.multiple = _
    rw [listOf?_toTree fun type _ p hp => ?_]
    · rfl
    · rw [hp]
      exact choice?_schemaType type

theorem encodeSchemas_eq_map (schemas : List (OrRef Schema)) :
    encodeSchemas schemas = schemas.map encodeSchemaOrRef := by
  induction schemas with
  | nil => rfl
  | cons s rest ih => rw [encodeSchemas, ih, List.map_cons]

theorem encodeSchemaDict_eq_map (schemas : List (String × OrRef Schema)) :
    encodeSchemaDict schemas = schemas.map fun e => (e.1, encodeSchemaOrRef e.2) := by
  induction schemas with
  | nil => rfl
  | cons e rest ih => rw [encodeSchemaDict, ih, List.map_cons]

/-- What a schema says about further properties, read from a tree. -/
def additional? (t : Tree) : Option (Additional (OrRef Schema)) :=
  match t.bool? with
  | some allowed => some (.flag allowed)
  | none => (schema? t).map .schema

/-- What a schema says about further properties, as JSON. -/
def encodeAdditional : Additional (OrRef Schema) → Json
  | .flag allowed => .bool allowed
  | .schema s => encodeSchemaOrRef s

/-- The members of a schema with what is written for them. -/
def Schema.fields (s : Schema) : List (String × Option Json) :=
  [("type", s.type.map encodeTypeSet),
    ("format", s.format.map .text),
    ("description", s.description.map .text),
    ("properties", encodeNonempty (encodeDict encodeSchemaOrRef) s.properties),
    ("required", encodeNonempty encodeTexts s.required),
    ("additionalProperties", s.additional.map encodeAdditional),
    ("items", s.items.map encodeSchemaOrRef),
    ("allOf", encodeNonempty (encodeList encodeSchemaOrRef) s.allOf),
    ("oneOf", encodeNonempty (encodeList encodeSchemaOrRef) s.oneOf),
    ("anyOf", encodeNonempty (encodeList encodeSchemaOrRef) s.anyOf),
    ("enum", encodeNonempty (encodeList id) s.enum),
    ("pattern", s.pattern.map .text),
    ("default", s.default_.map id),
    ("x-schema-name", s.tag.map .text)]

theorem nodup_schemaFields : schemaFields.Nodup := by
  decide

theorem encodeList_id : encodeList id = Json.array := by
  funext values
  rw [encodeList, List.map_id]

theorem encodeSchema_eq (s : Schema) : encodeSchema s = .object (present s.fields) := by
  have members : encodeSchema s = .object (
        optionalMember "type" s.type encodeTypeSet ++
        optionalMember "format" s.format .text ++
        optionalMember "description" s.description .text ++
        listMember "properties" s.properties (encodeDict encodeSchemaOrRef) ++
        listMember "required" s.required encodeTexts ++
        optionalMember "additionalProperties" s.additional encodeAdditional ++
        optionalMember "items" s.items encodeSchemaOrRef ++
        listMember "allOf" s.allOf (encodeList encodeSchemaOrRef) ++
        listMember "oneOf" s.oneOf (encodeList encodeSchemaOrRef) ++
        listMember "anyOf" s.anyOf (encodeList encodeSchemaOrRef) ++
        listMember "enum" s.enum (encodeList id) ++
        optionalMember "pattern" s.pattern .text ++
        optionalMember "default" s.default_ id ++
        optionalMember "x-schema-name" s.tag .text) := by
    obtain ⟨type, format, description, properties, required, additional, items, allOf, oneOf,
      anyOf, enum, pattern, default_, tag⟩ := s
    rw [encodeSchema.eq_def]
    dsimp only
    rw [encodeSchemaDict_eq_map, encodeSchemas_eq_map, encodeSchemas_eq_map,
      encodeSchemas_eq_map, encodeList_id]
    rcases additional with _ | allowed | value <;> cases items <;> rfl
  rw [members]
  simp only [optionalMember_eq_present, listMember_eq_present, ← present_append]
  rfl

theorem refPath?_encodeSchema (s : Schema) : refPath? (encodeSchema s).toTree = none := by
  rw [encodeSchema_eq]
  exact refPath?_present nodup_schemaFields (by decide) s.fields rfl

theorem isNull_encodeSchemaOrRef (s : OrRef Schema) :
    (encodeSchemaOrRef s).toTree.isNull = false := by
  cases s with
  | ref path => rfl
  | inline schema =>
    rw [encodeSchemaOrRef, encodeSchema_eq]
    rfl

theorem Faithful.additional {P : Tree → Prop} (h : Faithful P schema? encodeSchemaOrRef) :
    Faithful P additional? encodeAdditional := by
  intro t a ht hread
  unfold additional? at hread ⊢
  split at hread
  · cases hread
    rfl
  · obtain ⟨s, hs, rfl⟩ := Option.map_eq_some_iff.1 hread
    have notBool : (encodeSchemaOrRef s).toTree.bool? = none := by
      cases s with
      | ref path => rfl
      | inline schema =>
        rw [encodeSchemaOrRef, encodeSchema_eq]
        rfl
    rw [encodeAdditional, notBool, h t s ht hs]
    rfl

/-- What the slots of a tree are read as, if the tree is a schema in place. -/
structure Schema.ReadsAs {t : Tree} (slots : Slots t) (s : Schema) : Prop where
  type : slots.optional "type" (fun u => typeSet? u.1) = some s.type
  format : slots.optional "format" (fun u => u.1.text?) = some s.format
  description : slots.optional "description" (fun u => u.1.text?) = some s.description
  properties : slots.defaulted "properties" [] (fun u => u.1.dictOf? fun v => schema? v.1) =
    some s.properties
  required : slots.defaulted "required" [] (fun u => texts? u.1) = some s.required
  additional : slots.optional "additionalProperties" (fun u => additional? u.1) =
    some s.additional
  items : slots.optional "items" (fun u => schema? u.1) = some s.items
  allOf : slots.defaulted "allOf" [] (fun u => u.1.listOf? fun v => schema? v.1) = some s.allOf
  oneOf : slots.defaulted "oneOf" [] (fun u => u.1.listOf? fun v => schema? v.1) = some s.oneOf
  anyOf : slots.defaulted "anyOf" [] (fun u => u.1.listOf? fun v => schema? v.1) = some s.anyOf
  enum : slots.defaulted "enum" [] (fun u => u.1.listOf? fun v => v.1.json?) = some s.enum
  pattern : slots.optional "pattern" (fun u => u.1.text?) = some s.pattern
  default_ : slots.optional "default" (fun u => u.1.json?) = some s.default_
  tag : slots.optional "x-schema-name" (fun u => u.1.text?) = some s.tag

theorem schema?_eq_some_iff {t : Tree} (noRef : refPath? t = none) {a : OrRef Schema} :
    schema? t = some a ↔
      ∃ slots s, t.slots? schemaFields = some slots ∧ Schema.ReadsAs slots s ∧ a = .inline s := by
  rw [schema?, noRef]
  constructor
  · intro h
    obtain ⟨slots, hslots, h⟩ := Option.bind_eq_some_iff.1 h
    obtain ⟨_, type, h⟩ := Option.bind_eq_some_iff.1 h
    obtain ⟨_, format, h⟩ := Option.bind_eq_some_iff.1 h
    obtain ⟨_, description, h⟩ := Option.bind_eq_some_iff.1 h
    obtain ⟨_, properties, h⟩ := Option.bind_eq_some_iff.1 h
    obtain ⟨_, required, h⟩ := Option.bind_eq_some_iff.1 h
    obtain ⟨_, additional, h⟩ := Option.bind_eq_some_iff.1 h
    obtain ⟨_, items, h⟩ := Option.bind_eq_some_iff.1 h
    obtain ⟨_, allOf, h⟩ := Option.bind_eq_some_iff.1 h
    obtain ⟨_, oneOf, h⟩ := Option.bind_eq_some_iff.1 h
    obtain ⟨_, anyOf, h⟩ := Option.bind_eq_some_iff.1 h
    obtain ⟨_, enum, h⟩ := Option.bind_eq_some_iff.1 h
    obtain ⟨_, pattern, h⟩ := Option.bind_eq_some_iff.1 h
    obtain ⟨_, default_, h⟩ := Option.bind_eq_some_iff.1 h
    obtain ⟨_, tag, h⟩ := Option.bind_eq_some_iff.1 h
    cases h
    refine ⟨slots, _, hslots, ?_, rfl⟩
    exact ⟨type, format, description, properties, required, additional, items, allOf, oneOf, anyOf,
      enum, pattern, default_, tag⟩
  · rintro ⟨slots, s, hslots, h, rfl⟩
    refine Option.bind_eq_some_iff.2 ⟨_, hslots, ?_⟩
    refine Option.bind_eq_some_iff.2 ⟨_, h.type, ?_⟩
    refine Option.bind_eq_some_iff.2 ⟨_, h.format, ?_⟩
    refine Option.bind_eq_some_iff.2 ⟨_, h.description, ?_⟩
    refine Option.bind_eq_some_iff.2 ⟨_, h.properties, ?_⟩
    refine Option.bind_eq_some_iff.2 ⟨_, h.required, ?_⟩
    refine Option.bind_eq_some_iff.2 ⟨_, h.additional, ?_⟩
    refine Option.bind_eq_some_iff.2 ⟨_, h.items, ?_⟩
    refine Option.bind_eq_some_iff.2 ⟨_, h.allOf, ?_⟩
    refine Option.bind_eq_some_iff.2 ⟨_, h.oneOf, ?_⟩
    refine Option.bind_eq_some_iff.2 ⟨_, h.anyOf, ?_⟩
    refine Option.bind_eq_some_iff.2 ⟨_, h.enum, ?_⟩
    refine Option.bind_eq_some_iff.2 ⟨_, h.pattern, ?_⟩
    refine Option.bind_eq_some_iff.2 ⟨_, h.default_, ?_⟩
    refine Option.bind_eq_some_iff.2 ⟨_, h.tag, ?_⟩
    cases s
    rfl

/-- A schema in place is read again, if the schemas in its parts are. -/
theorem Schema.ReadsAs.again {P : Tree → Prop} (hereditary : Hereditary P)
    (finite : ∀ t, P t → t.Finite) (faithful : Faithful P schema? encodeSchemaOrRef) {t : Tree}
    {slots : Slots t} (hslots : t.slots? schemaFields = some slots) (parts : ∀ u ∈ t.parts, P u)
    {s : Schema} (h : s.ReadsAs slots) :
    schema? (encodeSchema s).toTree = some (.inline s) := by
  rw [schema?_eq_some_iff (refPath?_encodeSchema s), encodeSchema_eq]
  obtain ⟨again, hagain, type, format, description, properties, required, additional, items, allOf,
    oneOf, anyOf, enum, pattern, default_, tag⟩ := slots?_present nodup_schemaFields s.fields rfl
  have list := faithful.listOf hereditary
  have text : Faithful P Tree.text? .text := faithful_text
  have textNotNull : ∀ u a, P u → u.isNull = false → u.text? = some a →
      (Json.text a).toTree.isNull = false := fun _ _ _ _ _ => rfl
  refine ⟨again, s, hagain, ?_, rfl⟩
  constructor
  case type =>
    refine faithful_typeSet.optional (fun _ a _ _ _ => ?_) hslots parts h.type type
    cases a <;> rfl
  case format => exact text.optional textNotNull hslots parts h.format format
  case description => exact text.optional textNotNull hslots parts h.description description
  case properties =>
    exact (faithful.dictOf hereditary).nonempty hslots parts h.properties properties
  case required => exact (faithful_texts hereditary).nonempty hslots parts h.required required
  case additional =>
    refine faithful.additional.optional (fun _ a _ _ _ => ?_) hslots parts h.additional additional
    cases a with
    | flag allowed => rfl
    | schema value => exact isNull_encodeSchemaOrRef value
  case items =>
    exact faithful.optional (fun _ a _ _ _ => isNull_encodeSchemaOrRef a) hslots parts h.items items
  case allOf => exact list.nonempty hslots parts h.allOf allOf
  case oneOf => exact list.nonempty hslots parts h.oneOf oneOf
  case anyOf => exact list.nonempty hslots parts h.anyOf anyOf
  case enum => exact (faithful_json.listOf hereditary).nonempty hslots parts h.enum enum
  case pattern => exact text.optional textNotNull hslots parts h.pattern pattern
  case default_ =>
    refine faithful_json.optional (fun u a hu notNull hread => ?_) hslots parts h.default_ default_
    -- Only an infinite or undefined number is read as null without being null.
    have proper : a ≠ .null := fun null => json?_ne_null (finite u hu) notNull (null ▸ hread)
    cases a <;> first | rfl | exact absurd rfl proper
  case tag => exact text.optional textNotNull hslots parts h.tag tag

/-- The induction is on the size of the tree, below which schemas are read again. -/
theorem faithful_schema_below (size : Nat) :
    Faithful (fun t => t.Finite ∧ sizeOf t < size) schema? encodeSchemaOrRef := by
  induction size with
  | zero => exact fun t a ht => absurd ht.2 (Nat.not_lt_zero _)
  | succ size ih =>
    intro t a ht hread
    have below : ∀ u ∈ t.parts, u.Finite ∧ sizeOf u < size := fun u hu =>
      ⟨ht.1.of_mem_parts hu, Nat.lt_of_lt_of_le (sizeOf_part hu) (Nat.le_of_lt_succ ht.2)⟩
    cases found : refPath? t with
    | some path =>
      rw [schema?, found] at hread
      cases hread
      rw [encodeSchemaOrRef, schema?, refPath?_encodeRef]
    | none =>
      obtain ⟨slots, s, hslots, h, rfl⟩ := (schema?_eq_some_iff found).1 hread
      refine h.again ?_ (fun t ht => ht.1) ih hslots below
      exact fun t u ht hu => ⟨ht.1.of_mem_parts hu, Nat.lt_trans (sizeOf_part hu) ht.2⟩

theorem faithful_schema : Faithful Tree.Finite schema? encodeSchemaOrRef :=
  fun t a ht => faithful_schema_below (sizeOf t + 1) t a ⟨ht, Nat.lt_succ_self _⟩

theorem faithful_schemaOrRef : Faithful Tree.Finite schemaOrRef? encodeSchemaOrRef :=
  faithful_schema.readable

/-! ## Parameters, bodies and responses -/

section Members

variable {t t' : Tree} {names : List String} {slots : Slots t} {again : Slots t'} {name : String}

/-- A member for a schema. -/
theorem optional_schema (hslots : t.slots? names = some slots) (finite : t.Finite)
    {schema : Option (OrRef Schema)}
    (was : slots.optional name (fun u => schema? u.1) = some schema)
    (holds : again.Holds name (schema.map encodeSchemaOrRef)) :
    again.optional name (fun u => schema? u.1) = some schema :=
  faithful_schema.optional (fun _ a _ _ _ => isNull_encodeSchemaOrRef a) hslots
    (fun _ mem => finite.of_mem_parts mem) was holds

/-- A member for a text. -/
theorem optional_text (hslots : t.slots? names = some slots) (finite : t.Finite)
    {text : Option String} (was : slots.optional name (fun u => u.1.text?) = some text)
    (holds : again.Holds name (text.map .text)) :
    again.optional name (fun u => u.1.text?) = some text :=
  faithful_text.optional (fun _ _ _ _ _ => rfl) hslots (fun _ mem => finite.of_mem_parts mem) was
    holds

/-- A member for a truth value that is always written. -/
theorem defaulted_bool (hslots : t.slots? names = some slots) (finite : t.Finite) {b : Bool}
    (was : slots.defaulted name false (fun u => u.1.bool?) = some b)
    (holds : again.Holds name (some (.bool b))) :
    again.defaulted name false (fun u => u.1.bool?) = some b :=
  faithful_bool.defaulted rfl hslots (fun _ mem => finite.of_mem_parts mem) was holds

end Members

/-- The member of a media type with what is written for it. -/
def MediaType.fields (m : MediaType) : List (String × Option Json) :=
  [("schema", m.schema.map encodeSchemaOrRef)]

theorem encodeMediaType_eq (m : MediaType) : encodeMediaType m = .object (present m.fields) := by
  rw [encodeMediaType, optionalMember_eq_present]
  rfl

theorem faithful_mediaType : Faithful Tree.Finite mediaType? encodeMediaType := by
  intro t m finite hread
  simp only [mediaType?, bind, Option.bind_eq_some_iff] at hread ⊢
  obtain ⟨slots, hslots, _, schema, h⟩ := hread
  cases h
  rw [encodeMediaType_eq]
  obtain ⟨again, hagain, schema'⟩ :=
    slots?_present (show ["schema"].Nodup by decide) (MediaType.fields _) rfl
  exact ⟨again, hagain, _, optional_schema hslots finite schema schema', rfl⟩

theorem choice?_parameterIn (location : ParameterIn) :
    (Json.text location.name).toTree.choice? ParameterIn.names = some location := by
  cases location <;> rfl

theorem faithful_parameterIn {P : Tree → Prop} :
    Faithful P (fun t => t.choice? ParameterIn.names) (fun location => .text location.name) :=
  fun _ location _ _ => choice?_parameterIn location

/-- The members of a parameter with what is written for them. -/
def Parameter.fields (p : Parameter) : List (String × Option Json) :=
  [("name", some (.text p.name)), ("in", some (.text p.location.name)),
    ("required", some (.bool p.required)), ("schema", p.schema.map encodeSchemaOrRef)]

theorem encodeParameter_eq (p : Parameter) : encodeParameter p = .object (present p.fields) := by
  simp only [encodeParameter, member_eq_present, optionalMember_eq_present, ← present_append]
  rfl

theorem faithful_parameter : Faithful Tree.Finite parameter? encodeParameter := by
  intro t p finite hread
  have parts : ∀ u ∈ t.parts, u.Finite := fun _ mem => finite.of_mem_parts mem
  simp only [parameter?, bind, Option.bind_eq_some_iff] at hread ⊢
  obtain ⟨slots, hslots, _, name, _, location, _, required, _, schema, h⟩ := hread
  cases h
  rw [encodeParameter_eq]
  obtain ⟨again, hagain, name', location', required', schema'⟩ :=
    slots?_present (show ["name", "in", "required", "schema"].Nodup by decide) (Parameter.fields _) rfl
  exact ⟨again, hagain, _, faithful_text.required hslots parts name name',
    _, faithful_parameterIn.required hslots parts location location',
    _, defaulted_bool hslots finite required required',
    _, optional_schema hslots finite schema schema', rfl⟩

theorem refPath?_encodeParameter (p : Parameter) : refPath? (encodeParameter p).toTree = none := by
  rw [encodeParameter_eq]
  exact refPath?_present (show ["name", "in", "required", "schema"].Nodup by decide) (by decide)
    p.fields rfl

theorem faithful_parameterOrRef :
    Faithful Tree.Finite parameterOrRef? (encodeOrRef encodeParameter) :=
  (faithful_parameter.orRef refPath?_encodeParameter).readable

/-- The content of a body or a response. -/
theorem faithful_content :
    Faithful Tree.Finite (fun t => t.dictOf? fun v => mediaType? v.1)
      (encodeDict encodeMediaType) :=
  faithful_mediaType.dictOf hereditary_finite

/-- The members of a request body with what is written for them. -/
def RequestBody.fields (b : RequestBody) : List (String × Option Json) :=
  [("content", some (encodeDict encodeMediaType b.content)), ("required", some (.bool b.required))]

theorem encodeRequestBody_eq (b : RequestBody) :
    encodeRequestBody b = .object (present b.fields) :=
  rfl

theorem faithful_requestBody : Faithful Tree.Finite requestBody? encodeRequestBody := by
  intro t b finite hread
  have parts : ∀ u ∈ t.parts, u.Finite := fun _ mem => finite.of_mem_parts mem
  simp only [requestBody?, bind, Option.bind_eq_some_iff] at hread ⊢
  obtain ⟨slots, hslots, _, content, _, required, h⟩ := hread
  cases h
  rw [encodeRequestBody_eq]
  obtain ⟨again, hagain, content', required'⟩ :=
    slots?_present (show ["content", "required"].Nodup by decide) (RequestBody.fields _) rfl
  exact ⟨again, hagain, _, faithful_content.defaulted rfl hslots parts content content',
    _, defaulted_bool hslots finite required required', rfl⟩

theorem refPath?_encodeRequestBody (b : RequestBody) :
    refPath? (encodeRequestBody b).toTree = none := by
  rw [encodeRequestBody_eq]
  exact refPath?_present (show ["content", "required"].Nodup by decide) (by decide) b.fields rfl

theorem faithful_requestBodyOrRef :
    Faithful Tree.Finite requestBodyOrRef? (encodeOrRef encodeRequestBody) :=
  (faithful_requestBody.orRef refPath?_encodeRequestBody).readable

/-- The members of a response with what is written for them. -/
def Response.fields (r : Response) : List (String × Option Json) :=
  [("description", some (.text r.description)),
    ("content", encodeNonempty (encodeDict encodeMediaType) r.content)]

theorem encodeResponse_eq (r : Response) : encodeResponse r = .object (present r.fields) := by
  simp only [encodeResponse, member_eq_present, listMember_eq_present, ← present_append]
  rfl

theorem faithful_response : Faithful Tree.Finite response? encodeResponse := by
  intro t r finite hread
  have parts : ∀ u ∈ t.parts, u.Finite := fun _ mem => finite.of_mem_parts mem
  simp only [response?, bind, Option.bind_eq_some_iff] at hread ⊢
  obtain ⟨slots, hslots, _, description, _, content, h⟩ := hread
  cases h
  rw [encodeResponse_eq]
  obtain ⟨again, hagain, description', content'⟩ :=
    slots?_present (show ["description", "content"].Nodup by decide) (Response.fields _) rfl
  exact ⟨again, hagain, _, faithful_text.defaulted rfl hslots parts description description',
    _, faithful_content.nonempty hslots parts content content', rfl⟩

theorem refPath?_encodeResponse (r : Response) : refPath? (encodeResponse r).toTree = none := by
  rw [encodeResponse_eq]
  exact refPath?_present (show ["description", "content"].Nodup by decide) (by decide) r.fields rfl

theorem faithful_responseOrRef :
    Faithful Tree.Finite responseOrRef? (encodeOrRef encodeResponse) :=
  (faithful_response.orRef refPath?_encodeResponse).readable

/-! ## Operations and paths -/

/-- The members of an operation with what is written for them. -/
def Operation.fields (o : Operation) : List (String × Option Json) :=
  [("operationId", o.operationId.map .text), ("summary", o.summary.map .text),
    ("tags", encodeNonempty encodeTexts o.tags),
    ("parameters", encodeNonempty (encodeList (encodeOrRef encodeParameter)) o.parameters),
    ("requestBody", o.requestBody.map (encodeOrRef encodeRequestBody)),
    ("responses", encodeNonempty (encodeDict (encodeOrRef encodeResponse)) o.responses),
    ("deprecated", some (.bool o.deprecated))]

theorem encodeOperation_eq (o : Operation) : encodeOperation o = .object (present o.fields) := by
  simp only [encodeOperation, member_eq_present, optionalMember_eq_present, listMember_eq_present,
    ← present_append]
  rfl

theorem faithful_operation : Faithful Tree.Finite operation? encodeOperation := by
  intro t o finite hread
  have parts : ∀ u ∈ t.parts, u.Finite := fun _ mem => finite.of_mem_parts mem
  simp only [operation?, bind, Option.bind_eq_some_iff] at hread ⊢
  obtain ⟨slots, hslots, _, operationId, _, summary, _, tags, _, parameters, _, requestBody, _,
    responses, _, deprecated, h⟩ := hread
  cases h
  rw [encodeOperation_eq]
  obtain ⟨again, hagain, operationId', summary', tags', parameters', requestBody', responses',
    deprecated'⟩ := slots?_present (show (operationMembers.map Prod.fst).Nodup by decide)
      (Operation.fields _) rfl
  have bodyNotNull : ∀ u a, u.Finite → u.isNull = false → requestBodyOrRef? u = some a →
      (encodeOrRef encodeRequestBody a).toTree.isNull = false := by
    intro _ a _ _ _
    cases a <;> rfl
  exact ⟨again, hagain, _, optional_text hslots finite operationId operationId',
    _, optional_text hslots finite summary summary',
    _, (faithful_texts hereditary_finite).nonempty hslots parts tags tags',
    _, (faithful_parameterOrRef.listOf hereditary_finite).nonempty hslots parts parameters
      parameters',
    _, faithful_requestBodyOrRef.optional bodyNotNull hslots parts requestBody requestBody',
    _, (faithful_responseOrRef.dictOf hereditary_finite).nonempty hslots parts responses responses',
    _, defaulted_bool hslots finite deprecated deprecated', rfl⟩

/-- The members of a path item with what is written for them. -/
def PathItem.fields (item : PathItem) : List (String × Option Json) :=
  [("parameters", encodeNonempty (encodeList (encodeOrRef encodeParameter)) item.parameters),
    ("get", item.get.map encodeOperation), ("put", item.put.map encodeOperation),
    ("post", item.post.map encodeOperation), ("delete", item.delete.map encodeOperation),
    ("options", item.options.map encodeOperation), ("head", item.head.map encodeOperation),
    ("patch", item.patch.map encodeOperation), ("trace", item.trace.map encodeOperation)]

theorem encodePathItem_eq (item : PathItem) :
    encodePathItem item = .object (present item.fields) := by
  simp only [encodePathItem, optionalMember_eq_present, listMember_eq_present, ← present_append]
  rfl

theorem faithful_pathItem : Faithful Tree.Finite pathItem? encodePathItem := by
  intro t item finite hread
  have parts : ∀ u ∈ t.parts, u.Finite := fun _ mem => finite.of_mem_parts mem
  simp only [pathItem?, bind, Option.bind_eq_some_iff] at hread ⊢
  obtain ⟨slots, hslots, _, parameters, _, get, _, put, _, post, _, delete, _, options, _, head, _,
    patch, _, trace, h⟩ := hread
  cases h
  rw [encodePathItem_eq]
  obtain ⟨again, hagain, parameters', get', put', post', delete', options', head', patch', trace'⟩ :=
    slots?_present (show (pathItemMembers.map Prod.fst).Nodup by decide) (PathItem.fields _) rfl
  have operation {name : String} {o : Option Operation}
      (was : slots.optional name (fun u => operation? u.1) = some o)
      (holds : again.Holds name (o.map encodeOperation)) :
      again.optional name (fun u => operation? u.1) = some o :=
    faithful_operation.optional (fun _ _ _ _ _ => rfl) hslots parts was holds
  exact ⟨again, hagain, _,
    (faithful_parameterOrRef.listOf hereditary_finite).nonempty hslots parts parameters parameters',
    _, operation get get', _, operation put put', _, operation post post',
    _, operation delete delete', _, operation options options', _, operation head head',
    _, operation patch patch', _, operation trace trace', rfl⟩

/-! ## Documents -/

/-- The members of components with what is written for them. -/
def Components.fields (c : Components) : List (String × Option Json) :=
  [("schemas", encodeNonempty (encodeDict encodeSchemaOrRef) c.schemas),
    ("parameters", encodeNonempty (encodeDict (encodeOrRef encodeParameter)) c.parameters),
    ("requestBodies", encodeNonempty (encodeDict (encodeOrRef encodeRequestBody)) c.requestBodies),
    ("responses", encodeNonempty (encodeDict (encodeOrRef encodeResponse)) c.responses)]

theorem encodeComponents_eq (c : Components) :
    encodeComponents c = .object (present c.fields) := by
  simp only [encodeComponents, listMember_eq_present, ← present_append]
  rfl

theorem faithful_components : Faithful Tree.Finite components? encodeComponents := by
  intro t c finite hread
  have parts : ∀ u ∈ t.parts, u.Finite := fun _ mem => finite.of_mem_parts mem
  simp only [components?, bind, Option.bind_eq_some_iff] at hread ⊢
  obtain ⟨slots, hslots, _, schemas, _, parameters, _, requestBodies, _, responses, h⟩ := hread
  cases h
  rw [encodeComponents_eq]
  obtain ⟨again, hagain, schemas', parameters', requestBodies', responses'⟩ :=
    slots?_present (show (componentsMembers.map Prod.fst).Nodup by decide) (Components.fields _) rfl
  exact ⟨again, hagain,
    _, (faithful_schemaOrRef.dictOf hereditary_finite).nonempty hslots parts schemas schemas',
    _, (faithful_parameterOrRef.dictOf hereditary_finite).nonempty hslots parts parameters
      parameters',
    _, (faithful_requestBodyOrRef.dictOf hereditary_finite).nonempty hslots parts requestBodies
      requestBodies',
    _, (faithful_responseOrRef.dictOf hereditary_finite).nonempty hslots parts responses responses',
    rfl⟩

/-- The members of an information with what is written for them. -/
def Info.fields (i : Info) : List (String × Option Json) :=
  [("title", some (.text i.title)), ("version", some (.text i.version)),
    ("description", i.description.map .text)]

theorem encodeInfo_eq (i : Info) : encodeInfo i = .object (present i.fields) := by
  simp only [encodeInfo, member_eq_present, optionalMember_eq_present, ← present_append]
  rfl

theorem faithful_info : Faithful Tree.Finite info? encodeInfo := by
  intro t i finite hread
  have parts : ∀ u ∈ t.parts, u.Finite := fun _ mem => finite.of_mem_parts mem
  simp only [info?, bind, Option.bind_eq_some_iff] at hread ⊢
  obtain ⟨slots, hslots, _, title, _, version, _, description, h⟩ := hread
  cases h
  rw [encodeInfo_eq]
  obtain ⟨again, hagain, title', version', description'⟩ :=
    slots?_present (show (infoMembers.map Prod.fst).Nodup by decide) (Info.fields _) rfl
  exact ⟨again, hagain, _, faithful_text.required hslots parts title title',
    _, faithful_text.required hslots parts version version',
    _, optional_text hslots finite description description', rfl⟩

/-- The members of a document with what is written for them. -/
def fields (s : Spec) : List (String × Option Json) :=
  [("openapi", some (.text s.openapi)), ("info", some (encodeInfo s.info)),
    ("paths", encodeNonempty (encodeDict encodePathItem) s.paths),
    ("components", s.components.map encodeComponents)]

theorem toJson_eq (s : Spec) : s.toJson = .object (present s.fields) := by
  simp only [toJson, member_eq_present, optionalMember_eq_present, listMember_eq_present,
    ← present_append]
  rfl

theorem faithful_spec : Faithful Tree.Finite ofTree? toJson := by
  intro t s finite hread
  have parts : ∀ u ∈ t.parts, u.Finite := fun _ mem => finite.of_mem_parts mem
  simp only [ofTree?, bind, Option.bind_eq_some_iff] at hread ⊢
  obtain ⟨slots, hslots, _, openapi, _, info, _, paths, _, components, h⟩ := hread
  cases h
  rw [toJson_eq]
  obtain ⟨again, hagain, openapi', info', paths', components'⟩ :=
    slots?_present (show (members.map Prod.fst).Nodup by decide) (fields _) rfl
  exact ⟨again, hagain, _, faithful_text.required hslots parts openapi openapi',
    _, faithful_info.required hslots parts info info',
    _, (faithful_pathItem.dictOf hereditary_finite).nonempty hslots parts paths paths',
    _, faithful_components.optional (fun _ _ _ _ _ => rfl) hslots parts components components', rfl⟩

theorem read_eq_ok_iff {format : Format} {text : String} {s : Spec} :
    read format text = .ok s ↔ ∃ t, format.readTree? (.record members) text = some t ∧
      ofTree? t = some s ∧ Text.startsWith "3." s.openapi = true := by
  unfold read
  dsimp only
  constructor
  · intro h
    split at h
    · next spec found =>
      obtain ⟨spec, same, h⟩ := bind_eq_ok_iff.1 h
      cases same
      split at h
      · next version =>
        cases h
        obtain ⟨t, ht, hs⟩ := Option.bind_eq_some_iff.1 found
        exact ⟨t, ht, hs, version⟩
      · cases h
    · obtain ⟨_, none, -⟩ := bind_eq_ok_iff.1 h
      cases none
  · rintro ⟨t, ht, hs, version⟩
    rw [Option.bind_eq_some_iff.2 ⟨t, ht, hs⟩]
    show (if _ then _ else _) = _
    rw [if_pos version]

/-- A document that was read from a JSON text is read again, in all its parts and in the order of
all its dictionaries, from what it is written as. -/
theorem ofTree?_toJson {text : String} {s : Spec} (h : read .json text = .ok s) :
    ofTree? s.toJson.toTree = some s := by
  obtain ⟨t, ht, hs, -⟩ := read_eq_ok_iff.1 h
  exact faithful_spec t s (Json.finite_readTree? ht) hs

/-- The characters of a text that is made of them. -/
theorem toList_of_eq_ofList {s : String} {cs : List Char} (h : s = .ofList cs) : s.toList = cs := by
  rw [h, String.toList_ofList]

/-- A text with two paths, and with schemas that have a list of types and a single one, a reference
for further properties and a bare yes or no. -/
def forestText : String :=
  "\x7b\"openapi\":\"3.0\",\"info\":\x7b\"title\":\"\",\"version\":\"\"\x7d,
    \"paths\":\x7b\"/b\":\x7b\x7d,\"/a\":\x7b\x7d\x7d,\"components\":\x7b\"schemas\":\x7b
    \"Tree\":\x7b\"type\":[\"object\",\"null\"],
    \"additionalProperties\":\x7b\"$ref\":\"#/Tree\"\x7d\x7d,
    \"Leaf\":\x7b\"type\":\"object\",\"additionalProperties\":false\x7d\x7d\x7d\x7d"

/-- The document of `forestText`. -/
def forest : Spec where
  openapi := "3.0"
  info := { title := "", version := "" }
  paths := [("/b", {}), ("/a", {})]
  components := some {
    schemas := [
      ("Tree", .inline {
        type := some (.multiple [.object, .null])
        additional := some (.schema (.ref "#/Tree")) }),
      ("Leaf", .inline { type := some (.single .object), additional := some (.flag false) })] }

-- Reading goes down as many levels as the text has characters.
set_option maxRecDepth 2000 in
theorem read_forestText : read .json forestText = .ok forest := by
  let word (s : String) : Tree := .atom (.text s)
  let tree : Tree := .record [(word "type", .list [word "object", word "null"]),
    (word "additionalProperties", .record [(word "$ref", word "#/Tree")])]
  let leaf : Tree := .record [(word "type", word "object"),
    (word "additionalProperties", .atom (.bool false))]
  let t : Tree := .record [(word "openapi", word "3.0"),
    (word "info", .record [(word "title", word ""), (word "version", word "")]),
    (word "paths", .record [(word "/b", .record []), (word "/a", .record [])]),
    (word "components", .record [(word "schemas",
      .record [(word "Tree", tree), (word "Leaf", leaf)])])]
  have chars := toList_of_eq_ofList (s := forestText) (by unfold forestText; rfl)
  have ht : Json.readTree? forestText = some t := by
    unfold Json.readTree? Json.tokens?
    rw [chars]
    cbv
  exact read_eq_ok_iff.2 ⟨t, ht, by cbv, by decide⟩

theorem ofTree?_toJson_forest : read .json forestText = .ok forest ∧
    forest.paths.keys = ["/b", "/a"] ∧ ofTree? forest.toJson.toTree = some forest :=
  ⟨read_forestText, rfl, ofTree?_toJson read_forestText⟩

end OpenApiGen.Spec
