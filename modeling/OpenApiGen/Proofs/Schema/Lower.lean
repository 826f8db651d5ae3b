import OpenApiGen.Proofs.Results
import OpenApiGen.Schema.Lower

/-!
# Lowering, form by form

What holds of the nodes of the parts of a schema carries over to its own node, if each form of node
keeps it (`endsIn_lowerSchema`).  No other proof looks at how the form is chosen.
-/

namespace OpenApiGen

open Spec

variable {P : RefError → Prop} {I Q : Node → Prop}

theorem endsIn_lowerAll {members : List (OrRef Schema)} (h : ∀ s ∈ members, EndsIn I P (lower s)) :
    EndsIn (fun nodes => ∀ node ∈ nodes, I node) P (lowerAll members) := by
  induction members with
  | nil => exact .ok (by simp)
  | cons s rest ih =>
    obtain ⟨first, later⟩ := List.forall_mem_cons.1 h
    rw [lowerAll]
    exact first.bind fun node hnode => (ih later).bind fun nodes hnodes =>
      .ok (List.forall_mem_cons.2 ⟨hnode, hnodes⟩)

theorem endsIn_lowerProperties {properties : List (String × OrRef Schema)}
    (h : ∀ e ∈ properties, EndsIn I P (lower e.2)) :
    EndsIn (fun entries => ∀ e ∈ entries, I e.2) P (lowerProperties properties) := by
  induction properties with
  | nil => exact .ok (by simp)
  | cons e rest ih =>
    obtain ⟨first, later⟩ := List.forall_mem_cons.1 h
    rw [lowerProperties]
    exact first.bind fun node hnode => (ih later).bind fun nodes hnodes =>
      .ok (List.forall_mem_cons.2 ⟨hnode, hnodes⟩)

/-- The node of a schema keeps what is known of its members, of its fields and of an element, if
each form of node does.  A composition takes the fields in as one more member. -/
theorem endsIn_lowerSchema {M : List Node → Prop} {F : List (String × Node) → Prop} {s : Schema}
    (members : ∀ ms ∈ [s.allOf, s.oneOf, s.anyOf], EndsIn M P (lowerAll ms))
    (fields : EndsIn F P (lowerProperties s.properties))
    (items : ∀ e, s.items = some e → EndsIn I P (lower e))
    (value : ∀ v, s.additional = some (.schema v) → EndsIn I P (lower v))
    (untyped : I (.scalar "object"))
    (composed : ∀ kind nodes, M nodes → Q (.composed kind nodes s.tag))
    (extended : ∀ kind nodes entries, M nodes → F entries →
      Q (.composed kind (nodes ++ [.object entries s.required s.description]) s.tag))
    (enum : Q (.enum s.abstractType (s.enum.map Schema.literalText) s.default_))
    (array : ∀ node, I node → Q (.array node s.tag))
    (map : ∀ node, I node → Q (.map node s.tag))
    (object : ∀ entries, F entries → Q (.object entries s.required s.description))
    (primitive : Q (.primitive s.abstractType s.pattern s.default_)) :
    EndsIn Q P (lowerSchema s) := by
  -- The three kinds of compositions are lowered alike.
  have composition (kind : Composition) {lowered : Except RefError (List Node)}
      (h : EndsIn M P lowered) : EndsIn Q P (do
        let members ← lowered
        if s.properties.isEmpty then do
          let siblings ← .ok []
          .ok (.composed kind (members ++ siblings) s.tag)
        else do
          let entries ← lowerProperties s.properties
          let siblings ← .ok [Node.object entries s.required s.description]
          .ok (.composed kind (members ++ siblings) s.tag)) := by
    refine h.bind fun nodes hnodes => ?_
    split
    · refine .ok ?_
      rw [List.append_nil]
      exact composed kind nodes hnodes
    · exact fields.bind fun entries hentries => .ok (extended kind nodes entries hnodes hentries)
  obtain ⟨all, rest⟩ := List.forall_mem_cons.1 members
  obtain ⟨one, rest⟩ := List.forall_mem_cons.1 rest
  obtain ⟨any, -⟩ := List.forall_mem_cons.1 rest
  obtain ⟨type, format, description, properties, required, additional, items?, allOf, oneOf, anyOf,
    literals, pattern, default_, tag⟩ := s
  rw [lowerSchema.eq_def]
  dsimp only
  split
  · exact composition .allOf all
  split
  · exact composition .oneOf one
  split
  · exact composition .anyOf any
  split
  · exact .ok enum
  split
  · cases items? with
    | none => exact .ok (array _ untyped)
    | some e => exact (items e rfl).bind fun node hnode => .ok (array node hnode)
  split
  · split
    · exact (value _ rfl).bind fun node hnode => .ok (map node hnode)
    · exact .ok (map _ untyped)
    · exact fields.bind fun entries hentries => .ok (object entries hentries)
  · exact .ok primitive

end OpenApiGen
