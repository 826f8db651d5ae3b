import OpenApiGen.Schema.Lower

/-!
The component schemas of a document, by name.
-/

namespace OpenApiGen

/-- Schema nodes by the name of their component. -/
abbrev Library := Dict Node

namespace Library

/-- The nodes of the component schemas of a document. -/
def ofSpec (spec : Spec) : Except RefError Library := do
  let schemas := (spec.components.map Spec.Components.schemas).getD []
  let nodes ← schemas.mapM fun e => do .ok (e.1, ← lower e.2)
  .ok nodes

/-- The node of a component. -/
def find (library : Library) (name : String) : Except RefError Node :=
  match library.get? name with
  | some node => .ok node
  | none => .error (.unresolved name)

theorem get?_of_find {library : Library} {name : String} {node : Node}
    (found : library.find name = .ok node) : library.get? name = some node := by
  unfold find at found
  split at found <;> simp_all

end Library

end OpenApiGen
