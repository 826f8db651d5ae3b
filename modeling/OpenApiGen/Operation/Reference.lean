import OpenApiGen.Schema.Lower

/-!
References to parameters, request bodies and responses. A reference to a parameter may lead on to
another; one to a body or a response leads to the thing itself.
-/

namespace OpenApiGen.Spec

/-- A kind of component of a document; without components there are none. -/
def component {α : Type} (spec : Spec) (kind : Components → Dict α) : Dict α :=
  (spec.components.map kind).getD []

/-- The parameter that a reference leads to, when the names in `seen` were passed. -/
def findParameter (parameters : Dict (OrRef Parameter)) (seen : List String) :
    OrRef Parameter → Except RefError Parameter
  | .inline parameter => .ok parameter
  | .ref path =>
    match refName path with
    | .error e => .error e
    | .ok name =>
      if _new : name ∈ seen then .error (.unresolved path)
      else
        match _found : parameters.get? name with
        | none => .error (.unresolved path)
        | some next => findParameter parameters (name :: seen) next
termination_by parameters.countOutside seen
decreasing_by exact Dict.countOutside_cons_lt _found _new

/-- The parameter itself. -/
def resolveParameter (spec : Spec) (parameter : OrRef Parameter) : Except RefError Parameter :=
  findParameter (spec.component Components.parameters) [] parameter

/-- What a reference to a component leads to, in one step. -/
def findInline {α : Type} (components : Dict (OrRef α)) : OrRef α → Except RefError α
  | .inline value => .ok value
  | .ref path => do
    let name ← refName path
    match components.get? name with
    | some (.inline value) => .ok value
    | _ => .error (.unresolved path)

/-- The request body itself. -/
def resolveRequestBody (spec : Spec) (body : OrRef RequestBody) : Except RefError RequestBody :=
  findInline (spec.component Components.requestBodies) body

/-- The response itself. -/
def resolveResponse (spec : Spec) (response : OrRef Response) : Except RefError Response :=
  findInline (spec.component Components.responses) response

end OpenApiGen.Spec
