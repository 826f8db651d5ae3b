/-!
What the places of a document are for. A format in which the meaning of a text depends on its place
reads a document by its shape.
-/

namespace OpenApiGen

/-- What a place of a document is for. -/
inductive Shape
  /-- A value of any type. -/
  | any
  | text
  /-- A truth value. -/
  | flag
  /-- The name of a constant. -/
  | choice
  /-- Something, or nothing. -/
  | optional (inner : Shape)
  | list (item : Shape)
  /-- A record of values under keys of any name. -/
  | dict (value : Shape)
  /-- A record of declared members. -/
  | record (members : List (String × Shape))
  deriving Repr

end OpenApiGen
