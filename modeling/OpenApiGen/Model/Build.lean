import OpenApiGen.Model.Basic
import OpenApiGen.Naming.Enum
import OpenApiGen.Schema.Declaration

/-!
Models of the component schemas. A model of an `allOf` schema takes over the properties of all its
members, through references and nested compositions; of properties with one name the first counts.
-/

namespace OpenApiGen

/-- The literal of a default value of an abstract type. Dates, binary data and values of another
type have none. -/
def DefaultLiterals.literal? (l : DefaultLiterals) (abstractType : String) (value : Json) :
    Option String :=
  match value with
  | .text s =>
    if abstractType = "string" then some (.ofList (l.quote :: (s.toList ++ [l.quote]))) else none
  | .bool b =>
    if abstractType = "boolean" then some (if b then l.trueLiteral else l.falseLiteral) else none
  | .number n =>
    if abstractType ∈ ["integer", "long", "number", "float", "double"] then some n.toText else none
  | _ => none

/-- The kind of container that a node is. -/
def Node.container? : Node → Option Container
  | .array .. => some .array
  | .map .. => some .map
  | _ => none

namespace Resolver

/-- The kind of container that a node is, or that a reference leads to. -/
def containerOf (r : Resolver) (node : Node) : Except RefError (Option Container) :=
  match node with
  | .ref name => do .ok (← r.library.find name).container?
  | node => .ok node.container?

/-- The cases of an enumeration of literals. -/
def enumCases (r : Resolver) (literals : List String) (dataType : String) : List EnumCase :=
  literals.map fun literal =>
    { name := r.profile.toEnumCase literal dataType
      value := r.profile.toEnumValue literal dataType }

/-- The property of a name and a node. -/
def property (r : Resolver) (key : String) (node : Node) (required : Bool) :
    Except RefError Property := do
  let dataType ← r.declare node
  let baseType ← r.baseType node
  let container ← r.containerOf node
  let name := r.profile.toIdentifier key
  let plain : Property := {
    baseName := key
    name
    dataType
    baseType
    container
    required
    isPrimitive := r.profile.builtins.isPrimitive baseType
    pattern := node.pattern?
    description := node.description?
    defaultValue := do
      let value ← node.default?
      let literals ← r.profile.rules.defaultLiterals
      literals.literal? node.abstractType value }
  match node with
  | .enum _ literals _ =>
    let cases := r.enumCases literals dataType
    .ok { plain with
      isEnum := true
      enumName := some (r.profile.toEnumName name)
      enumValues := cases
      firstEnumValue := cases.head?.map EnumCase.value }
  | _ => .ok plain

/-- The properties of an object. -/
def properties (r : Resolver) (entries : List (String × Node)) (required : List String) :
    Except RefError (List Property) :=
  entries.mapM fun e => r.property e.1 e.2 (required.contains e.1)

/-- Adds the properties whose name is not there yet. -/
def addMissing (known : List Property) (more : List Property) : List Property :=
  more.foldl (fun ps p => if ps.any (·.baseName = p.baseName) then ps else ps ++ [p]) known

mutual

/-- The properties that a node contributes to a model, while the components in `visiting` are being
looked at. -/
def contributed (r : Resolver) (visiting : List String) (node : Node) :
    Except RefError (List Property) :=
  match node with
  | .object entries required _ => r.properties entries required
  | .composed .allOf members _ => r.contributedByAll visiting [] members
  | _ => .ok []
termination_by (r.library.countOutside visiting, sizeOf node)
decreasing_by exact Prod.Lex.right _ (by simp only [Node.composed.sizeOf_spec]; omega)

/-- The properties that members of an `allOf` schema add to those that are known. A reference to a
component that is being looked at adds none. -/
def contributedByAll (r : Resolver) (visiting : List String) (known : List Property)
    (members : List Node) : Except RefError (List Property) :=
  match members with
  | [] => .ok known
  | .ref name :: rest =>
    if _new : name ∈ visiting then r.contributedByAll visiting known rest
    else
      match _found : r.library.find name with
      | .error e => .error e
      | .ok target => do
        let inherited ← r.contributed (name :: visiting) target
        r.contributedByAll visiting (addMissing known inherited) rest
  | member :: rest => do
    let inherited ← r.contributed visiting member
    r.contributedByAll visiting (addMissing known inherited) rest
termination_by (r.library.countOutside visiting, sizeOf members)
decreasing_by
  · exact Prod.Lex.right _ (by simp only [List.cons.sizeOf_spec]; omega)
  · exact Prod.Lex.left _ _ (Dict.countOutside_cons_lt (Library.get?_of_find _found) _new)
  · exact Prod.Lex.right _ (by simp only [List.cons.sizeOf_spec]; omega)
  · exact Prod.Lex.right _ (by simp only [List.cons.sizeOf_spec]; omega)
  · exact Prod.Lex.right _ (by simp only [List.cons.sizeOf_spec]; omega)

end

/-- The model of a component. -/
def model (r : Resolver) (name : String) (node : Node) : Except RefError Model := do
  let named : Model := {
    name, className := r.profile.toModelName name, fileName := r.profile.toModelFile name }
  let built ← match node with
    | .enum _ literals _ => do
      let dataType ← r.declare node
      .ok { named with
        isEnum := true
        enumValues := r.enumCases literals dataType
        dataType := some dataType }
    | .object entries required description => do
      let ownProperties ← r.properties entries required
      .ok { named with description, ownProperties }
    | .composed .. => do
      let ownProperties ← r.contributed [name] node
      let parentName := node.parent?
      .ok { named with
        parentName
        parentClass := parentName.map r.profile.toModelName
        ownProperties }
    | .array .. | .map .. => do
      let tagged := node.tagged name
      let dataType ← r.declare tagged
      let itemType ← r.baseType tagged
      .ok { named with
        isAlias := true
        container := node.container?
        dataType := some dataType
        itemType := some itemType }
    | .primitive .. | .ref .. => do
      let dataType ← r.declare node
      .ok { named with isAlias := true, dataType := some dataType }
  .ok { built with allVars := built.ownProperties }.refreshed

/-- The models of all components, in their order. -/
def models (r : Resolver) : Except RefError (List Model) :=
  r.library.mapM fun e => r.model e.1 e.2

/-- Marks the properties whose type is the model itself. -/
def markRecursive (r : Resolver) (m : Model) : Model :=
  let isSelf (type : String) : Bool :=
    !r.profile.builtins.contains type && eqIgnoringAsciiCase type m.className
  let mark (p : Property) : Property :=
    { p with isRecursive := p.isRecursive || isSelf p.dataType || isSelf p.baseType }
  { m with ownProperties := m.ownProperties.map mark, allVars := m.allVars.map mark }

end Resolver

end OpenApiGen
