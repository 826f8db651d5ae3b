import OpenApiGen.Model.Build
import OpenApiGen.Proofs.Naming.Literal
import OpenApiGen.Proofs.Schema.Spine

/-!
# Default values of properties

Scalars and enumerations with a default value make properties without fail
(`Resolver.exists_property_of_default`).  The literal of a default text is the text itself between
quotes.  It stands for the text exactly if the text has neither the quote nor a backslash in it
(`Resolver.defaultValue_property`).
-/

namespace OpenApiGen.Resolver

/-- A property has the literal of its default value, if the language has literals. -/
theorem exists_property_of_default (r : Resolver) {node : Node} {value : Json}
    (given : node.default? = some value) (key : String) (required : Bool) :
    ∃ property, r.property key node required = .ok property ∧
      property.defaultValue =
        r.profile.rules.defaultLiterals.bind fun l => l.literal? node.abstractType value := by
  cases node with
  | primitive | enum =>
    cases given
    rw [property, declare, declareWithin_of_isPlain (by rfl), baseType_of_isPlain (by rfl)]
    exact ⟨_, rfl, rfl⟩
  | _ => cases given

/-- A property of the abstract type of texts has its default text between quotes, with nothing in it
escaped. -/
theorem defaultValue_property (r : Resolver) {l : DefaultLiterals}
    (literals : r.profile.rules.defaultLiterals = some l) {node : Node}
    (isText : node.abstractType = "string") {text : String}
    (given : node.default? = some (.text text)) (key : String) (required : Bool) :
    ∃ property written, r.property key node required = .ok property ∧
      property.defaultValue = some written ∧
      written.toList = l.quote :: (text.toList ++ [l.quote]) ∧
      (StandsFor l.quote written text ↔ l.quote ∉ text.toList ∧ '\\' ∉ text.toList) := by
  obtain ⟨property, built, default_⟩ := r.exists_property_of_default given key required
  refine ⟨property, .ofList (l.quote :: (text.toList ++ [l.quote])), built, ?_,
    String.toList_ofList, standsFor_between_iff⟩
  rw [default_, literals, isText]
  rfl

/-- The statuses of a pet, with a default. -/
def petStatus : Node := .enum "string" ["on hold", "sold"] (some (.text "on hold"))

theorem defaultValue_property_petStatus : ∃ property written,
    Profile.pythonFlask.rules.defaultLiterals = some ⟨'\x27', "True", "False"⟩ ∧
      petStatus.abstractType = "string" ∧ petStatus.default? = some (.text "on hold") ∧
      Resolver.property ⟨Profile.pythonFlask, []⟩ "status" petStatus true = .ok property ∧
      property.defaultValue = some written ∧ StandsFor '\x27' written "on hold" := by
  have literals : Profile.pythonFlask.rules.defaultLiterals = some ⟨'\x27', "True", "False"⟩ := rfl
  have isText : petStatus.abstractType = "string" := rfl
  have given : petStatus.default? = some (.text "on hold") := rfl
  obtain ⟨property, written, built, default_, -, stands⟩ :=
    defaultValue_property ⟨Profile.pythonFlask, []⟩ literals isText given "status" true
  exact ⟨property, written, literals, isText, given, built, default_, stands.2 (by decide)⟩

/-- A note with an apostrophe in its default. -/
def apostropheNote : Node := .primitive "string" none (some (.text "it\x27s"))

/-- An apostrophe ends the literal of a default text early in Python. -/
theorem not_standsFor_defaultValue : ∃ property,
    Resolver.property ⟨Profile.pythonFlask, []⟩ "note" apostropheNote true = .ok property ∧
      property.defaultValue = some "\x27it\x27s\x27" ∧
      ¬ StandsFor '\x27' "\x27it\x27s\x27" "it\x27s" := by
  have given : apostropheNote.default? = some (.text "it\x27s") := rfl
  obtain ⟨property, built, default_⟩ :=
    exists_property_of_default ⟨Profile.pythonFlask, []⟩ given "note" true
  refine ⟨property, built, default_, fun stands => ?_⟩
  have escaped := standsFor_between_iff.1 (show StandsFor '\x27'
    (.ofList ('\x27' :: ("it\x27s".toList ++ ['\x27']))) "it\x27s" from stands)
  exact absurd escaped.1 (by decide)

end OpenApiGen.Resolver
