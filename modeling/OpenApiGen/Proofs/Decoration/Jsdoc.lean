import OpenApiGen.Decoration.JavaScript
import OpenApiGen.Proofs.Schema.Spelling
import OpenApiGen.Proofs.Text.Sanitize

/-!
# Types in documentation comments

The type in a documentation comment is read off the text of a declared type, from the outside in
(`jsdocChars`).  No leaf is taken for a container, because a leaf starts with a letter
(`exists_letter_of_isLeaf`), and what is taken off a container is its own pair of brackets, however
many there are inside (`jsdocType_wrap`).  So the layers come out as they were put around the leaf
(`jsdocType_wrapAll`), for every type that is declared for JavaScript (`jsdocType_declare`).
-/

namespace OpenApiGen.Decoration

open Text

/-! ## Brackets -/

theorem between?_eq_some_iff {opening closing cs rest : List Char} :
    between? opening closing cs = some rest ↔ cs = opening ++ rest ++ closing := by
  simp only [between?, Option.bind_eq_bind, Option.bind_eq_some_iff, Option.some.injEq,
    dropStart?_eq_some_iff]
  constructor
  · rintro ⟨mid, rfl, last, reversed, rfl⟩
    rw [← List.reverse_reverse mid, reversed, List.reverse_append, List.reverse_reverse,
      List.append_assoc]
  · rintro rfl
    exact ⟨rest ++ closing, List.append_assoc .., rest.reverse, List.reverse_append,
      List.reverse_reverse rest⟩

/-- Nothing is between two texts in a text that starts in another way. -/
theorem between?_eq_none {opening closing cs : List Char} {c : Char}
    (starts : opening.head? = some c) (other : cs.head? ≠ some c) :
    between? opening closing cs = none := by
  refine Option.eq_none_iff_forall_ne_some.2 fun rest found => other ?_
  rw [between?_eq_some_iff.1 found, List.append_assoc, List.head?_append, starts]
  rfl

/-! ## One layer -/

theorem jsdocChars_array (inner : List Char) :
    jsdocChars (['['] ++ inner ++ [']']) = "Array.<".toList ++ jsdocChars inner ++ ['>'] := by
  have array : between? ['['] [']'] (['['] ++ inner ++ [']']) = some inner :=
    between?_eq_some_iff.2 rfl
  rw [jsdocChars]
  split
  · next found =>
    cases array.symm.trans found
    rfl
  · next none => cases array.symm.trans none

theorem jsdocChars_map (inner : List Char) :
    jsdocChars ("\x7bString: ".toList ++ inner ++ ['\x7d']) =
      "Object.<String, ".toList ++ jsdocChars inner ++ ['>'] := by
  have array : between? ['['] [']'] ("\x7bString: ".toList ++ inner ++ ['\x7d']) = none :=
    between?_eq_none rfl (by simp)
  have map : between? "\x7bString: ".toList ['\x7d']
      ("\x7bString: ".toList ++ inner ++ ['\x7d']) = some inner := between?_eq_some_iff.2 rfl
  rw [jsdocChars]
  split
  · next found => cases array.symm.trans found
  · split
    · next found =>
      cases map.symm.trans found
      rfl
    · next none => cases map.symm.trans none

/-- A text that starts with a letter is a leaf. -/
theorem jsdocChars_leaf {leaf : List Char} {c : Char} (head : leaf.head? = some c)
    (letter : c.isAlpha = true) : jsdocChars leaf =
      if Profile.javascriptBuiltins.contains (.ofList leaf) then leaf
      else "module:model/".toList ++ leaf := by
  have array : between? ['['] [']'] leaf = none :=
    between?_eq_none rfl (by rw [head]; rintro ⟨⟩; cases letter)
  have map : between? "\x7bString: ".toList ['\x7d'] leaf = none :=
    between?_eq_none rfl (by rw [head]; rintro ⟨⟩; cases letter)
  rw [jsdocChars]
  split
  · next found => cases array.symm.trans found
  · split
    · next found => cases map.symm.trans found
    · rfl

/-! ## All layers -/

/-- How documentation comments spell containers. -/
def documented : Containers :=
  { array := ⟨"Array.<", ">"⟩, map := ⟨"Object.<String, ", ">"⟩ }

/-- How documentation comments name what is in containers: as it is if it is built in, and by the
module of a model otherwise. -/
def documentedName (leaf : String) : String :=
  if leaf ∈ Profile.javascriptBuiltins then leaf else "module:model/" ++ leaf

theorem jsdocType_wrap (kind : Container) (t : String) :
    jsdocType ((Profile.javascript.containers.brackets kind).wrap t) =
      (documented.brackets kind).wrap (jsdocType t) := by
  apply String.toList_inj.1
  cases kind with
  | array =>
    have spelled : ((Profile.javascript.containers.brackets .array).wrap t).toList =
        ['['] ++ t.toList ++ [']'] := by
      simp [Profile.javascript, Containers.brackets, Brackets.wrap]
    rw [jsdocType, spelled, jsdocChars_array]
    simp [documented, Containers.brackets, Brackets.wrap, jsdocType]
  | map =>
    have spelled : ((Profile.javascript.containers.brackets .map).wrap t).toList =
        "\x7bString: ".toList ++ t.toList ++ ['\x7d'] := by
      simp [Profile.javascript, Containers.brackets, Brackets.wrap]
    rw [jsdocType, spelled, jsdocChars_map]
    simp [documented, Containers.brackets, Brackets.wrap, jsdocType]

theorem jsdocType_leaf {leaf : String} {c : Char} (head : leaf.toList.head? = some c)
    (letter : c.isAlpha = true) : jsdocType leaf = documentedName leaf := by
  rw [jsdocType, jsdocChars_leaf head letter, String.ofList_toList, documentedName]
  by_cases builtin : leaf ∈ Profile.javascriptBuiltins
  · rw [if_pos (List.contains_iff_mem.2 builtin), if_pos builtin, String.ofList_toList]
  · rw [if_neg (mt List.contains_iff_mem.1 builtin), if_neg builtin, String.ofList_append,
      String.ofList_toList, String.ofList_toList]

/-- The layers around a leaf that starts with a letter are spelled one by one. -/
theorem jsdocType_wrapAll (kinds : List Container) {leaf : String} {c : Char}
    (head : leaf.toList.head? = some c) (letter : c.isAlpha = true) :
    jsdocType (Profile.javascript.containers.wrapAll kinds leaf) =
      documented.wrapAll kinds (documentedName leaf) := by
  induction kinds with
  | nil => exact jsdocType_leaf head letter
  | cons kind kinds ih => exact (jsdocType_wrap kind _).trans (congrArg _ ih)

/-! ## Declared types -/

/-- Settings do not change how JavaScript spells containers, and with all of them a leaf starts with
a letter. -/
theorem exists_letter_of_isLeaf {o : Options} {p : Profile}
    (h : Language.javascript.profile.withOptions o = .ok p) {leaf : String} (is : p.IsLeaf leaf) :
    ∃ c, leaf.toList.head? = some c ∧ c.isAlpha = true := by
  rcases is with builtin | named
  · rw [(Profile.types_of_withOptions h).2, Builtins.contains] at builtin
    have capital : ∀ t ∈ Profile.javascriptBuiltins,
        ∃ c, t.toList.head? = some c ∧ c.isAlpha = true := by
      simp [Profile.javascriptBuiltins]
    exact capital leaf (List.contains_iff_mem.1 (or_self_iff.1 (Bool.or_eq_true_iff.1 builtin)))
  · exact named.head

/-- The type of a node in documentation comments, whatever the document and the settings are: if a
type is declared, going down into the node passes some containers and ends in a leaf.  Then the
declared type is the leaf in these containers, and in documentation comments it is what the leaf is
called there in the same containers, as they are spelled there. -/
theorem jsdocType_declare {o : Options} {p : Profile}
    (h : Language.javascript.profile.withOptions o = .ok p) (library : Library) (node : Node) :
    (∀ t, Resolver.declare ⟨p, library⟩ node = .ok t →
        ∃ kinds leaf, Resolver.Layered ⟨p, library⟩ [] node kinds leaf) ∧
      ∀ kinds leaf, Resolver.Layered ⟨p, library⟩ [] node kinds leaf →
        Resolver.declare ⟨p, library⟩ node = .ok (p.containers.wrapAll kinds leaf) ∧
        jsdocType (p.containers.wrapAll kinds leaf) =
          documented.wrapAll kinds (documentedName leaf) := by
  have containers : p.containers = Profile.javascript.containers := by
    obtain ⟨casing, -, rfl⟩ := Profile.withOptions_cases h
    rfl
  refine ⟨fun t ok => Resolver.exists_layered ok, fun kinds leaf layered => ?_⟩
  refine ⟨layered.declareWithin, ?_⟩
  have is : p.IsLeaf leaf := layered.leaf_of (Resolver.isLeaf_mapType h library)
    (fun kind tag => .inr (isTypeName_toModelName h _))
    (fun kind tag => .inr (isTypeName_append_items h (isTypeName_toModelName h _)))
  obtain ⟨c, head, letter⟩ := exists_letter_of_isLeaf h is
  rw [containers]
  exact jsdocType_wrapAll kinds head letter

/-- A list of maps of a model, and the schema of the model is called `[Pet]`. -/
theorem jsdocType_declare_pets :
    let p : Profile := { Profile.javascript with
      naming := { Profile.javascript.naming with modelPrefix := some "my" } }
    let library : Library := [("[Pet]", .object [] [] none)]
    let node : Node := .array (.map (.ref "[Pet]") none) none
    Language.javascript.profile.withOptions { modelPrefix := some "my" } = .ok p ∧
      Resolver.declare ⟨p, library⟩ node = .ok "[\x7bString: MyPet\x7d]" ∧
      jsdocType "[\x7bString: MyPet\x7d]" = "Array.<Object.<String, module:model/MyPet>>" := by
  intro p library node
  have h : Language.javascript.profile.withOptions { modelPrefix := some "my" } = .ok p := rfl
  have name : Resolver.mapType ⟨p, library⟩ "[Pet]" = "MyPet" := by decide +kernel
  have layered : Resolver.Layered ⟨p, library⟩ [] node [.array, .map] "MyPet" := by
    rw [← name]
    exact .array rfl (.map (.model rfl fun container => Bool.false_ne_true container.1))
  obtain ⟨declared, documented⟩ := (jsdocType_declare h library node).2 _ _ layered
  exact ⟨h, declared, documented.trans (by decide)⟩

end OpenApiGen.Decoration
