import OpenApiGen.Proofs.Dict
import OpenApiGen.Proofs.Results
import OpenApiGen.Schema.Declaration

/-!
# Declared types and further components

A type that can be declared over some components is declared the same over more of them
(`Resolver.Le.declare`): what a declaration looks up is there already, and where there is nothing it
fails.
-/

namespace OpenApiGen

theorem Library.find_eq_ok_iff {library : Library} {name : String} {node : Node} :
    library.find name = .ok node ↔ library.get? name = some node := by
  unfold find
  cases library.get? name with
  | none =>
    constructor
    · intro h
      cases h
    · intro h
      cases h
  | some other =>
    constructor
    · intro h
      cases h
      rfl
    · intro h
      cases h
      rfl

namespace Resolver

/-! ## Names -/

theorem mapType_of_get? {r : Resolver} {name t : String} (h : r.profile.types.get? name = some t) :
    r.mapType name = if r.profile.builtins.contains t then t else r.profile.toModelName t := by
  unfold mapType
  dsimp only
  rw [h]

theorem mapType_of_get?_none {r : Resolver} {name : String} (h : r.profile.types.get? name = none) :
    r.mapType name = if r.profile.builtins.contains name || r.profile.types.hasTarget name then name
      else r.profile.toModelName name := by
  unfold mapType
  dsimp only
  rw [h]

/-! ## References -/

theorem declareWithin_ref {r : Resolver} {opened : List String} {name : String} {target : Node}
    (found : r.library.find name = .ok target) : r.declareWithin opened (.ref name) =
      if target.isContainer = true ∧ name ∉ opened then
        r.declareWithin (name :: opened) (target.tagged name)
      else .ok (r.mapType name) := by
  rw [declareWithin]
  split
  · next missing =>
    rw [found] at missing
    cases missing
  · next other found' =>
    rw [found] at found'
    cases found'
    split <;> rfl

theorem declareWithin_ref_missing {r : Resolver} {opened : List String} {name : String}
    {e : RefError} (missing : r.library.find name = .error e) :
    r.declareWithin opened (.ref name) = .error e := by
  rw [declareWithin]
  split
  · next other missing' =>
    rw [missing] at missing'
    cases missing'
    rfl
  · next found =>
    rw [missing] at found
    cases found

theorem declareWithin_ref_of_not_container {r : Resolver} {opened : List String} {name : String}
    {node : Node} (found : r.library.get? name = some node) (plain : node.isContainer = false) :
    r.declareWithin opened (.ref name) = .ok (r.mapType name) := by
  rw [declareWithin_ref (Library.find_eq_ok_iff.2 found), if_neg]
  rintro ⟨container, -⟩
  rw [plain] at container
  cases container

theorem innermost_ref {r : Resolver} {seen : List String} {name : String} {target : Node}
    (found : r.library.find name = .ok target) : r.innermost seen (.ref name) =
      match target.element? with
      | none => .ok (.ref name)
      | some element =>
        if name ∈ seen then .ok (.ref name) else r.innermost (name :: seen) element := by
  rw [innermost]
  split
  · next missing =>
    rw [found] at missing
    cases missing
  · next other found' =>
    rw [found] at found'
    cases found'
    cases target.element? with
    | none => rfl
    | some element =>
      dsimp only
      split <;> rfl

theorem innermost_ref_missing {r : Resolver} {seen : List String} {name : String} {e : RefError}
    (missing : r.library.find name = .error e) : r.innermost seen (.ref name) = .error e := by
  rw [innermost]
  split
  · next other missing' =>
    rw [missing] at missing'
    cases missing'
    rfl
  · next found =>
    rw [missing] at found
    cases found

/-! ## More components -/

/-- A resolver with the same profile and at least the same components. -/
structure Le (r r' : Resolver) : Prop where
  profile : r'.profile = r.profile
  library : Dict.Le r.library r'.library

namespace Le

variable {r r' : Resolver}

theorem find (le : r.Le r') {name : String} {node : Node} (h : r.library.find name = .ok node) :
    r'.library.find name = .ok node :=
  Library.find_eq_ok_iff.2 (le.library name node (Library.find_eq_ok_iff.1 h))

theorem mapType (le : r.Le r') (name : String) : r'.mapType name = r.mapType name := by
  unfold Resolver.mapType
  rw [le.profile]

theorem composedName (le : r.Le r') (kind : Composition) (tag : String) :
    r'.composedName kind tag = r.composedName kind tag := by
  unfold Resolver.composedName
  rw [le.profile]

theorem itemsName? (le : r.Le r') (items : Node) (tag : Option String) :
    r'.itemsName? items tag = r.itemsName? items tag := by
  unfold Resolver.itemsName?
  simp only [le.composedName]

theorem declareWithin (le : r.Le r') {opened : List String} {node : Node} {t : String}
    (h : r.declareWithin opened node = .ok t) : r'.declareWithin opened node = .ok t := by
  induction opened, node using declareWithin.induct r generalizing t with
  | case1 opened items tag name named =>
    rw [Resolver.declareWithin, named] at h
    rw [Resolver.declareWithin, le.itemsName?, named, le.profile]
    exact h
  | case2 opened items tag unnamed ih =>
    rw [Resolver.declareWithin, unnamed] at h
    rw [Resolver.declareWithin, le.itemsName?, unnamed, le.profile]
    exact bind_ok_imp h (fun _ => ih) fun _ => id
  | case3 opened value tag ih =>
    rw [Resolver.declareWithin] at h ⊢
    rw [le.profile]
    exact bind_ok_imp h (fun _ => ih) fun _ => id
  | case4 opened name e missing =>
    rw [declareWithin_ref_missing missing] at h
    cases h
  | case5 opened name target found new ih =>
    rw [declareWithin_ref found, if_pos new] at h
    rw [declareWithin_ref (le.find found), if_pos new]
    exact ih h
  | case6 opened name target found old =>
    rw [declareWithin_ref found, if_neg old] at h
    rw [declareWithin_ref (le.find found), if_neg old, le.mapType]
    exact h
  | case7 opened kind members tag =>
    rw [Resolver.declareWithin] at h ⊢
    rw [le.composedName]
    exact h
  | case8 opened kind single ih =>
    rw [Resolver.declareWithin] at h ⊢
    exact ih h
  | case9 opened kind members several =>
    match members with
    | [] | _ :: _ :: _ =>
      rw [Resolver.declareWithin] at h ⊢
      · rw [le.mapType]
        exact h
      all_goals simp
    | [single] => exact (several single rfl).elim
  | case10 | case11 | case12 =>
    rw [Resolver.declareWithin] at h ⊢
    rw [le.mapType]
    exact h

theorem innermost (le : r.Le r') {seen : List String} {node rest : Node}
    (h : r.innermost seen node = .ok rest) : r'.innermost seen node = .ok rest := by
  induction seen, node using innermost.induct r generalizing rest with
  | case1 seen items tag ih =>
    rw [Resolver.innermost] at h ⊢
    exact ih h
  | case2 seen value tag ih =>
    rw [Resolver.innermost] at h ⊢
    exact ih h
  | case3 seen name e missing =>
    rw [innermost_ref_missing missing] at h
    cases h
  | case4 seen name target found plain =>
    rw [innermost_ref found, plain] at h
    rw [innermost_ref (le.find found), plain]
    exact h
  | case5 seen name target found element helement old =>
    rw [innermost_ref found, helement] at h
    rw [innermost_ref (le.find found), helement]
    dsimp only at h ⊢
    rw [if_pos old] at h ⊢
    exact h
  | case6 seen name target found element helement new ih =>
    rw [innermost_ref found, helement] at h
    rw [innermost_ref (le.find found), helement]
    dsimp only at h ⊢
    rw [if_neg new] at h ⊢
    exact ih h
  | case7 seen node notArray notMap notRef =>
    rw [innermost.eq_4 _ _ _ notArray notMap notRef] at h ⊢
    exact h

theorem declare (le : r.Le r') {node : Node} {t : String} (h : r.declare node = .ok t) :
    r'.declare node = .ok t :=
  le.declareWithin h

theorem baseType (le : r.Le r') {node : Node} {t : String} (h : r.baseType node = .ok t) :
    r'.baseType node = .ok t :=
  bind_ok_imp h (fun _ => le.innermost) fun _ => le.declare

end Le

end Resolver

end OpenApiGen
