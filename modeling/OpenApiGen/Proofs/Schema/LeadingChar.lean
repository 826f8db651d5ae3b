import OpenApiGen.Model.Build
import OpenApiGen.Proofs.Naming.LeadingChar
import OpenApiGen.Proofs.Schema.Declaration

/-!
# Leading characters and types

No identifier is part of a type, so that a resolver declares the same types whether its profile
keeps leading characters or not (`Resolver.declareWithin_keeping`).
-/

namespace OpenApiGen.Resolver

/-- A resolver whose profile keeps leading characters, or does not. -/
def keeping (r : Resolver) (keep : Bool) : Resolver :=
  { r with profile := r.profile.keeping keep }

variable {r : Resolver} {keep : Bool}

@[simp] theorem itemsName?_keeping (items : Node) (tag : Option String) :
    (r.keeping keep).itemsName? items tag = r.itemsName? items tag :=
  rfl

@[simp] theorem declareWithin_keeping (opened : List String) (node : Node) :
    (r.keeping keep).declareWithin opened node = r.declareWithin opened node := by
  induction opened, node using declareWithin.induct r with
  | case1 opened items tag name named =>
    rw [declareWithin, declareWithin, itemsName?_keeping, named]
    rfl
  | case2 opened items tag unnamed ih =>
    rw [declareWithin, declareWithin, itemsName?_keeping, unnamed, ih]
    rfl
  | case3 opened value tag ih =>
    rw [declareWithin, declareWithin, ih]
    rfl
  | case4 opened name e missing =>
    rw [declareWithin_ref_missing missing]
    exact declareWithin_ref_missing missing
  | case5 opened name target found new ih =>
    have kept : (r.keeping keep).library.find name = .ok target := found
    rw [declareWithin_ref found, declareWithin_ref kept, if_pos new, if_pos new, ih]
  | case6 opened name target found old =>
    have kept : (r.keeping keep).library.find name = .ok target := found
    rw [declareWithin_ref found, declareWithin_ref kept, if_neg old, if_neg old]
    rfl
  | case7 opened kind members tag =>
    rw [declareWithin, declareWithin]
    rfl
  | case8 opened kind single ih =>
    rw [declareWithin, declareWithin, ih]
  | case9 opened kind members several =>
    rw [declareWithin.eq_6 _ _ _ _ several, declareWithin.eq_6 _ _ _ _ several]
    rfl
  | case10 | case11 | case12 =>
    rw [declareWithin, declareWithin]
    rfl

@[simp] theorem innermost_keeping (seen : List String) (node : Node) :
    (r.keeping keep).innermost seen node = r.innermost seen node := by
  induction seen, node using innermost.induct r with
  | case1 seen items tag ih | case2 seen value tag ih => rw [innermost, innermost, ih]
  | case3 seen name e missing =>
    rw [innermost_ref_missing missing]
    exact innermost_ref_missing missing
  | case4 seen name target found plain =>
    have kept : (r.keeping keep).library.find name = .ok target := found
    rw [innermost_ref found, innermost_ref kept, plain]
  | case5 seen name target found element helement old =>
    have kept : (r.keeping keep).library.find name = .ok target := found
    rw [innermost_ref found, innermost_ref kept, helement]
    dsimp only
    rw [if_pos old, if_pos old]
  | case6 seen name target found element helement new ih =>
    have kept : (r.keeping keep).library.find name = .ok target := found
    rw [innermost_ref found, innermost_ref kept, helement]
    dsimp only
    rw [if_neg new, if_neg new, ih]
  | case7 seen node notArray notMap notRef =>
    rw [innermost.eq_4 _ _ _ notArray notMap notRef, innermost.eq_4 _ _ _ notArray notMap notRef]

@[simp] theorem declare_keeping (node : Node) : (r.keeping keep).declare node = r.declare node :=
  declareWithin_keeping [] node

@[simp] theorem baseType_keeping (node : Node) :
    (r.keeping keep).baseType node = r.baseType node := by
  unfold baseType
  simp only [innermost_keeping, declare_keeping]

@[simp] theorem containerOf_keeping (node : Node) :
    (r.keeping keep).containerOf node = r.containerOf node :=
  rfl

end OpenApiGen.Resolver
