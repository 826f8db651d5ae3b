import OpenApiGen.Model.Basic
import OpenApiGen.Profile.Basic

/-!
Reconciliation takes from a model what its ancestors declare already.
-/

namespace OpenApiGen

/-- Whether a property of a child is left to an ancestor. -/
def ReconcileMode.inherits (mode : ReconcileMode) (ancestor : Model) (p : Property) : Bool :=
  match mode with
  | .none => false
  | .properties => ancestor.ownProperties.any (·.baseName = p.baseName)
  | .inlineEnums =>
    ancestor.hasEnums && p.isEnum && ancestor.enumProperties.any (·.sameAs p)

namespace Model

/-- A model reconciled against one ancestor, which still has all its properties. -/
def reconcile (mode : ReconcileMode) (child ancestor : Model) : Model :=
  let viewed := { child with
    allVars := if child.allVars.isEmpty then child.ownProperties else child.allVars
    parentVars := if child.parentName = some ancestor.name then ancestor.allVars
      else child.parentVars }
  let kept := child.ownProperties.filter fun p => !mode.inherits ancestor p
  if kept.length < child.ownProperties.length then { viewed with ownProperties := kept }.refreshed
  else viewed

/-- A model reconciled against the ancestors from `next` on, nearest first. The walk ends at a model
without parent, at one that is not there, and at one that was visited. -/
def reconcileAlong (mode : ReconcileMode) (models : Dict Model) (visited : List String)
    (next : Option String) (child : Model) : Model :=
  match next with
  | none => child
  | some name =>
    if _new : name ∈ visited then child
    else
      match _found : models.get? name with
      | none => child
      | some ancestor =>
        reconcileAlong mode models (name :: visited) ancestor.parentName
          (child.reconcile mode ancestor)
termination_by models.countOutside visited
decreasing_by exact Dict.countOutside_cons_lt _found _new

/-- A model reconciled against all its ancestors. -/
def reconcileHierarchy (mode : ReconcileMode) (models : Dict Model) (child : Model) : Model :=
  child.reconcileAlong mode models [child.name] child.parentName

end Model

/-- Reconciles each model against its ancestors as they were built, so that the order of the models
does not matter. -/
def reconcileModels (mode : ReconcileMode) (models : List Model) : List Model :=
  let built : Dict Model := Dict.ofEntries (models.map fun m => (m.name, m))
  models.map fun m => m.reconcileHierarchy mode built

end OpenApiGen
