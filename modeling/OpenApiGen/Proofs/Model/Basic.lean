import OpenApiGen.Model.Basic

/-!
# Properties without their positions

Marking the positions of properties changes nothing else about them (`map_unordered_markOrdering`),
so that every view of a property that ignores positions stays as it was.
-/

namespace OpenApiGen

/-- The names that properties have in the document. -/
abbrev baseNames (ps : List Property) : List String :=
  ps.map Property.baseName

@[simp] theorem map_unordered_markOrdering (ps : List Property) :
    (markOrdering ps).map Property.unordered = ps.map Property.unordered := by
  induction ps with
  | nil => rfl
  | cons p rest ih =>
    rw [markOrdering, List.map_cons, List.map_cons, ih]
    rfl

/-- A view of properties that does not depend on their positions is seen without them. -/
theorem map_eq_map_unordered {α : Type} {f : Property → α} (hf : ∀ p, f p.unordered = f p)
    (ps : List Property) : ps.map f = (ps.map Property.unordered).map f := by
  rw [List.map_map]
  exact List.map_congr_left fun p _ => (hf p).symm

theorem map_congr_unordered {α : Type} {f : Property → α} (hf : ∀ p, f p.unordered = f p)
    {ps qs : List Property} (h : ps.map Property.unordered = qs.map Property.unordered) :
    ps.map f = qs.map f := by
  rw [map_eq_map_unordered hf ps, h, ← map_eq_map_unordered hf qs]

theorem map_unordered_filter {keep : Property → Bool} (h : ∀ p, keep p.unordered = keep p)
    (ps : List Property) : (ps.filter keep).map Property.unordered =
      (ps.map Property.unordered).filter keep := by
  rw [List.filter_map]
  exact congrArg _ (List.filter_congr fun p _ => (h p).symm)

@[simp] theorem baseNames_markOrdering (ps : List Property) :
    baseNames (markOrdering ps) = baseNames ps :=
  map_congr_unordered (fun _ => rfl) (map_unordered_markOrdering ps)

end OpenApiGen
