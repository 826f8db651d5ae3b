import Mathlib.Data.List.Nodup
import OpenApiGen.Operation.Build
import OpenApiGen.Proofs.Results

/-!
# Lists of parameters

Three operations on lists make the parameters of an operation.  Parameters that replace each other
by name and place leave the last of each (`foldl_replaceParameter`, `lastOfEach`); putting required
ones first is a stable sort (`requiredFirst_eq_mergeSort`); and the flag for a parameter that
another one follows is off for the last one only (`hasMore_markFollowed`).
-/

namespace OpenApiGen

/-! ## The last of each key -/

section LastOfEach

variable {α β κ : Type} [DecidableEq κ] {key : α → κ} {l : List α}

/-- The elements without those that a later one of the same key follows. -/
def lastOfEach (key : α → κ) : List α → List α
  | [] => []
  | a :: rest => if key a ∈ rest.map key then lastOfEach key rest else a :: lastOfEach key rest

theorem lastOfEach_sublist (key : α → κ) (l : List α) : (lastOfEach key l).Sublist l := by
  induction l with
  | nil => exact .slnil
  | cons a rest ih =>
    rw [lastOfEach]
    split
    · exact ih.cons a
    · exact ih.cons_cons a

theorem nodup_map_lastOfEach (key : α → κ) (l : List α) : ((lastOfEach key l).map key).Nodup := by
  induction l with
  | nil => exact List.nodup_nil
  | cons a rest ih =>
    rw [lastOfEach]
    split
    · exact ih
    · next new =>
      rw [List.map_cons, List.nodup_cons]
      exact ⟨fun mem => new (((lastOfEach_sublist key rest).map key).subset mem), ih⟩

theorem filter_key_eq_nil_iff {k : κ} :
    l.filter (fun a => key a = k) = [] ↔ k ∉ l.map key := by
  simp

/-- Of the elements of one key the last one is left. -/
theorem filter_lastOfEach (key : α → κ) (l : List α) (k : κ) :
    (lastOfEach key l).filter (fun a => key a = k) =
      ((l.filter fun a => key a = k).getLast?).toList := by
  induction l with
  | nil => rfl
  | cons a rest ih =>
    rw [lastOfEach]
    by_cases same : key a = k
    · subst same
      rw [List.filter_cons_of_pos (by simp), List.getLast?_cons]
      by_cases later : key a ∈ rest.map key
      · have found : rest.filter (fun b => key b = key a) ≠ [] :=
          fun none_ => filter_key_eq_nil_iff.1 none_ later
        obtain ⟨last, hlast⟩ := Option.isSome_iff_exists.1 (List.getLast?_isSome.2 found)
        rw [if_pos later, ih, hlast]
        rfl
      · rw [if_neg later, List.filter_cons_of_pos (by simp), ih, filter_key_eq_nil_iff.2 later]
        rfl
    · rw [List.filter_cons_of_neg (by simpa using same), ← ih]
      split
      · rfl
      · rw [List.filter_cons_of_neg (by simpa using same)]

/-- Elements with distinct keys are found by their keys. -/
theorem filter_key_eq_singleton (distinct : (l.map key).Nodup) {a : α} (mem : a ∈ l) :
    l.filter (fun b => key b = key a) = [a] := by
  induction l with
  | nil => cases mem
  | cons b rest ih =>
    rw [List.map_cons, List.nodup_cons] at distinct
    obtain ⟨new, distinct⟩ := distinct
    rcases List.mem_cons.1 mem with rfl | later
    · rw [List.filter_cons_of_pos (by simp), filter_key_eq_nil_iff.2 new]
    · have other : key b ≠ key a := fun same => new (same ▸ List.mem_map_of_mem later)
      rw [List.filter_cons_of_neg (by simpa using other), ih distinct later]

/-- What is made of each element, with its key, is made of the last of each. -/
theorem mapM_lastOfEach {ε : Type} {f : α → Except ε β} {l' : List β} (h : l.mapM f = .ok l')
    {key' : β → κ} (keeps : ∀ a b, f a = .ok b → key' b = key a) :
    (lastOfEach key l).mapM f = .ok (lastOfEach key' l') := by
  induction l generalizing l' with
  | nil =>
    cases h
    rfl
  | cons a rest ih =>
    rw [List.mapM_cons] at h
    obtain ⟨b, made, h⟩ := bind_eq_ok_iff.1 h
    obtain ⟨rest', hrest, h⟩ := bind_eq_ok_iff.1 h
    cases h
    rw [lastOfEach, lastOfEach, map_eq_of_mapM hrest keeps, keeps a b made]
    split
    · exact ih hrest
    · rw [List.mapM_cons, made, ih hrest]
      rfl

end LastOfEach

/-! ## Parameters that replace each other -/

/-- The name and the place of a parameter. -/
def OperationParameter.key (q : OperationParameter) : String × Option Location :=
  (q.baseName, q.location)

theorem replaceParameter_eq (params : List OperationParameter) (p : OperationParameter) :
    replaceParameter params p = (params.filter fun q => q.key ≠ p.key) ++ [p] := by
  unfold replaceParameter OperationParameter.key
  simp

/-- Parameters that come one after the other leave the known ones of other keys, and the last of
each of their own keys. -/
theorem foldl_replaceParameter (known params : List OperationParameter) :
    params.foldl replaceParameter known =
      (known.filter fun q => q.key ∉ params.map OperationParameter.key) ++
        lastOfEach OperationParameter.key params := by
  induction params generalizing known with
  | nil => simp [lastOfEach]
  | cons p rest ih =>
    -- the first one is known to the rest, and a later one of its key takes it out again
    rw [List.foldl_cons, ih, replaceParameter_eq, lastOfEach, List.filter_append,
      List.filter_filter]
    have kept : (known.filter fun q => q.key ∉ (p :: rest).map OperationParameter.key) =
        known.filter fun q =>
          decide (q.key ∉ rest.map OperationParameter.key) && decide (q.key ≠ p.key) := by
      refine List.filter_congr fun q _ => ?_
      by_cases same : q.key = p.key <;> simp [same]
    rw [kept, List.append_assoc]
    congr 1
    by_cases later : p.key ∈ rest.map OperationParameter.key
    · rw [if_pos later, List.filter_cons_of_neg (by rwa [decide_eq_true_iff, not_not]),
        List.filter_nil, List.nil_append]
    · have alone : ([p].filter fun q => q.key ∉ rest.map OperationParameter.key) = [p] :=
        List.filter_eq_self.2 (by simpa using later)
      rw [if_neg later, alone, List.singleton_append]

/-! ## Required parameters first -/

theorem filter_append_of_parted {α : Type} {p : α → Bool} {first second : List α}
    (yes : ∀ a ∈ first, p a = true) (no : ∀ a ∈ second, p a = false) :
    (first ++ second).filter p = first ∧ (first ++ second).filter (!p ·) = second := by
  rw [List.filter_append, List.filter_append, List.filter_eq_self.2 yes,
    List.filter_eq_nil_iff.2 fun a mem => by simp [no a mem],
    List.filter_eq_nil_iff.2 fun a mem => by simp [yes a mem],
    List.filter_eq_self.2 fun a mem => by simp [no a mem]]
  exact ⟨List.append_nil _, List.nil_append _⟩

/-- A stable sort by a predicate takes the elements that satisfy it, then the others. -/
theorem mergeSort_eq_filter_append_filter {α : Type} (p : α → Bool) (l : List α) :
    l.mergeSort (fun a b => p a || !p b) = l.filter p ++ l.filter (!p ·) := by
  have trans (a b c : α) (hab : (p a || !p b) = true) (hbc : (p b || !p c) = true) :
      (p a || !p c) = true := by
    cases ha : p a <;> cases hb : p b <;> simp_all
  have total (a b : α) : ((p a || !p b) || (p b || !p a)) = true := by
    cases ha : p a <;> simp
  induction l with
  | nil => exact List.mergeSort_nil
  | cons a rest ih =>
    obtain ⟨before, after, sorted, split, notAbove⟩ := List.mergeSort_cons trans total a rest
    rw [ih] at split
    rw [sorted]
    cases ha : p a with
    | true =>
      have none_ : before = [] := by
        refine List.eq_nil_iff_forall_not_mem.2 fun b mem => ?_
        simpa [ha] using notAbove b mem
      rw [none_, List.nil_append] at split ⊢
      rw [List.filter_cons_of_pos ha, List.filter_cons_of_neg (by simp [ha]), ← split,
        List.cons_append]
    | false =>
      -- what stands before is required, and what stands after is not
      have first (b : α) (mem : b ∈ before) : p b = true := by simpa [ha] using notAbove b mem
      have pairwise := List.pairwise_mergeSort trans total (a :: rest)
      rw [sorted, List.pairwise_append, List.pairwise_cons] at pairwise
      have second (b : α) (mem : b ∈ after) : p b = false := by
        simpa [ha] using pairwise.2.1.1 b mem
      have yes (b : α) (mem : b ∈ rest.filter p) : p b = true := (List.mem_filter.1 mem).2
      have no (b : α) (mem : b ∈ rest.filter (!p ·)) : p b = false := by
        simpa using (List.mem_filter.1 mem).2
      obtain ⟨before_, after_⟩ := filter_append_of_parted first second
      obtain ⟨sortedYes, sortedNo⟩ := filter_append_of_parted yes no
      rw [split, before_] at sortedYes
      rw [split, after_] at sortedNo
      rw [List.filter_cons_of_neg (by simp [ha]), List.filter_cons_of_pos (by simp [ha]), sortedYes,
        sortedNo]

theorem requiredFirst_eq_mergeSort (params : List OperationParameter) :
    requiredFirst params = params.mergeSort fun q q' => q.required || !q'.required :=
  (mergeSort_eq_filter_append_filter _ params).symm

theorem requiredFirst_perm (params : List OperationParameter) :
    (requiredFirst params).Perm params :=
  List.filter_append_perm _ params

/-- Some parameter is required exactly if the first one is. -/
theorem any_required_requiredFirst (params : List OperationParameter) :
    (requiredFirst params).any (·.required) = (requiredFirst params).head?.any (·.required) := by
  unfold requiredFirst
  cases h : params.filter (·.required) with
  | nil =>
    have none_ : ∀ q ∈ params.filter (!·.required), q.required = false := by simp
    rw [List.nil_append]
    cases h' : params.filter (!·.required) with
    | nil => rfl
    | cons q rest =>
      rw [h', List.forall_mem_cons] at none_
      simpa [none_.1] using none_.2
  | cons q rest =>
    have required : q.required = true := by
      have mem : q ∈ params.filter (·.required) := h ▸ List.mem_cons_self
      exact (List.mem_filter.1 mem).2
    simp [required]

/-! ## Parameters that another one follows -/

/-- A parameter without the flag for another one that follows. -/
def OperationParameter.unfollowed (q : OperationParameter) : OperationParameter :=
  { q with hasMore := false }

@[simp] theorem map_unfollowed_markFollowed (params : List OperationParameter) :
    (markFollowed params).map OperationParameter.unfollowed =
      params.map OperationParameter.unfollowed := by
  induction params with
  | nil => rfl
  | cons q rest ih =>
    rw [markFollowed, List.map_cons, List.map_cons, ih]
    rfl

/-- The flags alone change: what does not depend on them stays. -/
theorem map_markFollowed {β : Type} {f : OperationParameter → β}
    (unflagged : ∀ q, f q.unfollowed = f q) (params : List OperationParameter) :
    (markFollowed params).map f = params.map f := by
  have same := congrArg (List.map f) (map_unfollowed_markFollowed params)
  have plain : f ∘ OperationParameter.unfollowed = f := funext unflagged
  rwa [List.map_map, List.map_map, plain] at same

/-- Also of marked parameters some one is required exactly if the first one is. -/
theorem any_required_markFollowed (params : List OperationParameter) :
    (markFollowed (requiredFirst params)).any (·.required) =
      (markFollowed (requiredFirst params)).head?.any (·.required) := by
  have same := map_markFollowed (f := (·.required)) (fun _ => rfl) (requiredFirst params)
  have any := congrArg (List.any · id) same
  have head := congrArg (fun l => l.head?.any id) same
  simp only [List.any_map, List.head?_map, Option.any_map, Function.id_comp] at any head
  rw [any, any_required_requiredFirst]
  exact head.symm

@[simp] theorem length_markFollowed (params : List OperationParameter) :
    (markFollowed params).length = params.length := by
  induction params with
  | nil => rfl
  | cons q rest ih => simp [markFollowed, ih]

theorem hasMore_markFollowed (params : List OperationParameter) (i : Nat)
    (h : i < (markFollowed params).length) :
    (markFollowed params)[i].hasMore = false ↔ i + 1 = (markFollowed params).length := by
  rw [length_markFollowed]
  induction params generalizing i with
  | nil => cases h
  | cons q rest ih =>
    cases i with
    | zero => cases rest <;> simp [markFollowed]
    | succ i =>
      have h' : i < (markFollowed rest).length := Nat.lt_of_succ_lt_succ h
      simpa [markFollowed] using ih i h'

end OpenApiGen
