import Mathlib.Data.List.Forall2
import Mathlib.Data.List.Nodup
import OpenApiGen.Dict

/-!
# Dictionaries with distinct keys

A dictionary that was put together entry by entry has each key once (`nodup_keys_ofEntries`), and
entries with distinct keys are a dictionary as they stand (`ofEntries_of_nodup`).  In one with
distinct keys, looking up a key finds each of its entries (`get?_of_mem`).
-/

namespace OpenApiGen.Dict

variable {α : Type}

/-! ## Lookup -/

theorem mem_of_get? {d : Dict α} {key : String} {value : α} (found : d.get? key = some value) :
    (key, value) ∈ d := by
  induction d with
  | nil => cases found
  | cons e rest ih =>
    obtain ⟨k, v⟩ := e
    rw [get?_cons] at found
    split at found
    · next h =>
      cases found
      exact h ▸ List.mem_cons_self
    · exact List.mem_cons_of_mem _ (ih found)

theorem mem_keys_of_mem {d : Dict α} {key : String} {value : α} (mem : (key, value) ∈ d) :
    key ∈ d.keys :=
  List.mem_map_of_mem mem

theorem get?_of_mem {d : Dict α} (distinct : d.keys.Nodup) {key : String} {value : α}
    (mem : (key, value) ∈ d) : d.get? key = some value := by
  induction d with
  | nil => cases mem
  | cons e rest ih =>
    obtain ⟨k, v⟩ := e
    obtain ⟨hk, hrest⟩ := List.nodup_cons.1 distinct
    rw [get?_cons]
    rcases List.mem_cons.1 mem with h | later
    · cases h
      rw [if_pos rfl]
    · have : key ≠ k := by
        rintro rfl
        exact hk (mem_keys_of_mem later)
      rw [if_neg this, ih hrest later]

theorem get?_insert_of_ne (d : Dict α) {key other : String} (ne : other ≠ key) (value : α) :
    (d.insert key value).get? other = d.get? other := by
  induction d with
  | nil => rw [insert, get?_cons, if_neg ne]
  | cons e rest ih =>
    obtain ⟨k, v⟩ := e
    rw [insert]
    split
    · next same =>
      subst same
      rw [get?_cons, get?_cons, if_neg ne, if_neg ne]
    · rw [get?_cons, get?_cons, ih]

theorem get?_eq_none_iff {d : Dict α} {key : String} : d.get? key = none ↔ key ∉ d.keys := by
  induction d with
  | nil => exact ⟨fun _ => List.not_mem_nil, fun _ => rfl⟩
  | cons e rest ih =>
    obtain ⟨k, v⟩ := e
    rw [get?_cons]
    have : key ∉ Dict.keys ((k, v) :: rest) ↔ key ≠ k ∧ key ∉ Dict.keys rest := by
      simp [Dict.keys]
    rw [this]
    by_cases h : key = k
    · simp [h]
    · simp [h, ih]

/-- Every key has the same value in another dictionary, which may hold more keys in any order. -/
def Le (d d' : Dict α) : Prop :=
  ∀ key value, d.get? key = some value → d'.get? key = some value

theorem Le.refl (d : Dict α) : Le d d :=
  fun _ _ h => h

theorem le_of_subset {d d' : Dict α} (distinct : d'.keys.Nodup) (sub : d ⊆ d') : Le d d' :=
  fun _ _ found => get?_of_mem distinct (sub (mem_of_get? found))

/-- A dictionary that was made of another, value by value, has for a key what was made of its value
there. -/
theorem get?_eq_some_iff_of_forall₂ {ε β : Type} {f : String → α → Except ε β} {d : Dict α}
    {d' : Dict β} (h : List.Forall₂ (fun e e' => e'.1 = e.1 ∧ f e.1 e.2 = .ok e'.2) d d')
    {key : String} {b : β} : d'.get? key = some b ↔ ∃ a, d.get? key = some a ∧ f key a = .ok b := by
  induction h with
  | nil => simp [get?]
  | @cons e e' _ _ step _ ih =>
    obtain ⟨k, a⟩ := e
    obtain ⟨k', b'⟩ := e'
    obtain ⟨rfl, made⟩ := step
    rw [get?_cons, get?_cons]
    by_cases same : key = k'
    · subst same
      rw [if_pos rfl, if_pos rfl]
      constructor
      · intro h
        cases h
        exact ⟨a, rfl, made⟩
      · rintro ⟨a', h, made'⟩
        cases h
        cases made.symm.trans made'
        rfl
    · rw [if_neg same, if_neg same]
      exact ih

/-- A relation is well founded if each step back leaves fewer keys outside of a list of names, or
as many and something smaller. -/
theorem wellFounded_of_countOutside {ι : Type} {rel : ι → ι → Prop} (d : Dict α)
    (names : ι → List String) (size : ι → Nat)
    (step : ∀ {a b}, rel a b → Prod.Lex (· < ·) (· < ·)
      (d.countOutside (names a), size a) (d.countOutside (names b), size b)) :
    WellFounded rel :=
  Subrelation.wf step (InvImage.wf (fun a => (d.countOutside (names a), size a))
    (Prod.lex Nat.lt_wfRel Nat.lt_wfRel).wf)

/-! ## Dictionaries of entries -/

@[simp] theorem get?_map_values {β : Type} (f : α → β) (d : Dict α) (key : String) :
    get? (d.map fun e => (e.1, f e.2)) key = (d.get? key).map f := by
  induction d with
  | nil => rfl
  | cons e rest ih =>
    obtain ⟨k, v⟩ := e
    rw [List.map_cons, get?_cons, get?_cons, ih]
    split <;> rfl

@[simp] theorem insert_map_values {β : Type} (f : α → β) (d : Dict α) (key : String)
    (value : α) :
    insert (d.map fun e => (e.1, f e.2)) key (f value) =
      (d.insert key value).map fun e => (e.1, f e.2) := by
  induction d with
  | nil => rfl
  | cons e rest ih =>
    obtain ⟨k, v⟩ := e
    rw [List.map_cons, insert, insert, ih]
    split <;> rfl

@[simp] theorem ofEntries_map_values {β : Type} (f : α → β) (entries : List (String × α)) :
    ofEntries (entries.map fun e => (e.1, f e.2)) =
      (ofEntries entries).map fun e => (e.1, f e.2) := by
  unfold ofEntries
  rw [List.foldl_map]
  generalize hd : ([] : Dict α) = d
  have start : ([] : Dict β) = d.map fun e => (e.1, f e.2) := by
    rw [← hd]
    rfl
  rw [start]
  clear hd start
  induction entries generalizing d with
  | nil => rfl
  | cons e rest ih => rw [List.foldl_cons, List.foldl_cons, insert_map_values, ih]

theorem insert_of_notMem {d : Dict α} {key : String} (new : key ∉ d.keys) (value : α) :
    d.insert key value = d ++ [(key, value)] := by
  induction d with
  | nil => rfl
  | cons e rest ih =>
    obtain ⟨k, v⟩ := e
    have hk : k ≠ key := by
      rintro rfl
      exact new List.mem_cons_self
    rw [insert, if_neg hk, ih fun mem => new (List.mem_cons_of_mem _ mem)]
    rfl

theorem nodup_keys_insert {d : Dict α} (distinct : d.keys.Nodup) (key : String) (value : α) :
    (d.insert key value).keys.Nodup := by
  rw [keys_insert]
  split
  · exact distinct
  · next new =>
    rw [List.nodup_append]
    refine ⟨distinct, List.nodup_singleton _, fun a ha b hb => ?_⟩
    rintro rfl
    exact new (List.mem_singleton.1 hb ▸ ha)

theorem eq_or_mem_of_mem_insert {d : Dict α} {key : String} {value : α} {e : String × α}
    (h : e ∈ d.insert key value) : e = (key, value) ∨ e ∈ d := by
  induction d with
  | nil => exact .inl (List.mem_singleton.1 h)
  | cons first rest ih =>
    obtain ⟨k, v⟩ := first
    rw [insert] at h
    split at h
    · next same =>
      subst same
      exact (List.mem_cons.1 h).imp_right (List.mem_cons_of_mem _)
    · rcases List.mem_cons.1 h with h | h
      · exact .inr (h ▸ List.mem_cons_self)
      · exact (ih h).imp_right (List.mem_cons_of_mem _)

theorem mem_of_mem_ofEntries {entries : List (String × α)} {e : String × α}
    (h : e ∈ ofEntries entries) : e ∈ entries := by
  have : ∀ d : Dict α, e ∈ entries.foldl (fun d e => d.insert e.1 e.2) d → e ∈ d ∨ e ∈ entries := by
    clear h
    induction entries with
    | nil => exact fun d h => .inl h
    | cons first rest ih =>
      intro d h
      rcases ih _ h with h | h
      · rcases eq_or_mem_of_mem_insert h with rfl | h
        · exact .inr List.mem_cons_self
        · exact .inl h
      · exact .inr (List.mem_cons_of_mem _ h)
  exact (this [] h).resolve_left List.not_mem_nil

theorem nodup_keys_ofEntries (entries : List (String × α)) : (ofEntries entries).keys.Nodup := by
  unfold ofEntries
  have : (Dict.keys ([] : Dict α)).Nodup := List.nodup_nil
  revert this
  generalize ([] : Dict α) = d
  induction entries generalizing d with
  | nil => exact id
  | cons e rest ih => exact fun h => ih _ (nodup_keys_insert h _ _)

theorem foldl_insert_of_nodup {entries : List (String × α)} {d : Dict α}
    (distinct : ((d ++ entries).map Prod.fst).Nodup) :
    entries.foldl (fun d e => d.insert e.1 e.2) d = d ++ entries := by
  induction entries generalizing d with
  | nil => rw [List.foldl_nil, List.append_nil]
  | cons e rest ih =>
    have new : e.1 ∉ d.keys := by
      rw [List.map_append, List.map_cons, List.nodup_append] at distinct
      intro mem
      exact distinct.2.2 _ mem _ List.mem_cons_self rfl
    rw [List.foldl_cons, insert_of_notMem new, ih, List.append_assoc]
    · rfl
    · rwa [List.append_assoc]

theorem ofEntries_of_nodup {entries : List (String × α)} (distinct : (entries.map Prod.fst).Nodup) :
    ofEntries entries = entries :=
  foldl_insert_of_nodup distinct

end OpenApiGen.Dict
