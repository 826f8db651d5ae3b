/-!
Dictionaries that remember the order of their entries: lists of keys with values. A key that is put
again keeps its position and takes the new value.
-/

namespace OpenApiGen

/-- Entries in order. Every dictionary built by `insert` has each key once. -/
abbrev Dict (α : Type) := List (String × α)

namespace Dict

variable {α β : Type}

/-- The value of a key. -/
def get? (d : Dict α) (key : String) : Option α :=
  List.lookup key d

/-- Whether a key has a value. -/
def has (d : Dict α) (key : String) : Bool :=
  (d.get? key).isSome

/-- The keys, in order. -/
def keys (d : Dict α) : List String :=
  d.map Prod.fst

/-- The values, in order of their keys. -/
def values (d : Dict α) : List α :=
  d.map Prod.snd

/-- Gives a key a value: at the position of the key if it is there, else at the end. -/
def insert (d : Dict α) (key : String) (value : α) : Dict α :=
  match d with
  | [] => [(key, value)]
  | (k, v) :: rest => if k = key then (k, value) :: rest else (k, v) :: insert rest key value

/-- The dictionary of a list of entries, put one after the other. -/
def ofEntries (entries : List (String × α)) : Dict α :=
  entries.foldl (fun d e => d.insert e.1 e.2) []

theorem keys_insert (d : Dict α) (key : String) (value : α) :
    (d.insert key value).keys = if key ∈ d.keys then d.keys else d.keys ++ [key] := by
  induction d with
  | nil => simp [insert, keys]
  | cons e rest ih =>
    by_cases h : e.1 = key
    · simp [insert, keys, h]
    · have h' : ¬ key = e.1 := fun e => h e.symm
      by_cases hk : key ∈ rest.map Prod.fst <;> simp_all [insert, keys]

theorem get?_cons (k : String) (v : α) (rest : Dict α) (key : String) :
    get? ((k, v) :: rest) key = if key = k then some v else rest.get? key := by
  unfold get?
  rw [List.lookup_cons]
  by_cases h : key = k
  · rw [if_pos h, beq_iff_eq.2 h]
  · rw [if_neg h, beq_false_of_ne h]

@[simp] theorem get?_insert_self (d : Dict α) (key : String) (value : α) :
    (d.insert key value).get? key = some value := by
  induction d with
  | nil => rw [insert, get?_cons, if_pos rfl]
  | cons e rest ih =>
    obtain ⟨k, v⟩ := e
    rw [insert]
    split
    · next h => rw [get?_cons, if_pos h.symm]
    · next h => rw [get?_cons, if_neg fun e => h e.symm, ih]

/-- The number of keys that are not in a list of names. -/
def countOutside (d : Dict α) (names : List String) : Nat :=
  (d.keys.filter fun key => !names.contains key).length

theorem mem_keys_of_get? {d : Dict α} {key : String} {value : α} (found : d.get? key = some value) :
    key ∈ d.keys := by
  induction d with
  | nil => cases found
  | cons e rest ih =>
    obtain ⟨k, v⟩ := e
    rw [get?_cons] at found
    split at found
    · next h => exact h ▸ List.mem_cons_self
    · exact List.mem_cons_of_mem _ (ih found)

/-- A key that is added to the list no longer counts. -/
theorem countOutside_cons_lt {d : Dict α} {names : List String} {key : String} {value : α}
    (found : d.get? key = some value) (new : key ∉ names) :
    d.countOutside (key :: names) < d.countOutside names := by
  have mem := mem_keys_of_get? found
  unfold countOutside
  generalize d.keys = ks at mem
  induction ks with
  | nil => simp at mem
  | cons k rest ih =>
    have le : (rest.filter fun k => !(key :: names).contains k).length ≤
        (rest.filter fun k => !names.contains k).length := by
      rw [← List.countP_eq_length_filter, ← List.countP_eq_length_filter]
      exact List.countP_mono_left (by simp)
    by_cases hk : k = key
    · subst hk
      rw [List.filter_cons_of_neg (by simp), List.filter_cons_of_pos (by simpa using new)]
      exact Nat.lt_succ_of_le le
    · have := ih (by simpa [Ne.symm hk] using mem)
      by_cases hn : k ∈ names <;> simp_all

end Dict

end OpenApiGen
