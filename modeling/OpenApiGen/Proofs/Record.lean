import OpenApiGen.Proofs.Results
import OpenApiGen.Proofs.Tree
import OpenApiGen.Record

/-!
# Records that were written to be read

What a reader is given of a tree are parts of it (`Slots.mem_parts_of_lookup` and others).  Of the
tree of a JSON object it is given exactly the members that the object has (`Tree.slots?_toTree`).
-/

namespace OpenApiGen

namespace Tree

/-! ## Parts of any tree -/

theorem sizeOf_part {t u : Tree} (mem : u ∈ t.parts) : sizeOf u < sizeOf t := by
  cases t with
  | list items => exact sizeOf_item mem
  | record members =>
    obtain ⟨m, hm, rfl⟩ := List.mem_map.1 mem
    exact sizeOf_member hm
  | atom _ | unreadable => cases mem

theorem mem_parts_of_items? {t : Tree} {items : List (Part t)} (h : t.items? = some items)
    {p : Part t} (mem : p ∈ items) : p.1 ∈ t.parts := by
  cases t with
  | list trees =>
    cases h
    obtain ⟨u, -, rfl⟩ := List.mem_map.1 mem
    exact u.2
  | atom _ | record _ | unreadable => cases h

theorem mem_parts_of_members? {t : Tree} {members : List (Tree × Part t)}
    (h : t.members? = some members) {m : Tree × Part t} (mem : m ∈ members) : m.2.1 ∈ t.parts := by
  cases t with
  | record entries =>
    cases h
    obtain ⟨e, -, rfl⟩ := List.mem_map.1 mem
    exact List.mem_map_of_mem e.2
  | atom _ | list _ | unreadable => cases h

theorem mem_of_listOf? {α : Type} {t : Tree} {f : Part t → Option α} {values : List α}
    (h : t.listOf? f = some values) {a : α} (mem : a ∈ values) :
    ∃ p : Part t, p.1 ∈ t.parts ∧ f p = some a := by
  obtain ⟨items, hitems, h⟩ := Option.bind_eq_some_iff.1 h
  obtain ⟨p, hp, hf⟩ := exists_mem_of_mapM_option h mem
  exact ⟨p, mem_parts_of_items? hitems hp, hf⟩

theorem mem_of_dictOf? {α : Type} {t : Tree} {f : Part t → Option α} {d : Dict α}
    (h : t.dictOf? f = some d) {e : String × α} (mem : e ∈ d) :
    ∃ p : Part t, p.1 ∈ t.parts ∧ f p = some e.2 := by
  obtain ⟨members, hmembers, h⟩ := Option.bind_eq_some_iff.1 h
  obtain ⟨entries, hentries, h⟩ := Option.bind_eq_some_iff.1 h
  cases h
  obtain ⟨m, hm, hread⟩ := exists_mem_of_mapM_option hentries (Dict.mem_of_mem_ofEntries mem)
  obtain ⟨key, -, hread⟩ := Option.bind_eq_some_iff.1 hread
  obtain ⟨value, hvalue, hread⟩ := Option.bind_eq_some_iff.1 hread
  cases hread
  exact ⟨m.2, mem_parts_of_members? hmembers hm, hvalue⟩

theorem nodup_keys_of_dictOf? {α : Type} {t : Tree} {f : Part t → Option α} {d : Dict α}
    (h : t.dictOf? f = some d) : d.keys.Nodup := by
  obtain ⟨members, -, h⟩ := Option.bind_eq_some_iff.1 h
  obtain ⟨entries, -, h⟩ := Option.bind_eq_some_iff.1 h
  cases h
  exact Dict.nodup_keys_ofEntries entries

/-! ## Slots of any tree -/

theorem given_mem_of_fillSlot {α : Type} {slots slots' : List (Slot α)} {i : Nat} {a b : α}
    (h : fillSlot slots i a = some slots') (mem : .given b ∈ slots') :
    .given b ∈ slots ∨ b = a := by
  unfold fillSlot at h
  split at h
  · cases h
  · cases h
    rcases List.mem_or_eq_of_mem_set mem with mem | same
    · exact .inl mem
    · cases same
      exact .inr rfl
  · cases h
    exact .inl mem

theorem given_mem_of_foldlM {t : Tree} {names : List String} {members : List (Tree × Part t)}
    {slots slots' : List (Slot (Part t))}
    (h : members.foldlM (fun slots m => do fillSlot slots (← fieldOf? names m.1) m.2) slots =
      some slots') {p : Part t} (mem : .given p ∈ slots') :
    .given p ∈ slots ∨ ∃ m ∈ members, m.2 = p := by
  induction members generalizing slots with
  | nil =>
    cases h
    exact .inl mem
  | cons m rest ih =>
    rw [List.foldlM_cons] at h
    obtain ⟨next, hnext, h⟩ := Option.bind_eq_some_iff.1 h
    obtain ⟨i, -, hfill⟩ := Option.bind_eq_some_iff.1 hnext
    rcases ih h with earlier | ⟨m', hm', same⟩
    · rcases given_mem_of_fillSlot hfill earlier with earlier | rfl
      · exact .inl earlier
      · exact .inr ⟨m, List.mem_cons_self, rfl⟩
    · exact .inr ⟨m', List.mem_cons_of_mem _ hm', same⟩

/-- What a record gives for a member is a part of it. -/
theorem mem_parts_of_slots? {t : Tree} {names : List String} {slots : Slots t}
    (h : t.slots? names = some slots) {name : String} {p : Part t}
    (given : slots.lookup name = some (.given p)) : p.1 ∈ t.parts := by
  have mem := Dict.mem_of_get? given
  cases t with
  | list items =>
    dsimp only [slots?] at h
    split at h
    · cases h
    · cases h
      rcases List.mem_append.1 (List.of_mem_zip mem).2 with mem | mem
      · obtain ⟨u, -, same⟩ := List.mem_map.1 mem
        cases same
        exact u.2
      · cases List.eq_of_mem_replicate mem
  | record entries =>
    obtain ⟨filled, hfilled, h⟩ := Option.bind_eq_some_iff.1 h
    cases h
    rcases given_mem_of_foldlM hfilled (List.of_mem_zip mem).2 with start | ⟨m, hm, same⟩
    · obtain ⟨_, -, omitted⟩ := List.mem_map.1 start
      cases omitted
    · exact same ▸ mem_parts_of_members? rfl hm
  | atom _ | unreadable => cases h

/-! ## Trees of arrays and objects -/

theorem items?_list (trees : List Tree) :
    ∃ parts, (list trees).items? = some parts ∧ parts.map Subtype.val = trees := by
  refine ⟨_, rfl, ?_⟩
  rw [List.map_map]
  exact List.attach_map_subtype_val trees

theorem members?_record (trees : List (Tree × Tree)) :
    ∃ parts, (record trees).members? = some parts ∧
      parts.map (fun m => (m.1, m.2.1)) = trees := by
  refine ⟨_, rfl, ?_⟩
  rw [List.map_map]
  exact List.attach_map_subtype_val trees

theorem items?_toTree (items : List Json) : ∃ parts, (Json.array items).toTree.items? = some parts ∧
    parts.map Subtype.val = items.map Json.toTree := by
  obtain ⟨parts, hparts, view⟩ := items?_list (Json.itemTrees items)
  exact ⟨parts, hparts, view.trans (Json.itemTrees_eq_map items)⟩

theorem members?_toTree (members : List (String × Json)) :
    ∃ parts, (Json.object members).toTree.members? = some parts ∧
      parts.map (fun m => (m.1, m.2.1)) =
        members.map fun m => (atom (.text m.1), m.2.toTree) := by
  obtain ⟨parts, hparts, view⟩ := members?_record (Json.memberTrees members)
  exact ⟨parts, hparts, view.trans (Json.memberTrees_eq_map members)⟩

theorem listOf?_toTree {α : Type} {values : List α} {encode : α → Json}
    {f : Part (Json.array (values.map encode)).toTree → Option α}
    (reads : ∀ a ∈ values, ∀ p, p.1 = (encode a).toTree → f p = some a) :
    (Json.array (values.map encode)).toTree.listOf? f = some values := by
  obtain ⟨parts, hparts, view⟩ := items?_toTree (values.map encode)
  rw [List.map_map] at view
  unfold listOf?
  rw [hparts]
  exact mapM_eq_some_of_map view reads

theorem dictOf?_toTree {α : Type} {d : Dict α} {encode : α → Json} (distinct : d.keys.Nodup)
    {f : Part (Json.object (d.map fun e => (e.1, encode e.2))).toTree → Option α}
    (reads : ∀ e ∈ d, ∀ p, p.1 = (encode e.2).toTree → f p = some e.2) :
    (Json.object (d.map fun e => (e.1, encode e.2))).toTree.dictOf? f = some d := by
  obtain ⟨parts, hparts, view⟩ := members?_toTree (d.map fun e => (e.1, encode e.2))
  rw [List.map_map] at view
  have entries : parts.mapM (fun m => do
      let key ← m.1.text?
      let value ← f m.2
      some (key, value)) = some d := by
    refine mapM_eq_some_of_map view fun e he m hm => ?_
    obtain ⟨hkey, hvalue⟩ := Prod.mk.inj hm
    rw [hkey, reads e he m.2 hvalue]
    rfl
  unfold dictOf?
  rw [hparts]
  show (parts.mapM _ >>= fun entries => some (Dict.ofEntries entries)) = some d
  rw [entries]
  exact congrArg some (Dict.ofEntries_of_nodup distinct)

/-! ## Slots of an object -/

section Fill

variable {α : Type} {names : List String} {F : String → Slot α} {key : String}

theorem set_idxOf (distinct : names.Nodup) (a : Slot α) :
    (names.map F).set (names.idxOf key) a =
      names.map fun name => if name = key then a else F name := by
  induction names with
  | nil => rfl
  | cons name rest ih =>
    obtain ⟨first, tail⟩ := List.nodup_cons.1 distinct
    by_cases h : name = key
    · subst h
      rw [List.idxOf_cons_self, List.map_cons, List.set_cons_zero, List.map_cons, if_pos rfl]
      congr 1
      refine List.map_congr_left fun other mem => (if_neg ?_).symm
      rintro rfl
      exact first mem
    · rw [List.idxOf_cons_ne _ h, List.map_cons, List.set_cons_succ, ih tail, List.map_cons,
        if_neg h]

theorem fillSlot_idxOf (distinct : names.Nodup) (free : F key = .omitted) (a : α) :
    fillSlot (names.map F) (names.idxOf key) a =
      some (names.map fun name => if name = key then .given a else F name) := by
  unfold fillSlot
  by_cases mem : key ∈ names
  · have : (names.map F)[names.idxOf key]? = some .omitted := by
      rw [List.getElem?_map, List.getElem?_idxOf mem, Option.map_some, free]
    rw [this]
    exact congrArg some (set_idxOf distinct _)
  · have : (names.map F)[names.idxOf key]? = none := by
      rw [List.idxOf_eq_length mem]
      simp
    rw [this]
    refine congrArg some (List.map_congr_left fun name hname => (if_neg ?_).symm)
    rintro rfl
    exact mem hname

theorem lookup_zip_map {name : String} (mem : name ∈ names) :
    (names.zip (names.map F)).lookup name = some (F name) := by
  induction names with
  | nil => cases mem
  | cons first rest ih =>
    show Dict.get? ((first, F first) :: rest.zip (rest.map F)) name = _
    rw [Dict.get?_cons]
    split
    · next same => rw [same]
    · next other => exact ih ((List.mem_cons.1 mem).resolve_left other)

end Fill

theorem foldlM_fillSlot {t : Tree} {names : List String} (distinct : names.Nodup)
    {members : List (String × Json)} (keys : (members.map Prod.fst).Nodup)
    {parts : List (Tree × Part t)}
    (view : parts.map (fun m => (m.1, m.2.1)) =
      members.map fun m => (atom (.text m.1), m.2.toTree))
    {F : String → Slot (Part t)} (free : ∀ m ∈ members, F m.1 = .omitted) :
    ∃ G, parts.foldlM (fun slots m => do fillSlot slots (← fieldOf? names m.1) m.2)
        (names.map F) = some (names.map G) ∧
      (∀ name, name ∉ members.map Prod.fst → G name = F name) ∧
      ∀ m ∈ members, ∃ p : Part t, p.1 = m.2.toTree ∧ G m.1 = .given p := by
  induction members generalizing parts F with
  | nil =>
    rw [List.map_nil, List.map_eq_nil_iff] at view
    subst view
    exact ⟨F, rfl, fun _ _ => rfl, List.forall_mem_nil _⟩
  | cons member rest ih =>
    obtain ⟨key, value⟩ := member
    obtain ⟨new, keys⟩ := List.nodup_cons.1 keys
    change key ∉ rest.map Prod.fst at new
    obtain ⟨freeKey, freeRest⟩ := List.forall_mem_cons.1 free
    rw [List.map_cons, List.map_eq_cons_iff] at view
    obtain ⟨⟨k, part⟩, parts, rfl, hview, view⟩ := view
    obtain ⟨rfl, hpart⟩ := Prod.mk.inj hview
    have freeRest' : ∀ m ∈ rest, (if m.1 = key then .given part else F m.1) = .omitted := by
      intro m hm
      have other : m.1 ≠ key := by
        rintro rfl
        exact new (List.mem_map_of_mem hm)
      rw [if_neg other, freeRest m hm]
    obtain ⟨G, hG, outside, inside⟩ :=
      ih keys view (F := fun name => if name = key then .given part else F name) freeRest'
    refine ⟨G, ?_, fun name hname => ?_, List.forall_mem_cons.2 ⟨⟨part, hpart, ?_⟩, inside⟩⟩
    · rw [List.foldlM_cons, ← hG]
      show (fillSlot (names.map F) (names.idxOf key) part >>= _) = _
      rw [fillSlot_idxOf distinct freeKey]
      rfl
    · rw [List.map_cons, List.mem_cons, not_or] at hname
      rw [outside name hname.2, if_neg hname.1]
    · rw [outside key new, if_pos rfl]

end Tree

/-- What slots say about a member that has a value, or that is left out. -/
def Slots.Holds {t : Tree} (slots : Slots t) (name : String) : Option Json → Prop
  | some value => ∃ p : Part t, p.1 = value.toTree ∧ slots.lookup name = some (.given p)
  | none => slots.lookup name = some .omitted

/-- The slots of an object say what its members are. -/
theorem Tree.slots?_toTree {names : List String} (distinct : names.Nodup)
    {members : List (String × Json)} (keys : (members.map Prod.fst).Nodup) :
    ∃ slots, (Json.object members).toTree.slots? names = some slots ∧
      ∀ name ∈ names, slots.Holds name (Dict.get? members name) := by
  obtain ⟨parts, hparts, view⟩ := members?_toTree members
  obtain ⟨G, hG, outside, inside⟩ :=
    foldlM_fillSlot distinct keys view (F := fun _ => .omitted) fun _ _ => rfl
  refine ⟨names.zip (names.map G), ?_, fun name mem => ?_⟩
  · show ((Json.object members).toTree.members? >>= fun parts => _) = _
    rw [hparts]
    show (parts.foldlM _ _ >>= fun slots => some (names.zip slots)) = _
    rw [hG]
    rfl
  · cases found : Dict.get? members name with
    | none =>
      rw [Dict.get?_eq_none_iff] at found
      show List.lookup _ _ = _
      rw [lookup_zip_map mem, outside name found]
    | some value =>
      obtain ⟨p, hp, hgiven⟩ := inside _ (Dict.mem_of_get? found)
      refine ⟨p, hp, ?_⟩
      rw [lookup_zip_map mem, hgiven]

end OpenApiGen
