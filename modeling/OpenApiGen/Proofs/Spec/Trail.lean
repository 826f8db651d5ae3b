import OpenApiGen.Proofs.Operation.Extension
import OpenApiGen.Proofs.Schema.Lower

/-!
# Trails of references

References lead from one component to the next, each by its simple name, until something is written
in place (`Trail`).  A parameter is resolved along a trail of any length (`findParameter_eq_ok_iff`),
a request body or a response along one reference at most (`findInline_eq_ok_iff`).
`resolve_eq_ok_iff_trail` puts the three kinds of components side by side.
-/

namespace OpenApiGen.Spec

variable {α : Type} {components : Dict (OrRef α)}

/-- The names that references lead through, in order, up to what is written in place. -/
inductive Trail (components : Dict (OrRef α)) : OrRef α → List String → α → Prop
  | inline (value : α) : Trail components (.inline value) [] value
  | ref {path name : String} {next : OrRef α} {names : List String} {value : α}
      (named : refName path = .ok name) (found : components.get? name = some next)
      (onward : Trail components next names value) :
      Trail components (.ref path) (name :: names) value

theorem trail_inline_iff {value value' : α} {names : List String} :
    Trail components (.inline value) names value' ↔ names = [] ∧ value' = value := by
  constructor
  · rintro ⟨⟩
    exact ⟨rfl, rfl⟩
  · rintro ⟨rfl, rfl⟩
    exact .inline _

/-- A trail from a reference begins with its name. -/
theorem trail_ref_iff {path name : String} {next : OrRef α} (named : refName path = .ok name)
    (found : components.get? name = some next) {names : List String} {value : α} :
    Trail components (.ref path) names value ↔
      ∃ rest, names = name :: rest ∧ Trail components next rest value := by
  constructor
  · rintro (_ | ⟨named', found', onward⟩)
    cases named.symm.trans named'
    cases found.symm.trans found'
    exact ⟨_, rfl, onward⟩
  · rintro ⟨rest, rfl, onward⟩
    exact .ref named found onward

section

variable {reference : OrRef α} {names names' : List String} {value value' : α}

/-- There is one trail from a place. -/
theorem Trail.unique (h : Trail components reference names value)
    (h' : Trail components reference names' value') : names' = names := by
  induction h generalizing names' with
  | inline => exact (trail_inline_iff.1 h').1
  | ref named found _ ih =>
    obtain ⟨rest, rfl, onward⟩ := (trail_ref_iff named found).1 h'
    rw [ih onward]

/-- From a name on a trail, the rest of the trail leads on. -/
theorem Trail.exists_of_mem (h : Trail components reference names value) {name : String}
    (mem : name ∈ names) : ∃ next rest, components.get? name = some next ∧
      Trail components next rest value ∧ rest.length < names.length := by
  induction h with
  | inline => cases mem
  | @ref _ first next rest _ _ found onward ih =>
    rcases List.mem_cons.1 mem with rfl | mem
    · exact ⟨next, rest, found, onward, Nat.lt_succ_self _⟩
    · obtain ⟨next', rest', found', onward', shorter⟩ := ih mem
      exact ⟨next', rest', found', onward', Nat.lt_succ_of_lt shorter⟩

/-- A trail that comes to an end passes each name once. -/
theorem Trail.nodup (h : Trail components reference names value) : names.Nodup := by
  induction h with
  | inline => exact List.nodup_nil
  | @ref _ name next rest _ _ found onward ih =>
    refine List.nodup_cons.2 ⟨fun again => ?_, ih⟩
    obtain ⟨next', rest', found', onward', shorter⟩ := onward.exists_of_mem again
    cases found.symm.trans found'
    rw [onward.unique onward'] at shorter
    exact absurd shorter (Nat.lt_irrefl _)

end

/-- A parameter is found along a trail that passes no name twice, and none of those before. -/
theorem findParameter_eq_ok_iff {parameters : Dict (OrRef Parameter)} {seen : List String}
    {reference : OrRef Parameter} {p : Parameter} :
    findParameter parameters seen reference = .ok p ↔
      ∃ names, Trail parameters reference names p ∧ names.Nodup ∧ ∀ name ∈ names, name ∉ seen := by
  induction seen, reference using findParameter.induct parameters with
  | case1 seen parameter =>
    rw [findParameter, Except.ok.injEq]
    constructor
    · rintro rfl
      exact ⟨[], .inline _, List.nodup_nil, List.forall_mem_nil _⟩
    · rintro ⟨names, trail, -⟩
      exact (trail_inline_iff.1 trail).2.symm
  | case2 seen path e nameless =>
    rw [findParameter_ref_nameless nameless]
    constructor
    · intro h
      cases h
    · rintro ⟨_, _ | ⟨named, -, -⟩, -⟩
      cases nameless.symm.trans named
  | case3 seen path name named old =>
    rw [findParameter_ref_seen named old]
    constructor
    · intro h
      cases h
    · rintro ⟨_, _ | ⟨named', -, -⟩, -, new⟩
      cases named.symm.trans named'
      exact absurd old (new _ List.mem_cons_self)
  | case4 seen path name named new missing =>
    rw [findParameter_ref_missing named new missing]
    constructor
    · intro h
      cases h
    · rintro ⟨_, _ | ⟨named', found, -⟩, -⟩
      cases named.symm.trans named'
      cases missing.symm.trans found
  | case5 seen path name named new next found ih =>
    rw [findParameter_ref named new found, ih]
    simp only [trail_ref_iff named found]
    constructor
    · rintro ⟨rest, onward, distinct, unseen⟩
      refine ⟨name :: rest, ⟨rest, rfl, onward⟩, List.nodup_cons.2 ⟨fun mem => ?_, distinct⟩, ?_⟩
      · exact unseen name mem List.mem_cons_self
      · exact List.forall_mem_cons.2 ⟨new, fun n mem h => unseen n mem (List.mem_cons_of_mem _ h)⟩
    · rintro ⟨_, ⟨rest, rfl, onward⟩, distinct, unseen⟩
      obtain ⟨fresh, distinct⟩ := List.nodup_cons.1 distinct
      refine ⟨rest, onward, distinct, fun n mem h => ?_⟩
      rcases List.mem_cons.1 h with rfl | old
      · exact fresh mem
      · exact unseen n (List.mem_cons_of_mem _ mem) old

/-- Other components are found if they are written in place, or if the first reference leads to what
is. -/
theorem findInline_eq_ok_iff {reference : OrRef α} {value : α} :
    findInline components reference = .ok value ↔
      ∃ names, Trail components reference names value ∧ names.length ≤ 1 := by
  cases reference with
  | inline value' =>
    simp only [findInline, trail_inline_iff, Except.ok.injEq]
    constructor
    · rintro rfl
      exact ⟨[], ⟨rfl, rfl⟩, Nat.zero_le _⟩
    · rintro ⟨_, ⟨-, rfl⟩, -⟩
      rfl
  | ref path =>
    rw [findInline, bind_eq_ok_iff]
    constructor
    · rintro ⟨name, named, h⟩
      split at h
      · next found =>
        cases h
        exact ⟨[name], .ref named found (.inline _), Nat.le_refl _⟩
      · cases h
    · rintro ⟨_, _ | ⟨named, found, onward⟩, short⟩
      have last := List.length_eq_zero_iff.1 (Nat.le_zero.1 (Nat.le_of_succ_le_succ short))
      subst last
      cases onward
      exact ⟨_, named, by rw [found]⟩

/-- A reference to a parameter is followed along the whole trail to the parameter that is written in
place. A reference to a request body or to a response is followed once: where another reference
stands, nothing is found. -/
theorem resolve_eq_ok_iff_trail (spec : Spec) :
    (∀ reference p, spec.resolveParameter reference = .ok p ↔ ∃ names,
      Trail (spec.component Components.parameters) reference names p ∧ names.Nodup) ∧
    (∀ reference body, spec.resolveRequestBody reference = .ok body ↔ ∃ names,
      Trail (spec.component Components.requestBodies) reference names body ∧
        names.length ≤ 1) ∧
    (∀ reference response, spec.resolveResponse reference = .ok response ↔ ∃ names,
      Trail (spec.component Components.responses) reference names response ∧
        names.length ≤ 1) := by
  refine ⟨fun reference p => ?_, fun _ _ => findInline_eq_ok_iff, fun _ _ => findInline_eq_ok_iff⟩
  simp [resolveParameter, findParameter_eq_ok_iff]

/-- A document where one request body, one response and one parameter stand for another. -/
def renamed : Spec where
  openapi := "3.0.3"
  info := { title := "Pets", version := "1" }
  components := some {
    parameters := [("Key", .ref "#/components/parameters/Id"),
      ("Id", .inline { name := "id", location := .path })]
    requestBodies := [("NewPet", .ref "#/components/requestBodies/Pet"),
      ("Pet", .inline { required := true })]
    responses := [("Created", .ref "#/components/responses/Done"),
      ("Done", .inline { description := "done" })] }

/-- The parameter is found where another stands for it, the body and the response are not. -/
theorem not_resolve_renamed :
    Trail (renamed.component Components.parameters) (.ref "#/components/parameters/Key")
        ["Key", "Id"] { name := "id", location := .path } ∧
      renamed.resolveParameter (.ref "#/components/parameters/Key") =
        .ok { name := "id", location := .path } ∧
      Trail (renamed.component Components.requestBodies) (.ref "#/components/requestBodies/NewPet")
        ["NewPet", "Pet"] { required := true } ∧ ["NewPet", "Pet"].Nodup ∧
      renamed.resolveRequestBody (.ref "#/components/requestBodies/NewPet") =
        .error (.unresolved "#/components/requestBodies/NewPet") ∧
      Trail (renamed.component Components.responses) (.ref "#/components/responses/Created")
        ["Created", "Done"] { description := "done" } ∧ ["Created", "Done"].Nodup ∧
      renamed.resolveResponse (.ref "#/components/responses/Created") =
        .error (.unresolved "#/components/responses/Created") := by
  have key : Trail (renamed.component Components.parameters)
      (.ref "#/components/parameters/Key") ["Key", "Id"] { name := "id", location := .path } :=
    .ref rfl rfl (.ref rfl rfl (.inline _))
  refine ⟨key, ?_, .ref rfl rfl (.ref rfl rfl (.inline _)), by decide, rfl,
    .ref rfl rfl (.ref rfl rfl (.inline _)), by decide, rfl⟩
  exact findParameter_eq_ok_iff.2 ⟨_, key, by decide, by decide⟩

end OpenApiGen.Spec
