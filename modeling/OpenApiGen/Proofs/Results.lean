import Mathlib.Data.List.Forall2
import OpenApiGen.Error

/-!
# Computations that can fail

When a chain of computations succeeds (`bind_eq_ok_iff`), and when one that runs over a list does
(`mapM_eq_ok_iff`): each step must succeed.  What is known of the errors of each step is known of
those of the whole (`FailsWith.bind`, `FailsWith.mapM`), and steps may hand on what they know of
their values (`EndsIn.bind`).
-/

namespace OpenApiGen

variable {ε α β : Type}

theorem bind_eq_ok_iff {x : Except ε α} {f : α → Except ε β} {b : β} :
    x >>= f = .ok b ↔ ∃ a, x = .ok a ∧ f a = .ok b := by
  cases x with
  | error e =>
    constructor
    · intro h
      cases h
    · rintro ⟨a, h, -⟩
      cases h
  | ok a =>
    constructor
    · intro h
      exact ⟨a, rfl, h⟩
    · rintro ⟨a', h, hb⟩
      cases h
      exact hb

theorem bind_eq_error_iff {x : Except ε α} {f : α → Except ε β} {e : ε} :
    x >>= f = .error e ↔ x = .error e ∨ ∃ a, x = .ok a ∧ f a = .error e := by
  cases x with
  | error e' =>
    constructor
    · intro h
      cases h
      exact .inl rfl
    · rintro (h | ⟨a, h, -⟩)
      · cases h
        rfl
      · cases h
  | ok a =>
    constructor
    · intro h
      exact .inr ⟨a, rfl, h⟩
    · rintro (h | ⟨a', h, he⟩)
      · cases h
      · cases h
        exact he

theorem map_eq_ok_iff {f : α → β} {x : Except ε α} {b : β} :
    f <$> x = .ok b ↔ ∃ a, x = .ok a ∧ f a = b := by
  cases x <;> simp

theorem mapError_eq_ok_iff {ε' : Type} {f : ε → ε'} {x : Except ε α} {a : α} :
    x.mapError f = .ok a ↔ x = .ok a := by
  cases x with
  | error e => exact ⟨nofun, nofun⟩
  | ok b => exact ⟨fun h => congrArg _ (Except.ok.inj h), fun h => congrArg _ (Except.ok.inj h)⟩

theorem mapError_eq_error_iff {ε' : Type} {f : ε → ε'} {x : Except ε α} {e : ε'} :
    x.mapError f = .error e ↔ ∃ e', x = .error e' ∧ f e' = e := by
  cases x with
  | error e' =>
    constructor
    · intro h
      cases h
      exact ⟨e', rfl, rfl⟩
    · rintro ⟨_, h, rfl⟩
      cases h
      rfl
  | ok a =>
    constructor
    · intro h
      cases h
    · rintro ⟨_, h, -⟩
      cases h

/-- A chain that succeeds does so with any steps that succeed wherever its own do. -/
theorem bind_ok_imp {x x' : Except ε α} {f f' : α → Except ε β} {b : β} (h : x >>= f = .ok b)
    (first : ∀ a, x = .ok a → x' = .ok a) (next : ∀ a, f a = .ok b → f' a = .ok b) :
    x' >>= f' = .ok b := by
  obtain ⟨a, ha, hb⟩ := bind_eq_ok_iff.1 h
  exact bind_eq_ok_iff.2 ⟨a, first a ha, next a hb⟩

theorem mapM_eq_ok_iff {f : α → Except ε β} {l : List α} {l' : List β} :
    l.mapM f = .ok l' ↔ List.Forall₂ (fun a b => f a = .ok b) l l' := by
  induction l generalizing l' with
  | nil =>
    rw [List.mapM_nil, List.forall₂_nil_left_iff]
    constructor
    · intro h
      cases h
      rfl
    · rintro rfl
      rfl
  | cons a l ih =>
    rw [List.mapM_cons, bind_eq_ok_iff, List.forall₂_cons_left_iff]
    constructor
    · rintro ⟨b, hb, h⟩
      obtain ⟨rest, hrest, h⟩ := bind_eq_ok_iff.1 h
      cases h
      exact ⟨b, rest, hb, ih.1 hrest, rfl⟩
    · rintro ⟨b, rest, hb, hrest, rfl⟩
      exact ⟨b, hb, bind_eq_ok_iff.2 ⟨rest, ih.2 hrest, rfl⟩⟩

theorem exists_mem_of_forall₂ {R : α → β → Prop} {l : List α} {l' : List β}
    (h : List.Forall₂ R l l') {b : β} (mem : b ∈ l') : ∃ a ∈ l, R a b := by
  induction h with
  | nil => cases mem
  | @cons a _ _ _ related _ ih =>
    rcases List.mem_cons.1 mem with rfl | later
    · exact ⟨a, List.mem_cons_self, related⟩
    · obtain ⟨a', ha, related⟩ := ih later
      exact ⟨a', List.mem_cons_of_mem _ ha, related⟩

theorem exists_mem_of_mapM {f : α → Except ε β} {l : List α} {l' : List β} (h : l.mapM f = .ok l')
    {b : β} (mem : b ∈ l') : ∃ a ∈ l, f a = .ok b :=
  exists_mem_of_forall₂ (mapM_eq_ok_iff.1 h) mem

/-- A run over a list that succeeds has a value for each element. -/
theorem exists_value_of_mapM {f : α → Except ε β} {l : List α} {l' : List β}
    (h : l.mapM f = .ok l') {a : α} (mem : a ∈ l) : ∃ b ∈ l', f a = .ok b :=
  exists_mem_of_forall₂ (mapM_eq_ok_iff.1 h).flip mem

/-- A run over a list ends where its first step fails. -/
theorem mapM_cons_eq_error {f : α → Except ε β} {a : α} {e : ε} (h : f a = .error e) (l : List α) :
    (a :: l).mapM f = .error e := by
  rw [List.mapM_cons, h]
  rfl

theorem exists_mapM_eq_ok {f : α → Except ε β} {l : List α} (h : ∀ a ∈ l, ∃ b, f a = .ok b) :
    ∃ l', l.mapM f = .ok l' := by
  simp only [mapM_eq_ok_iff]
  induction l with
  | nil => exact ⟨[], .nil⟩
  | cons a l ih =>
    obtain ⟨⟨b, hb⟩, hl⟩ := List.forall_mem_cons.1 h
    obtain ⟨rest, hrest⟩ := ih hl
    exact ⟨b :: rest, .cons hb hrest⟩

theorem mapM_ok_imp {f f' : α → Except ε β} {l : List α} {l' : List β} (h : l.mapM f = .ok l')
    (step : ∀ a b, f a = .ok b → f' a = .ok b) : l.mapM f' = .ok l' :=
  mapM_eq_ok_iff.2 ((mapM_eq_ok_iff.1 h).imp step)

theorem foldlM_ok_imp {f f' : β → α → Except ε β} {l : List α} {b c : β}
    (h : l.foldlM f b = .ok c) (step : ∀ b a c, f b a = .ok c → f' b a = .ok c) :
    l.foldlM f' b = .ok c := by
  induction l generalizing b with
  | nil => exact h
  | cons a rest ih => exact bind_ok_imp h (step b a) fun _ => ih

/-- A fold that takes in what is made of each element, in two steps, makes all of it first. -/
theorem exists_mapM_of_foldlM {γ δ : Type} {f : α → Except ε β} {g : β → Except ε γ}
    {next : δ → γ → δ} {l : List α} {d d' : δ}
    (h : l.foldlM (fun d a => do
      let b ← f a
      .ok (next d (← g b))) d = .ok d') :
    ∃ l' l'', l.mapM f = .ok l' ∧ l'.mapM g = .ok l'' ∧ l''.foldl next d = d' := by
  induction l generalizing d with
  | nil =>
    cases h
    exact ⟨[], [], rfl, rfl, rfl⟩
  | cons a rest ih =>
    rw [List.foldlM_cons] at h
    obtain ⟨d₁, step, h⟩ := bind_eq_ok_iff.1 h
    obtain ⟨b, hb, step⟩ := bind_eq_ok_iff.1 step
    obtain ⟨c, hc, step⟩ := bind_eq_ok_iff.1 step
    cases step
    obtain ⟨l', l'', first, second, fold⟩ := ih h
    refine ⟨b :: l', c :: l'', ?_, ?_, fold⟩
    · rw [List.mapM_cons, hb, first]
      rfl
    · rw [List.mapM_cons, hc, second]
      rfl

/-- A run over a list whose steps give what is made of the values of other steps. -/
theorem mapM_eq_map {γ : Type} {f : α → Except ε β} {g : α → Except ε γ} {h : β → γ}
    (step : ∀ a, g a = h <$> f a) (l : List α) : l.mapM g = List.map h <$> l.mapM f := by
  induction l with
  | nil => rfl
  | cons a l ih =>
    rw [List.mapM_cons, List.mapM_cons, ih, step, bind_map_left, map_bind]
    refine bind_congr fun b => ?_
    rw [bind_map_left, map_bind]
    rfl

theorem foldlM_eq_map {γ : Type} {f : β → α → Except ε β} {g : γ → α → Except ε γ} {h : β → γ}
    (step : ∀ b a, g (h b) a = h <$> f b a) (l : List α) (b : β) :
    l.foldlM g (h b) = h <$> l.foldlM f b := by
  induction l generalizing b with
  | nil => rfl
  | cons a l ih =>
    rw [List.foldlM_cons, List.foldlM_cons, step, bind_map_left, map_bind]
    exact bind_congr ih

/-- What each step keeps of its argument, a run over a list keeps. -/
theorem map_eq_of_mapM {γ : Type} {f : α → Except ε β} {l : List α} {l' : List β}
    (h : l.mapM f = .ok l') {key : α → γ} {key' : β → γ}
    (keeps : ∀ a b, f a = .ok b → key' b = key a) : l'.map key' = l.map key := by
  replace h := mapM_eq_ok_iff.1 h
  induction h with
  | nil => rfl
  | cons hab _ ih => rw [List.map_cons, List.map_cons, keeps _ _ hab, ih]

/-- A run over a list reads back what each step reads back from its view. -/
theorem mapM_eq_some_of_map {γ δ : Type} {f : γ → Option α} {view : γ → δ} {code : α → δ}
    {l : List γ} {values : List α} (h : l.map view = values.map code)
    (reads : ∀ a ∈ values, ∀ c, view c = code a → f c = some a) : l.mapM f = some values := by
  induction values generalizing l with
  | nil =>
    rw [List.map_nil, List.map_eq_nil_iff] at h
    subst h
    rfl
  | cons a values ih =>
    rw [List.map_cons, List.map_eq_cons_iff] at h
    obtain ⟨c, rest, rfl, hc, hrest⟩ := h
    obtain ⟨first, tail⟩ := List.forall_mem_cons.1 reads
    rw [List.mapM_cons, first c hc, ih hrest tail]
    rfl

theorem exists_mem_of_mapM_option {f : α → Option β} {l : List α} {l' : List β}
    (h : l.mapM f = some l') {b : β} (mem : b ∈ l') : ∃ a ∈ l, f a = some b := by
  induction l generalizing l' with
  | nil =>
    cases h
    cases mem
  | cons a l ih =>
    rw [List.mapM_cons] at h
    obtain ⟨first, hfirst, h⟩ := Option.bind_eq_some_iff.1 h
    obtain ⟨rest, hrest, h⟩ := Option.bind_eq_some_iff.1 h
    cases h
    rcases List.mem_cons.1 mem with rfl | mem
    · exact ⟨a, List.mem_cons_self, hfirst⟩
    · obtain ⟨a', ha, hb⟩ := ih hrest mem
      exact ⟨a', List.mem_cons_of_mem _ ha, hb⟩

/-! ## Errors -/

/-- Every error that a computation can end with satisfies a predicate. -/
def FailsWith (P : ε → Prop) (x : Except ε α) : Prop :=
  ∀ e, x = .error e → P e

namespace FailsWith

variable {P Q : ε → Prop} {x : Except ε α}

theorem ok (a : α) : FailsWith P (.ok a) := by
  intro e h
  cases h

theorem error {e : ε} (h : P e) : FailsWith P (.error e : Except ε α) := by
  intro e' same
  cases same
  exact h

theorem mono (h : FailsWith P x) (imp : ∀ e, P e → Q e) : FailsWith Q x :=
  fun e same => imp e (h e same)

theorem bind {f : α → Except ε β} (h : FailsWith P x)
    (next : ∀ a, x = .ok a → FailsWith P (f a)) : FailsWith P (x >>= f) := by
  intro e same
  cases hx : x with
  | error e' =>
    rw [hx] at same
    cases same
    exact h e hx
  | ok a =>
    rw [hx] at same
    exact next a hx e same

theorem mapM {f : α → Except ε β} {l : List α} (h : ∀ a ∈ l, FailsWith P (f a)) :
    FailsWith P (l.mapM f) := by
  induction l with
  | nil => exact ok _
  | cons a l ih =>
    obtain ⟨first, rest⟩ := List.forall_mem_cons.1 h
    rw [List.mapM_cons]
    exact first.bind fun _ _ => (ih rest).bind fun _ _ => ok _

theorem foldlM {f : β → α → Except ε β} {l : List α} (h : ∀ a ∈ l, ∀ b, FailsWith P (f b a))
    (b : β) : FailsWith P (l.foldlM f b) := by
  induction l generalizing b with
  | nil => exact ok _
  | cons a l ih =>
    obtain ⟨first, rest⟩ := List.forall_mem_cons.1 h
    rw [List.foldlM_cons]
    exact (first b).bind fun c _ => ih rest c

/-- A computation without possible errors succeeds. -/
theorem exists_eq_ok (h : FailsWith P x) (never : ∀ e, ¬ P e) : ∃ a, x = .ok a := by
  cases hx : x with
  | error e => exact absurd (h e hx) (never e)
  | ok a => exact ⟨a, rfl⟩

end FailsWith

/-- A computation ends with a value that satisfies one predicate or with an error that satisfies
another. -/
structure EndsIn (Q : α → Prop) (P : ε → Prop) (x : Except ε α) : Prop where
  value : ∀ a, x = .ok a → Q a
  error : FailsWith P x

namespace EndsIn

variable {P : ε → Prop} {Q : α → Prop} {x : Except ε α}

theorem ok {a : α} (h : Q a) : EndsIn Q P (.ok a) := by
  refine ⟨fun b same => ?_, .ok a⟩
  cases same
  exact h

theorem fail {e : ε} (h : P e) : EndsIn Q P (.error e : Except ε α) := by
  refine ⟨fun a same => ?_, .error h⟩
  cases same

theorem mono (h : EndsIn Q P x) {Q' : α → Prop} {P' : ε → Prop} (value : ∀ a, Q a → Q' a)
    (error : ∀ e, P e → P' e) : EndsIn Q' P' x :=
  ⟨fun a same => value a (h.value a same), h.error.mono error⟩

theorem bind (h : EndsIn Q P x) {R : β → Prop} {f : α → Except ε β}
    (next : ∀ a, Q a → EndsIn R P (f a)) : EndsIn R P (x >>= f) where
  value b same := by
    obtain ⟨a, ha, hb⟩ := bind_eq_ok_iff.1 same
    exact (next a (h.value a ha)).value b hb
  error := h.error.bind fun a ha => (next a (h.value a ha)).error

theorem failsWith_bind (h : EndsIn Q P x) {f : α → Except ε β}
    (next : ∀ a, Q a → FailsWith P (f a)) : FailsWith P (x >>= f) :=
  h.error.bind fun a ha => next a (h.value a ha)

end EndsIn

end OpenApiGen
