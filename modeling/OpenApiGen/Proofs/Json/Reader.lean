import OpenApiGen.Json.Reader
import OpenApiGen.Proofs.Tree

/-!
# Trees of JSON texts

A JSON text cannot spell a number that is infinite or undefined, and so its tree has none
(`finite_readTree?`).
-/

namespace OpenApiGen.Json

/-! ## Tokens -/

/-- The tree in a token has no number without finite value. -/
def Token.Finite : Token → Prop
  | string t | literal t => t.Finite
  | _ => True

theorem finite_stringTree (reversed : List Nat) : (stringTree reversed).Finite := by
  unfold stringTree
  split
  · exact .atom Atom.noConfusion
  · exact .unreadable

theorem finite_wordTree? {cs : List Char} {t : Tree} (h : wordTree? cs = some t) : t.Finite := by
  unfold wordTree? at h
  split at h
  · cases h
    exact .atom Atom.noConfusion
  · cases h
    exact .atom Atom.noConfusion
  · cases h
    exact .atom Atom.noConfusion
  · obtain ⟨n, -, rfl⟩ := Option.map_eq_some_iff.1 h
    split
    · exact .atom Atom.noConfusion
    · exact .unreadable

theorem finite_punctuation? {c : Char} {token : Token} (h : punctuation? c = some token) :
    token.Finite := by
  unfold punctuation? at h
  split at h <;> cases h <;> trivial

theorem finite_tokensFrom {acc : List Token} {cs : List Char} {tokens : List Token}
    (known : ∀ token ∈ acc, token.Finite) (h : tokensFrom acc cs = some tokens) :
    ∀ token ∈ tokens, token.Finite := by
  fun_induction tokensFrom acc cs with
  | case1 acc =>
    cases h
    exact fun token mem => known token (List.mem_reverse.1 mem)
  | case2 acc c rest blank ih => exact ih known h
  | case3 acc rest reversed after scanned blank ih =>
    exact ih (List.forall_mem_cons.2 ⟨finite_stringTree reversed, known⟩) h
  | case4 => cases h
  | case5 acc c rest blank notQuote token htoken ih =>
    exact ih (List.forall_mem_cons.2 ⟨finite_punctuation? htoken, known⟩) h
  | case6 acc c rest blank notQuote notPunctuation isWord t ht ih =>
    exact ih (List.forall_mem_cons.2 ⟨finite_wordTree? ht, known⟩) h
  | case7 => cases h
  | case8 => cases h

/-! ## Containers -/

/-- What an open container holds so far has no number without finite value. -/
def Frame.Finite : Frame → Prop
  | list items => ∀ u ∈ items, u.Finite
  | record members _ => ∀ m ∈ members, m.2.Finite

/-- Neither the open containers nor the result have a number without finite value. -/
structure Reading.Finite (r : Reading) : Prop where
  frames : ∀ frame ∈ r.frames, frame.Finite
  result : ∀ t, r.result = some t → t.Finite

theorem finite_leveled (level : Nat) {t : Tree} (h : t.Finite) : (leveled level t).Finite := by
  unfold leveled
  split
  · exact h
  · exact .unreadable

theorem Reading.finite_pending {frame : Frame} {outer : List Frame} (first : frame.Finite)
    (rest : ∀ frame ∈ outer, frame.Finite) (awaiting : Awaiting) :
    (Reading.mk (frame :: outer) awaiting none).Finite := by
  refine ⟨List.forall_mem_cons.2 ⟨first, rest⟩, ?_⟩
  rintro t ⟨⟩

theorem Reading.finite_complete {r r' : Reading} {t : Tree}
    (frames : ∀ frame ∈ r.frames, frame.Finite) (finite : t.Finite) (h : r.complete t = some r') :
    r'.Finite := by
  unfold complete at h
  split at h
  · cases h
    refine ⟨List.forall_mem_nil _, ?_⟩
    rintro u ⟨⟩
    exact finite
  · next items outer hframes =>
    cases h
    rw [hframes] at frames
    obtain ⟨first, rest⟩ := List.forall_mem_cons.1 frames
    have extended : (Frame.list (t :: items)).Finite := List.forall_mem_cons.2 ⟨finite, first⟩
    exact finite_pending extended rest _
  · next members key outer hframes =>
    cases h
    rw [hframes] at frames
    obtain ⟨first, rest⟩ := List.forall_mem_cons.1 frames
    have extended : (Frame.record ((key, t) :: members) none).Finite :=
      List.forall_mem_cons.2 ⟨finite, first⟩
    exact finite_pending extended rest _
  · cases h

theorem Reading.finite_step {r r' : Reading} {token : Token} (finite : r.Finite)
    (proper : token.Finite) (h : r.step token = some r') : r'.Finite := by
  unfold step at h
  split at h
  case h_1 | h_2 | h_3 | h_4 => exact finite_complete finite.frames proper h
  case h_5 | h_6 | h_7 | h_8 =>
    cases h
    exact finite_pending (by exact List.forall_mem_nil _) finite.frames _
  case h_9 | h_10 =>
    split at h
    · next members outer hframes =>
      cases h
      have frames := finite.frames
      rw [hframes] at frames
      obtain ⟨first, rest⟩ := List.forall_mem_cons.1 frames
      exact finite_pending (by exact first) rest _
    · cases h
  case h_11 =>
    cases h
    exact ⟨finite.frames, finite.result⟩
  case h_12 =>
    split at h <;> cases h <;> exact ⟨finite.frames, finite.result⟩
  case h_13 | h_14 =>
    split at h
    · next items outer hframes =>
      have frames := finite.frames
      rw [hframes] at frames
      obtain ⟨first, rest⟩ := List.forall_mem_cons.1 frames
      refine finite_complete rest (finite_leveled _ (.list fun u hu => ?_)) h
      exact first u (List.mem_reverse.1 hu)
    · cases h
  case h_15 | h_16 =>
    split at h
    · next members outer hframes =>
      have frames := finite.frames
      rw [hframes] at frames
      obtain ⟨first, rest⟩ := List.forall_mem_cons.1 frames
      refine finite_complete rest (finite_leveled _ (.record fun m hm => ?_)) h
      exact first m (List.mem_reverse.1 hm)
    · cases h
  case h_17 => cases h

theorem Reading.finite_foldlM {tokens : List Token} (proper : ∀ token ∈ tokens, token.Finite)
    {r r' : Reading} (finite : r.Finite) (h : tokens.foldlM step r = some r') : r'.Finite := by
  induction tokens generalizing r with
  | nil =>
    cases h
    exact finite
  | cons token rest ih =>
    obtain ⟨first, tail⟩ := List.forall_mem_cons.1 proper
    rw [List.foldlM_cons] at h
    obtain ⟨next, hnext, h⟩ := Option.bind_eq_some_iff.1 h
    exact ih tail (finite_step finite first hnext) h

theorem finite_readTree? {s : String} {t : Tree} (h : readTree? s = some t) : t.Finite := by
  unfold readTree? at h
  obtain ⟨tokens, htokens, h⟩ := Option.bind_eq_some_iff.1 h
  obtain ⟨r, hr, h⟩ := Option.bind_eq_some_iff.1 h
  have proper := finite_tokensFrom (List.forall_mem_nil _) htokens
  have start : (Reading.mk [] .value none).Finite := ⟨List.forall_mem_nil _, by rintro t ⟨⟩⟩
  have finite := Reading.finite_foldlM proper start hr
  split at h
  · exact finite.result t h
  · cases h

end OpenApiGen.Json
