import OpenApiGen.Proofs.Text.Capitals
import OpenApiGen.Text.Split

/-!
# Cleaning of texts

Cleaning loses no ASCII letter or digit (`letters_sanitize`), leaves a clean text as it is
(`sanitize_of_isClean`) and keeps words that an underscore divides apart
(`words_sanitizeChars_append`).  Beginnings and endings of texts are those of their characters
(`startsWith_iff`, `endsWith_iff`).
-/

namespace OpenApiGen.Text

/-! ## Beginnings and endings -/

/-- What is dropped is the beginning. -/
theorem dropStart?_eq_some_iff {b cs rest : List Char} :
    dropStart? b cs = some rest ↔ cs = b ++ rest := by
  fun_induction dropStart? b cs with
  | case1 => simp
  | case2 => simp
  | case3 c b cs ih => simpa using ih
  | case4 c b d cs ne => simp [Ne.symm ne]

theorem isSome_dropStart?_iff {b cs : List Char} : (dropStart? b cs).isSome = true ↔ b <+: cs := by
  simp only [Option.isSome_iff_exists, dropStart?_eq_some_iff]
  exact exists_congr fun rest => eq_comm

theorem startsWith_iff {b s : String} : startsWith b s = true ↔ b.toList <+: s.toList := by
  rw [startsWith, stripStart?, Option.isSome_map, isSome_dropStart?_iff]

theorem endsWith_iff {b s : String} : endsWith b s = true ↔ b.toList <:+ s.toList := by
  rw [endsWith, stripEnd?, Option.isSome_map, isSome_dropStart?_iff, List.reverse_prefix]

/-- The characters of a text with all capitals of ASCII made small. -/
def folded (s : String) : List Char :=
  s.toList.map Char.toLower

@[simp] theorem folded_append (s t : String) : folded (s ++ t) = folded s ++ folded t := by
  rw [folded, String.toList_append, List.map_append]
  rfl

theorem letters_eq_filter_folded (s : String) :
    letters s.toList = (folded s).filter Char.isAlphanum := by
  rw [folded, List.filter_map, letters]
  congr 2
  funext c
  exact (isAlphanum_toLower c).symm

theorem letters_eq_folded {s : String} (h : ∀ c ∈ s.toList, c.isAlphanum = true) :
    letters s.toList = folded s := by
  rw [letters, List.filter_eq_self.2 h]
  rfl

theorem isAlphanum_of_mem_folded {s : String} (h : ∀ c ∈ s.toList, c.isAlphanum = true) {c : Char}
    (mem : c ∈ folded s) : c.isAlphanum = true := by
  obtain ⟨d, hd, rfl⟩ := List.mem_map.1 mem
  simp [h d hd]

theorem folded_prefix_letters {a s : String} (h : ∀ c ∈ a.toList, c.isAlphanum = true)
    (starts : folded a <+: folded s) : folded a <+: letters s.toList := by
  rw [← letters_eq_folded h, letters_eq_filter_folded, letters_eq_filter_folded]
  exact starts.filter _

theorem folded_suffix_letters {b s : String} (h : ∀ c ∈ b.toList, c.isAlphanum = true)
    (ends : folded b <:+ folded s) : folded b <:+ letters s.toList := by
  rw [← letters_eq_folded h, letters_eq_filter_folded, letters_eq_filter_folded]
  exact ends.filter _

theorem toList_toLowercase_of_isAscii {s : String} (h : ∀ c ∈ s.toList, isAscii c = true) :
    (toLowercase s).toList = folded s :=
  toLowercase_of_isAscii h

/-- A character that a text does not have separates its ending from all before. -/
theorem suffix_append_cons_iff {c : Char} {s x y : List Char} (h : c ∉ s) :
    s <:+ x ++ c :: y ↔ s <:+ y := by
  refine ⟨fun ends => ?_, fun ends => ends.trans ⟨x ++ [c], by simp⟩⟩
  rcases List.suffix_or_suffix_of_suffix ends (List.suffix_append x (c :: y)) with h' | h'
  · rcases List.suffix_cons_iff.1 h' with rfl | h'
    · exact absurd List.mem_cons_self h
    · exact h'
  · exact absurd (h'.subset List.mem_cons_self) h

/-! ## Cleaning -/

theorem sanitizeChars_cons {c : Char} {rest : List Char} (h : c ≠ '[' ∨ rest.head? ≠ some ']') :
    sanitizeChars (c :: rest) = sanitizeChar c ++ sanitizeChars rest := by
  rw [sanitizeChars.eq_3]
  rintro rest' rfl rfl
  simp at h

/-- Only an empty pair of brackets is cleaned as a whole. -/
theorem sanitizeChars_append_cons {c : Char} (h : c ≠ ']') (a b : List Char) :
    sanitizeChars (a ++ c :: b) = sanitizeChars a ++ sanitizeChars (c :: b) := by
  fun_induction sanitizeChars a with
  | case1 => rfl
  | case2 rest ih => simpa [sanitizeChars] using ih
  | case3 d rest ne ih =>
    have apart : d ≠ '[' ∨ (rest ++ c :: b).head? ≠ some ']' := by
      cases rest with
      | nil => exact .inr (by simpa using h)
      | cons e rest =>
        by_contra both
        simp only [not_or, not_not, List.cons_append, List.head?_cons, Option.some.injEq] at both
        exact ne rest both.1 (congrArg (· :: rest) both.2)
    rw [List.cons_append, sanitizeChars_cons apart, ih, List.append_assoc]

theorem isClean_sanitizeChars (cs : List Char) : IsClean (sanitizeChars cs) :=
  fun _ => sanitizeChars_subset

theorem sanitizeChar_of_isIdentifierChar {c : Char} (h : isIdentifierChar c = true) :
    sanitizeChar c = [c] := by
  have : c ∉ ['[', '(', '.', '-', ' '] := fun mem => by
    simp only [List.mem_cons, List.not_mem_nil, or_false] at mem
    rcases mem with rfl | rfl | rfl | rfl | rfl <;> exact absurd h (by decide)
  rw [sanitizeChar, if_neg this, if_pos h]

theorem sanitizeChars_of_isClean {cs : List Char} (h : IsClean cs) : sanitizeChars cs = cs := by
  induction cs with
  | nil => rfl
  | cons c rest ih =>
    obtain ⟨hc, hrest⟩ := isClean_cons_iff.1 h
    have plain : c ≠ '[' := by
      rintro rfl
      exact absurd hc (by decide)
    rw [sanitizeChars_cons (.inl plain), sanitizeChar_of_isIdentifierChar hc, ih hrest]
    rfl

theorem sanitize_of_isClean {s : String} (h : IsClean s.toList) : sanitize s = s := by
  have : s ≠ "$" := by
    rintro rfl
    exact absurd h (by decide)
  rw [sanitize, if_neg this, sanitizeChars_of_isClean h, String.ofList_toList]

/-! ## Letters and words of cleaned texts -/

@[simp] theorem letters_sanitizeChar (c : Char) : letters (sanitizeChar c) = letters [c] := by
  unfold sanitizeChar
  split_ifs with opens keeps
  · simp only [List.mem_cons, List.not_mem_nil, or_false] at opens
    rcases opens with rfl | rfl | rfl | rfl | rfl <;> rfl
  · rfl
  · have : ¬ c.isAlphanum = true := fun h => keeps (isIdentifierChar_of_isAlphanum h)
    rw [letters, letters, List.filter_cons_of_neg this]

@[simp] theorem letters_sanitizeChars (cs : List Char) :
    letters (sanitizeChars cs) = letters cs := by
  fun_induction sanitizeChars cs with
  | case1 => rfl
  | case2 rest ih => exact ih
  | case3 c rest _ ih =>
    rw [letters_append, letters_sanitizeChar, ih, ← letters_append]
    rfl

/-- Cleaning keeps the letters and digits of ASCII, but for the word that stands for a lone `$`. -/
theorem letters_sanitize {s : String} (h : s ≠ "$") :
    letters (sanitize s).toList = letters s.toList := by
  simp [sanitize, h]

/-- Words before an underscore and words after it are cleaned apart. -/
theorem words_sanitizeChars_append (a b : List Char) :
    words (sanitizeChars (a ++ '_' :: b)) = words (sanitizeChars a) ++ words (sanitizeChars b) := by
  rw [sanitizeChars_append_cons (by decide), sanitizeChars_cons (.inl (by decide))]
  exact words_append_cons (by decide) _ _

theorem words_sanitizeChars_eq_nil {cs : List Char} (h : letters cs = []) :
    words (sanitizeChars cs) = [] := by
  refine words_eq_nil ?_
  rw [(isClean_sanitizeChars cs).filter_isAlphanumeric]
  rw [← letters_sanitizeChars] at h
  exact List.map_eq_nil_iff.1 h

/-- What is put before and after a text has no part in its words if it has no letter or digit and
an underscore stands between. -/
theorem words_sanitizeChars_padded {a b : List Char} (ha : a = [] ∨ ∃ a', a = a' ++ ['_'])
    (hb : b = [] ∨ ∃ b', b = '_' :: b') (noneBefore : letters a = []) (noneAfter : letters b = [])
    (cs : List Char) :
    words (sanitizeChars (a ++ cs ++ b)) = words (sanitizeChars cs) := by
  have before : words (sanitizeChars (a ++ cs)) = words (sanitizeChars cs) := by
    rcases ha with rfl | ⟨a', rfl⟩
    · rfl
    · rw [letters_append, List.append_eq_nil_iff] at noneBefore
      rw [List.append_assoc, List.singleton_append, words_sanitizeChars_append,
        words_sanitizeChars_eq_nil noneBefore.1, List.nil_append]
  rcases hb with rfl | ⟨b', rfl⟩
  · rw [List.append_nil, before]
  · rw [letters_cons_underscore] at noneAfter
    rw [words_sanitizeChars_append, words_sanitizeChars_eq_nil noneAfter, List.append_nil, before]

end OpenApiGen.Text
