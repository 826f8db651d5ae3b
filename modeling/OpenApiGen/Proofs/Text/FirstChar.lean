import OpenApiGen.Proofs.Text.CaseMapping
import OpenApiGen.Proofs.Text.Sanitize

/-!
# First characters

A name is usable if it is not empty and does not start with a digit (`UsableName`).  The casings
and cleaning of names are followed from the first character that a word can hold: casing starts
with it (`usable_toLowerCamel_iff`, `head_toSnake`), cleaning keeps it (`head_sanitize`), and so
does trimming (`head_trimmed`).  Cleaning and suffixes do not change whether the first letter or
digit is a digit (`digitFirst_sanitize`, `digitFirst_append`).
-/

namespace OpenApiGen

open Text

/-- A name that is not empty and does not start with a digit. -/
def UsableName (name : String) : Prop :=
  name ≠ "" ∧ startsWithDigit name = false

instance (name : String) : Decidable (UsableName name) :=
  inferInstanceAs (Decidable (_ ∧ _))

theorem usableName_iff {name : String} :
    UsableName name ↔ ∃ c, name.toList.head? = some c ∧ c.isDigit = false := by
  rw [UsableName, ne_eq, ← String.toList_eq_nil_iff, startsWithDigit]
  cases name.toList with
  | nil => simp
  | cons c cs => simp

theorem usableName_iff_of_head {name : String} {c : Char} (h : name.toList.head? = some c) :
    UsableName name ↔ c.isDigit = false := by
  rw [usableName_iff, h]
  simp

theorem usableName_underscore_append (name : String) : UsableName ("_" ++ name) :=
  usableName_iff.2 ⟨'_', by rw [String.toList_append]; rfl, rfl⟩

namespace Text

/-! ## Words -/

/-- The first word starts with the first alphanumeric character. -/
theorem words_eq_cons {cs : List Char} {c : Char} (h : cs.find? isAlphanumeric = some c) :
    ∃ w ws, words cs = (c :: w) :: ws := by
  have first : (words cs).flatten.head? = some c := by rw [flatten_words, List.head?_filter, h]
  cases hws : words cs with
  | nil =>
    rw [hws] at first
    cases first
  | cons w ws =>
    obtain ⟨d, w, rfl⟩ := List.exists_cons_of_ne_nil
      (ne_nil_of_mem_words (hws ▸ List.mem_cons_self : w ∈ words cs))
    rw [hws] at first
    obtain rfl : d = c := Option.some.inj first
    exact ⟨w, ws, rfl⟩

/-- A name in camel case is usable if and only if its first alphanumeric character is no digit. -/
theorem usable_toLowerCamel_iff {s : String} : UsableName (toLowerCamel s) ↔
    ∃ c, s.toList.find? isAlphanumeric = some c ∧ c.isDigit = false := by
  cases found : s.toList.find? isAlphanumeric with
  | none =>
    have none_ : words s.toList = [] := words_eq_nil (by
      rw [← List.head?_eq_none_iff, List.head?_filter, found])
    rw [toLowerCamel, none_]
    simp [UsableName]
  | some c =>
    obtain ⟨w, ws, cut⟩ := words_eq_cons found
    obtain ⟨d, head, same⟩ := head_lowerWord c w
    have first : (toLowerCamel s).toList.head? = some d := by
      rw [toLowerCamel, cut, String.toList_ofList, List.head?_append, head, Option.some_or]
    rw [usableName_iff_of_head first, same]
    simp

/-- A name in snake case starts with its first alphanumeric character. -/
theorem head_toSnake {s : String} {c : Char} (h : s.toList.find? isAlphanumeric = some c)
    (ascii : isAscii c = true) : (toSnake s).toList.head? = some c.toLower := by
  obtain ⟨w, ws, cut⟩ := words_eq_cons h
  have word : lowerWord (c :: w) = c.toLower :: lowerWord w := by
    rw [lowerWord, lowerChar_of_isAscii ascii, List.singleton_append]
    rintro rfl
    cases ascii
  rw [toSnake, String.toList_ofList, cut, List.map_cons, word]
  cases ws with
  | nil => rfl
  | cons v vs => rfl

theorem head_toUpperSnake {s : String} {c : Char} (h : s.toList.head? = some c)
    (alnum : c.isAlphanum = true) : (toUpperSnake s).toList.head? = some c.toUpper := by
  have ascii := isAscii_of_isAlphanum alnum
  have first : s.toList.find? isAlphanumeric = some c := by
    obtain ⟨rest, chars⟩ := List.head?_eq_some_iff.1 h
    rw [chars, List.find?_cons_of_pos (by rw [isAlphanumeric_of_isAscii ascii, alnum])]
  obtain ⟨w, ws, cut⟩ := words_eq_cons first
  have word : upperWord (c :: w) = c.toUpper :: upperWord w := by
    rw [upperWord, List.flatMap_cons, upperChar_of_isAscii ascii]
    rfl
  rw [toUpperSnake, String.toList_ofList, cut, List.map_cons, word]
  cases ws with
  | nil => rfl
  | cons v vs => rfl

theorem head_toUppercase {s : String} {c : Char} (h : s.toList.head? = some c)
    (ascii : isAscii c = true) : (toUppercase s).toList.head? = some c.toUpper := by
  obtain ⟨rest, chars⟩ := List.head?_eq_some_iff.1 h
  rw [toUppercase, String.toList_ofList, chars, List.flatMap_cons, upperChar_of_isAscii ascii]
  rfl

/-- In ASCII text the first alphanumeric character is the first letter or digit. -/
theorem first_iff_of_isAscii {cs : List Char} (h : ∀ c ∈ cs, isAscii c = true) :
    (∃ c, cs.find? isAlphanumeric = some c ∧ c.isDigit = false) ↔
      ∃ c, (letters cs).head? = some c ∧ c.isDigit = false := by
  have same : (letters cs).head? = (cs.find? isAlphanumeric).map Char.toLower := by
    rw [letters, List.head?_map, ← List.head?_filter,
      List.filter_congr fun c hc => isAlphanumeric_of_isAscii (h c hc)]
  rw [same]
  cases cs.find? isAlphanumeric with
  | none => simp
  | some c => simp [isDigit_toLower]

theorem first_toLowercase_iff_of_isAscii {s : String} (h : ∀ c ∈ s.toList, isAscii c = true) :
    (∃ c, (toLowercase s).toList.find? isAlphanumeric = some c ∧ c.isDigit = false) ↔
      ∃ c, (letters s.toList).head? = some c ∧ c.isDigit = false := by
  have ascii : ∀ c ∈ s.toList.map Char.toLower, isAscii c = true :=
    List.forall_mem_map.2 fun c hc => isAscii_toLower (h c hc)
  rw [toLowercase_of_isAscii h, first_iff_of_isAscii ascii, letters_map_toLower]

/-! ## Digits before letters -/

theorem isEmpty_takeWhile_isDigit (value : String) :
    (value.toList.takeWhile Char.isDigit).isEmpty = !startsWithDigit value := by
  rw [startsWithDigit]
  cases value.toList with
  | nil => rfl
  | cons c cs => cases digit : c.isDigit <;> simp [digit]

/-- Whether the first ASCII letter or digit of a text is a digit. -/
def digitFirst (cs : List Char) : Bool :=
  (letters cs).head?.any Char.isDigit

theorem digitFirst_congr {a b : List Char} (h : letters a = letters b) :
    digitFirst a = digitFirst b := by
  rw [digitFirst, digitFirst, h]

/-- A word that starts with a letter takes no part in where a digit comes first. -/
theorem digitFirst_append (a : List Char) {b : List Char} (h : digitFirst b = false) :
    digitFirst (a ++ b) = digitFirst a := by
  unfold digitFirst at *
  rw [letters_append]
  cases letters a with
  | nil => exact h
  | cons c cs => rfl

theorem digitFirst_of_letters_eq_nil {cs : List Char} (h : letters cs = []) :
    digitFirst cs = false := by
  rw [digitFirst, h]
  rfl

theorem startsWithDigit_of_isAlphanum {s : String} (h : ∀ c ∈ s.toList, c.isAlphanum = true) :
    startsWithDigit s = digitFirst s.toList := by
  rw [startsWithDigit, digitFirst]
  cases chars : s.toList with
  | nil => rfl
  | cons c cs =>
    rw [letters_cons_of_isAlphanum (h c (by rw [chars]; exact List.mem_cons_self))]
    exact (isDigit_toLower c).symm

theorem digitFirst_sanitize (s : String) :
    digitFirst (sanitize s).toList = digitFirst s.toList := by
  by_cases dollar : s = "$"
  · rw [dollar]
    rfl
  · exact digitFirst_congr (letters_sanitize dollar)

/-! ## Cleaning and trimming -/

/-- Cleaning keeps a letter, digit or underscore at the start of a name. -/
theorem head_sanitize {s : String} {c : Char} (h : s.toList.head? = some c)
    (plain : isIdentifierChar c = true) : (sanitize s).toList.head? = some c := by
  obtain ⟨rest, chars⟩ := List.head?_eq_some_iff.1 h
  have dollar : s ≠ "$" := by
    rintro rfl
    obtain rfl : '$' = c := Option.some.inj h
    cases plain
  have bracket : c ≠ '[' := by
    rintro rfl
    cases plain
  rw [sanitize, if_neg dollar, String.toList_ofList, chars, sanitizeChars_cons (.inl bracket),
    sanitizeChar_of_isIdentifierChar plain]
  rfl

theorem isClean_toUpperSnake {s : String} (clean : IsClean s.toList) :
    IsClean (toUpperSnake s).toList := by
  intro c hc
  rw [toUpperSnake, String.toList_ofList] at hc
  rcases mem_intercalate hc with rfl | ⟨word, mem, hc⟩
  · rfl
  · obtain ⟨w, hw, rfl⟩ := List.mem_map.1 mem
    obtain ⟨d, hd, hc⟩ := List.mem_flatMap.1 hc
    have alnum : d.isAlphanum = true := clean.words hw d hd
    rw [upperChar_of_isAscii (isAscii_of_isAlphanum alnum), List.mem_singleton] at hc
    exact isIdentifierChar_of_isAlphanum (by rw [hc, isAlphanum_toUpper, alnum])

theorem collapseChars_ne_nil (isWord : Char → Bool) {value : String} (ne : value ≠ "") :
    collapseChars isWord false value.toList ≠ [] := by
  obtain ⟨c, rest, chars⟩ :=
    List.exists_cons_of_ne_nil fun none => ne (String.toList_eq_nil_iff.1 none)
  cases word : isWord c <;> simp [chars, collapseChars, word]

theorem eq_append_of_dropStart? {b cs rest : List Char} (h : dropStart? b cs = some rest) :
    cs = b ++ rest := by
  fun_induction dropStart? b cs with
  | case1 => exact Option.some.inj h
  | case2 => cases h
  | case3 c b cs ih => rw [ih h, List.cons_append]
  | case4 => cases h

theorem suffix_stripStart? (b s : String) : ((stripStart? b s).getD s).toList <:+ s.toList := by
  rw [stripStart?]
  cases dropped : dropStart? b.toList s.toList with
  | none => exact List.suffix_rfl
  | some rest =>
    rw [eq_append_of_dropStart? dropped]
    simp

theorem prefix_stripEnd? (b s : String) : ((stripEnd? b s).getD s).toList <+: s.toList := by
  rw [stripEnd?]
  cases dropped : dropStart? b.toList.reverse s.toList.reverse with
  | none => exact List.prefix_rfl
  | some rest =>
    rw [← List.reverse_reverse s.toList, eq_append_of_dropStart? dropped]
    simp

/-- The text with one underscore fewer at each end that has one. -/
def trimmed (s : String) : String :=
  let noStart := (stripStart? "_" s).getD s
  (stripEnd? "_" noStart).getD noStart

theorem trimmed_subset (s : String) : (trimmed s).toList ⊆ s.toList :=
  List.Subset.trans (prefix_stripEnd? "_" _).subset (suffix_stripStart? "_" s).subset

/-- Trimming keeps a first character that is no underscore. -/
theorem head_trimmed {s : String} {c : Char} (h : s.toList.head? = some c) (ne : c ≠ '_') :
    (trimmed s).toList.head? = some c := by
  obtain ⟨rest, chars⟩ := List.head?_eq_some_iff.1 h
  have start : (stripStart? "_" s).getD s = s := by
    simp [stripStart?, chars, dropStart?, ne.symm]
  rw [trimmed, start, stripEnd?]
  cases dropped : dropStart? "_".toList.reverse s.toList.reverse with
  | none => exact h
  | some left =>
    have parts : s.toList = left.reverse ++ ['_'] := by
      rw [← List.reverse_reverse s.toList, eq_append_of_dropStart? dropped]
      simp
    rw [parts] at h
    rw [Option.map_some, Option.getD_some, String.toList_ofList]
    cases hl : left.reverse with
    | nil =>
      rw [hl] at h
      exact absurd (Option.some.inj h).symm ne
    | cons d ds =>
      rw [hl] at h
      exact h

end Text

end OpenApiGen
