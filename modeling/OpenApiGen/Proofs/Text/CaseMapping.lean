import OpenApiGen.Proofs.Text.Capitals

/-!
# Case mappings

Every character has an upper-case form and a lower-case form of at least one character
(`upperChar_ne_nil`, `lowerChar_ne_nil`).  No character beyond ASCII has a digit or an underscore
in its lower-case form (`isPlain_of_mem_lowerChar`), so that the lower-case form of a word starts
with a digit only if the word does (`head_lowerWord`), and only an underscore becomes one
(`eq_underscore_of_toLowercase`).
-/

namespace OpenApiGen.Text

/-! ## Forms of a character -/

/-- An image of a code point under the tables of a case mapping: one of an expansion, one of a run,
or the code point itself. -/
theorem mapCase_cases (expansions : List (Nat × List Nat)) (runs : List CaseRun) (c : Char) :
    (∃ images, (c.toNat, images) ∈ expansions ∧
        mapCase expansions runs c = images.map Char.ofNat) ∨
      (∃ run ∈ runs, run.covers c.toNat = true ∧
        mapCase expansions runs c = [Char.ofNat (run.image c.toNat)]) ∨
      mapCase expansions runs c = [c] := by
  unfold mapCase
  cases expanded : expansions.lookup c.toNat with
  | some images =>
    obtain ⟨before, after, entries, -⟩ := List.lookup_eq_some_iff.1 expanded
    exact .inl ⟨images, by simp [entries], rfl⟩
  | none =>
    cases found : runs.find? (·.covers c.toNat) with
    | some run =>
      exact .inr (.inl ⟨run, List.mem_of_find?_eq_some found,
        by simpa using List.find?_some found, rfl⟩)
    | none => exact .inr (.inr rfl)

theorem mapCase_ne_nil {expansions : List (Nat × List Nat)}
    (h : expansions.all (fun e => !e.2.isEmpty) = true) (runs : List CaseRun) (c : Char) :
    mapCase expansions runs c ≠ [] := by
  rcases mapCase_cases expansions runs c with ⟨images, mem, same⟩ | ⟨run, -, -, same⟩ | same
  · have := List.all_eq_true.1 h _ mem
    rw [same]
    simpa using this
  · simp [same]
  · simp [same]

theorem upperChar_ne_nil (c : Char) : upperChar c ≠ [] := by
  unfold upperChar
  split_ifs
  · simp
  · exact mapCase_ne_nil (by decide +kernel) _ c

theorem lowerChar_ne_nil (c : Char) : lowerChar c ≠ [] := by
  unfold lowerChar
  split_ifs
  · simp
  · exact mapCase_ne_nil (by decide +kernel) _ c

/-! ## Digits and underscores -/

/-- The code point of no digit of ASCII, and not that of the underscore. -/
def isPlainCode (n : Nat) : Bool :=
  (n < 48 || 57 < n) && n != 95

/-- All images under a run lie on one side of the digits and on one side of the underscore. -/
def CaseRun.isPlain (r : CaseRun) : Bool :=
  95 < r.first + r.shift || (57 < r.first + r.shift && r.last + r.shift < 95)

theorem isPlainCode_iff {n : Nat} : isPlainCode n = true ↔ (n < 48 ∨ 57 < n) ∧ n ≠ 95 := by
  simp [isPlainCode]

theorem CaseRun.isPlainCode_image {r : CaseRun} (plain : r.isPlain = true) {n : Nat}
    (covered : r.covers n = true) : isPlainCode (r.image n) = true := by
  simp only [covers, Bool.and_eq_true, decide_eq_true_eq] at covered
  simp only [isPlain, Bool.or_eq_true, Bool.and_eq_true, decide_eq_true_eq] at plain
  rw [isPlainCode_iff, image]
  omega

theorem isDigit_eq (c : Char) : c.isDigit = decide (48 ≤ c.toNat ∧ c.toNat ≤ 57) := by
  simp [Char.isDigit, UInt32.le_iff_toNat_le]

theorem isPlain_of_isPlainCode {c : Char} (plain : isPlainCode c.toNat = true) :
    c.isDigit = false ∧ c ≠ '_' := by
  rw [isPlainCode_iff] at plain
  refine ⟨?_, fun same => plain.2 (by rw [same]; rfl)⟩
  rw [isDigit_eq, decide_eq_false_iff_not]
  omega

theorem isPlain_ofNat {n : Nat} (plain : isPlainCode n = true) :
    (Char.ofNat n).isDigit = false ∧ Char.ofNat n ≠ '_' := by
  refine isPlain_of_isPlainCode ?_
  rw [Char.toNat_ofNat]
  split_ifs
  · exact plain
  · rfl

theorem isPlain_of_not_isAscii {c : Char} (h : isAscii c = false) : c.isDigit = false ∧ c ≠ '_' := by
  refine isPlain_of_isPlainCode ?_
  rw [isAscii, decide_eq_false_iff_not] at h
  rw [isPlainCode_iff]
  omega

theorem isPlain_of_mem_lowerChar {c d : Char} (h : isAscii c = false) (mem : d ∈ lowerChar c) :
    d.isDigit = false ∧ d ≠ '_' := by
  have expansions : (lowercaseExpansions.all fun e => e.2.all isPlainCode) = true := by
    decide +kernel
  have runs : lowercaseRuns.all CaseRun.isPlain = true := by decide +kernel
  rw [lowerChar, if_neg (by simp [h])] at mem
  rcases mapCase_cases lowercaseExpansions lowercaseRuns c with
    ⟨images, listed, same⟩ | ⟨run, listed, covered, same⟩ | same
  · rw [same] at mem
    obtain ⟨n, hn, rfl⟩ := List.mem_map.1 mem
    exact isPlain_ofNat (List.all_eq_true.1 (List.all_eq_true.1 expansions _ listed) n hn)
  · rw [same, List.mem_singleton] at mem
    rw [mem]
    exact isPlain_ofNat (CaseRun.isPlainCode_image (List.all_eq_true.1 runs run listed) covered)
  · rw [same, List.mem_singleton] at mem
    rw [mem]
    exact isPlain_of_not_isAscii h

/-! ## Lower-case forms -/

@[simp] theorem isDigit_toLower (c : Char) : c.toLower.isDigit = c.isDigit := by
  cases upper : c.isUpper with
  | false => rw [toLower_eq_self_iff.2 upper]
  | true =>
    have alpha : c.isAlpha = true := by rw [Char.isAlpha, upper, Bool.true_or]
    have alpha' : c.toLower.isAlpha = true := by rw [Char.isAlpha_toLower_eq_isAlpha, alpha]
    grind [Char.isAlpha, Char.isUpper, Char.isLower, Char.isDigit]

@[simp] theorem isDigit_toUpper (c : Char) : c.toUpper.isDigit = c.isDigit := by
  rw [← isDigit_toLower, Char.toLower_toUpper_eq_toLower, isDigit_toLower]

theorem isAscii_toLower {c : Char} (h : isAscii c = true) : isAscii c.toLower = true := by
  cases upper : c.isUpper with
  | false => rw [toLower_eq_self_iff.2 upper, h]
  | true => exact isAscii_of_isAlphanum (by rw [isAlphanum_toLower, isAlphanum_of_isUpper upper])

/-- The lower-case form of a word starts with a digit if and only if the word does. -/
theorem head_lowerWord (c : Char) (w : List Char) :
    ∃ d, (lowerWord (c :: w)).head? = some d ∧ d.isDigit = c.isDigit := by
  by_cases final : c = 'Σ' ∧ w = []
  · obtain ⟨rfl, rfl⟩ := final
    exact ⟨'ς', rfl, rfl⟩
  · have split : lowerWord (c :: w) = lowerChar c ++ lowerWord w := by
      rw [lowerWord]
      rintro rfl rfl
      exact final ⟨rfl, rfl⟩
    obtain ⟨d, ds, image⟩ := List.exists_cons_of_ne_nil (lowerChar_ne_nil c)
    refine ⟨d, by rw [split, image]; rfl, ?_⟩
    cases ascii : isAscii c with
    | true =>
      rw [lowerChar, if_pos ascii] at image
      rw [← (List.cons.inj image).1, isDigit_toLower]
    | false =>
      rw [(isPlain_of_mem_lowerChar ascii (by rw [image]; exact List.mem_cons_self)).1,
        (isPlain_of_not_isAscii ascii).1]

/-- A character of a text has an image of its own in the lower-case form, with an underscore only
if it is one. -/
theorem lowerCharsAfter_cons (before : List Char) (c : Char) (rest : List Char) :
    ∃ image, image ≠ [] ∧ (∀ d ∈ image, d = '_' → c = '_') ∧
      lowerCharsAfter before (c :: rest) = image ++ lowerCharsAfter (c :: before) rest := by
  refine ⟨_, ?_, fun d mem same => ?_, rfl⟩
  · split_ifs
    · exact List.cons_ne_nil _ _
    · exact List.cons_ne_nil _ _
    · exact lowerChar_ne_nil c
  · subst same
    split_ifs at mem
    · cases List.mem_singleton.1 mem
    · cases List.mem_singleton.1 mem
    · cases ascii : isAscii c with
      | true =>
        rw [lowerChar, if_pos ascii, List.mem_singleton] at mem
        cases upper : c.isUpper with
        | false => rw [mem, toLower_eq_self_iff.2 upper]
        | true =>
          have alpha := Char.isAlpha_toLower_eq_isAlpha c
          rw [← mem, Char.isAlpha, Char.isAlpha, upper] at alpha
          cases alpha
      | false => exact absurd rfl (isPlain_of_mem_lowerChar ascii mem).2

/-- Only the underscore has an underscore for its lower-case form. -/
theorem eq_underscore_of_toLowercase {s : String} (h : toLowercase s = "_") : s = "_" := by
  have chars : lowerCharsAfter [] s.toList = ['_'] := by
    rw [← String.toList_ofList (l := lowerCharsAfter [] s.toList)]
    exact congrArg String.toList h
  have single : s.toList = ['_'] := by
    cases hs : s.toList with
    | nil =>
      rw [hs] at chars
      cases chars
    | cons c rest =>
      obtain ⟨image, ne, plain, same⟩ := lowerCharsAfter_cons [] c rest
      rw [hs, same] at chars
      obtain ⟨d, ds, rfl⟩ := List.exists_cons_of_ne_nil ne
      obtain ⟨rfl, -, none⟩ : d = '_' ∧ ds = [] ∧ lowerCharsAfter [c] rest = [] := by
        simpa using chars
      rw [plain _ List.mem_cons_self rfl]
      cases rest with
      | nil => rfl
      | cons next rest =>
        obtain ⟨image, ne, -, same⟩ := lowerCharsAfter_cons [c] next rest
        rw [same] at none
        exact absurd (List.append_eq_nil_iff.1 none).1 ne
  rw [← String.ofList_toList (s := s), single]

end OpenApiGen.Text
