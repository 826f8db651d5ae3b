import Mathlib
import OpenApiGen.Casing
import OpenApiGen.Text.Sanitize

/-!
# Words and letters of a name

Cutting a text into words loses only the characters that are not alphanumeric (`flatten_words`), and
no word is empty (`ne_nil_of_mem_words`).  A *clean* text consists of ASCII letters, digits and
underscores.  On clean texts every casing keeps the letters and digits up to their case
(`letters_apply`), gives a clean text again (`IsClean.apply`), and starts with the first letter or
digit of the text (`head_apply`).
-/

namespace OpenApiGen

namespace Text

/-! ## Cutting into words -/

theorem flatten_runsFrom (run cs : List Char) :
    (runsFrom run cs).flatten = run.reverse ++ cs.filter isAlphanumeric := by
  fun_induction runsFrom run cs with
  | case1 => rfl
  | case2 run _ => simp
  | case3 run c rest hc ih => simp [ih, hc]
  | case4 run c rest hc hrun ih =>
    obtain rfl := List.isEmpty_iff.1 hrun
    simp [ih, hc]
  | case5 run c rest hc _ ih => simp [ih, hc]

theorem flatten_wordsFrom (word : List Char) (k : WordCase) (cs : List Char) :
    (wordsFrom word k cs).flatten = word.reverse ++ cs := by
  fun_induction wordsFrom word k cs <;> simp_all

/-- A word is only closed when it holds a character: the case of an empty one is unknown. -/
theorem ne_nil_of_mem_wordsFrom {word : List Char} {k : WordCase} {cs w : List Char}
    (open_ : word = [] → k = .unknown) (h : w ∈ wordsFrom word k cs) : w ≠ [] := by
  fun_induction wordsFrom word k cs with
  | case1 => cases h
  | case2 word _ hword =>
    obtain rfl := List.mem_singleton.1 h
    simpa using hword
  | case3 word _ c =>
    obtain rfl := List.mem_singleton.1 h
    simp
  | case4 word k c next rest _ ih =>
    rcases List.mem_cons.1 h with rfl | h
    · simp
    · exact ih (fun _ => rfl) h
  | case5 word k c next rest _ upper ih =>
    rcases List.mem_cons.1 h with rfl | h
    · intro hw
      have := open_ (by simpa using hw)
      simp [this] at upper
    · exact ih (fun _ => rfl) h
  | case6 word k c next rest _ _ ih => exact ih (by simp) h

/-- The words of a text hold its alphanumeric characters, in order. -/
theorem flatten_words (cs : List Char) : (words cs).flatten = cs.filter isAlphanumeric := by
  have h : ∀ runs : List (List Char),
      (runs.flatMap (wordsFrom [] .unknown)).flatten = runs.flatten := by
    intro runs
    induction runs with
    | nil => rfl
    | cons run rest ih => simp [ih, flatten_wordsFrom]
  rw [words, h, alphanumericRuns, flatten_runsFrom]
  rfl

theorem ne_nil_of_mem_words {cs w : List Char} (h : w ∈ words cs) : w ≠ [] := by
  obtain ⟨run, -, h⟩ := List.mem_flatMap.1 h
  exact ne_nil_of_mem_wordsFrom (fun _ => rfl) h

/-! ## Clean texts -/

/-- Every character is an ASCII letter, an ASCII digit or an underscore. -/
def IsClean (cs : List Char) : Prop := ∀ c ∈ cs, isIdentifierChar c = true

instance (cs : List Char) : Decidable (IsClean cs) :=
  decidable_of_iff (cs.all isIdentifierChar = true) List.all_eq_true

theorem isClean_cons_iff {c : Char} {cs : List Char} :
    IsClean (c :: cs) ↔ isIdentifierChar c = true ∧ IsClean cs := by
  simp [IsClean]

theorem isClean_append_iff {a b : List Char} : IsClean (a ++ b) ↔ IsClean a ∧ IsClean b := by
  simp only [IsClean, List.mem_append]
  exact ⟨fun h => ⟨fun c hc => h c (.inl hc), fun c hc => h c (.inr hc)⟩,
    fun h c hc => hc.elim (h.1 c) (h.2 c)⟩

theorem IsClean.subset {a b : List Char} (h : IsClean b) (sub : a ⊆ b) : IsClean a :=
  fun c hc => h c (sub hc)

theorem isClean_sanitize (raw : String) : IsClean (sanitize raw).toList := by
  unfold sanitize
  split
  · decide
  · intro c hc
    rw [String.toList_ofList] at hc
    exact sanitizeChars_subset hc

@[simp] theorem isAlphanum_toLower (c : Char) : c.toLower.isAlphanum = c.isAlphanum := by
  by_cases h : c.isUpper = true
  · simp [Char.isAlphanum, Char.isAlpha, h]
  · rw [Char.toLower_eq_of_not_isUpper h]

@[simp] theorem isAlphanum_toUpper (c : Char) : c.toUpper.isAlphanum = c.isAlphanum := by
  by_cases h : c.isLower = true
  · simp [Char.isAlphanum, Char.isAlpha, h]
  · rw [Char.toUpper_eq_of_not_isLower h]

theorem isAscii_of_isIdentifierChar {c : Char} (h : isIdentifierChar c = true) :
    isAscii c = true := by
  simp only [isIdentifierChar, Char.isAlphanum, Char.isAlpha, Char.isUpper, Char.isLower,
    Char.isDigit, Bool.or_eq_true, Bool.and_eq_true, decide_eq_true_eq, UInt32.le_iff_toNat_le] at h
  simp only [isAscii, decide_eq_true_eq, Char.toNat]
  rcases h with ((h | h) | h) | rfl
  · exact Nat.lt_of_le_of_lt h.2 (by decide)
  · exact Nat.lt_of_le_of_lt h.2 (by decide)
  · exact Nat.lt_of_le_of_lt h.2 (by decide)
  · decide

theorem isIdentifierChar_of_isAlphanum {c : Char} (h : c.isAlphanum = true) :
    isIdentifierChar c = true := by
  simp [isIdentifierChar, h]

theorem IsClean.isAscii {cs : List Char} (h : IsClean cs) : ∀ c ∈ cs, isAscii c = true :=
  fun c hc => isAscii_of_isIdentifierChar (h c hc)

theorem IsClean.filter_isAlphanumeric {cs : List Char} (h : IsClean cs) :
    cs.filter isAlphanumeric = cs.filter Char.isAlphanum :=
  List.filter_congr fun c hc => isAlphanumeric_of_isAscii (h.isAscii c hc)

theorem lowerChar_of_isAscii {c : Char} (h : isAscii c = true) : lowerChar c = [c.toLower] := by
  rw [lowerChar, if_pos h]

theorem upperChar_of_isAscii {c : Char} (h : isAscii c = true) : upperChar c = [c.toUpper] := by
  rw [upperChar, if_pos h]

theorem lowerWord_of_isAscii {w : List Char} (h : ∀ c ∈ w, isAscii c = true) :
    lowerWord w = w.map Char.toLower := by
  fun_induction lowerWord w with
  | case1 => rfl
  | case2 => exact absurd (h _ List.mem_cons_self) (by decide)
  | case3 c rest _ ih =>
    rw [lowerChar_of_isAscii (h c List.mem_cons_self),
      ih fun d hd => h d (List.mem_cons_of_mem _ hd)]
    rfl

theorem capitalWord_of_isAscii {c : Char} {w : List Char} (h : ∀ d ∈ c :: w, isAscii d = true) :
    capitalWord (c :: w) = c.toUpper :: w.map Char.toLower := by
  rw [capitalWord, upperChar_of_isAscii (h c List.mem_cons_self),
    lowerWord_of_isAscii fun d hd => h d (List.mem_cons_of_mem _ hd)]
  rfl

theorem toLowercase_of_isAscii {s : String} (h : ∀ c ∈ s.toList, isAscii c = true) :
    (toLowercase s).toList = s.toList.map Char.toLower := by
  have key : ∀ before cs : List Char, (∀ c ∈ cs, isAscii c = true) →
      lowerCharsAfter before cs = cs.map Char.toLower := by
    intro before cs hcs
    induction cs generalizing before with
    | nil => rfl
    | cons c rest ih =>
      have hc : isAscii c = true := hcs c List.mem_cons_self
      have hs : ¬ c = 'Σ' := by
        rintro rfl
        exact absurd hc (by decide)
      rw [lowerCharsAfter, if_neg hs, lowerChar_of_isAscii hc,
        ih _ fun d hd => hcs d (List.mem_cons_of_mem _ hd)]
      rfl
  rw [toLowercase, String.toList_ofList, key _ _ h]

theorem IsClean.toLowercase {s : String} (clean : IsClean s.toList) :
    IsClean (toLowercase s).toList := by
  rw [toLowercase_of_isAscii clean.isAscii]
  intro c hc
  obtain ⟨d, hd, rfl⟩ := List.mem_map.1 hc
  by_cases h : d.isUpper = true
  · have alpha : d.toLower.isAlpha = true := by simp [Char.isAlpha, h]
    exact isIdentifierChar_of_isAlphanum (by rw [Char.isAlphanum, alpha, Bool.true_or])
  · rw [Char.toLower_eq_of_not_isUpper h]
    exact clean d hd

/-! ## The letters of a text -/

/-- The ASCII letters and digits of a text, in lower case. -/
def letters (cs : List Char) : List Char := (cs.filter Char.isAlphanum).map Char.toLower

@[simp] theorem letters_nil : letters [] = [] := rfl

@[simp] theorem letters_append (a b : List Char) : letters (a ++ b) = letters a ++ letters b := by
  rw [letters, List.filter_append, List.map_append]
  rfl

theorem letters_cons_of_isAlphanum {c : Char} (h : c.isAlphanum = true) (cs : List Char) :
    letters (c :: cs) = c.toLower :: letters cs := by
  rw [letters, List.filter_cons_of_pos h]
  rfl

@[simp] theorem letters_cons_underscore (cs : List Char) : letters ('_' :: cs) = letters cs := by
  rw [letters, List.filter_cons_of_neg (by decide)]
  rfl

@[simp] theorem letters_filter (cs : List Char) :
    letters (cs.filter Char.isAlphanum) = letters cs := by
  simp [letters]

@[simp] theorem letters_map_toLower (cs : List Char) :
    letters (cs.map Char.toLower) = letters cs := by
  induction cs with
  | nil => rfl
  | cons c cs ih =>
    by_cases h : c.isAlphanum = true
    · rw [List.map_cons, letters_cons_of_isAlphanum (by rwa [isAlphanum_toLower]),
        letters_cons_of_isAlphanum h, ih, Char.toLower_toLower_eq_toLower]
    · have h' : ¬ c.toLower.isAlphanum = true := by rwa [isAlphanum_toLower]
      rw [letters, List.map_cons, List.filter_cons_of_neg h', letters, List.filter_cons_of_neg h]
      exact ih

theorem letters_lowerWord {w : List Char} (h : IsClean w) : letters (lowerWord w) = letters w := by
  simp [lowerWord_of_isAscii h.isAscii]

theorem letters_capitalWord {w : List Char} (h : IsClean w) :
    letters (capitalWord w) = letters w := by
  cases w with
  | nil => rfl
  | cons c w =>
    have ascii : isAscii c = true := h.isAscii c List.mem_cons_self
    rw [capitalWord, upperChar_of_isAscii ascii, letters_append,
      letters_lowerWord (isClean_cons_iff.1 h).2]
    by_cases hc : c.isAlphanum = true
    · rw [letters_cons_of_isAlphanum (by rwa [isAlphanum_toUpper]), letters_cons_of_isAlphanum hc,
        Char.toLower_toUpper_eq_toLower]
      rfl
    · have hc' : ¬ c.toUpper.isAlphanum = true := by rwa [isAlphanum_toUpper]
      rw [letters, List.filter_cons_of_neg hc', letters, letters, List.filter_cons_of_neg hc]
      rfl

/-- Words that are changed one by one without loss of letters keep the letters of the text. -/
theorem letters_flatMap {ws : List (List Char)} {f : List Char → List Char}
    (h : ∀ w ∈ ws, letters (f w) = letters w) : letters (ws.flatMap f) = letters ws.flatten := by
  induction ws with
  | nil => rfl
  | cons w ws ih =>
    simp [h w List.mem_cons_self, ih fun v hv => h v (List.mem_cons_of_mem _ hv)]

@[simp] theorem letters_intercalate (ws : List (List Char)) :
    letters (['_'].intercalate ws) = letters ws.flatten := by
  induction ws with
  | nil => rfl
  | cons w ws ih =>
    cases ws with
    | nil => simp
    | cons v vs => simp [List.intercalate_cons_cons, ih]

theorem mem_intercalate {ws : List (List Char)} {c : Char} (h : c ∈ ['_'].intercalate ws) :
    c = '_' ∨ ∃ w ∈ ws, c ∈ w := by
  induction ws with
  | nil => cases h
  | cons w ws ih =>
    cases ws with
    | nil => exact .inr ⟨w, List.mem_cons_self, by simpa using h⟩
    | cons v vs =>
      rw [List.intercalate_cons_cons, List.mem_append, List.mem_append, List.mem_singleton] at h
      rcases h with (h | h) | h
      · exact .inr ⟨w, List.mem_cons_self, h⟩
      · exact .inl h
      · rcases ih h with h | ⟨u, hu, h⟩
        · exact .inl h
        · exact .inr ⟨u, List.mem_cons_of_mem _ hu, h⟩

theorem IsClean.words {cs w : List Char} (h : IsClean cs) (hw : w ∈ words cs) :
    ∀ c ∈ w, c.isAlphanum = true := by
  intro c hc
  have mem : c ∈ (Text.words cs).flatten := List.mem_flatten.2 ⟨w, hw, hc⟩
  rw [flatten_words, h.filter_isAlphanumeric] at mem
  exact (List.mem_filter.1 mem).2

theorem letters_flatten_words {cs : List Char} (h : IsClean cs) :
    letters (words cs).flatten = letters cs := by
  simp [flatten_words, h.filter_isAlphanumeric]

theorem isAlphanum_of_mem_lowerWord {w : List Char} (h : ∀ c ∈ w, c.isAlphanum = true) :
    ∀ c ∈ lowerWord w, c.isAlphanum = true := by
  rw [lowerWord_of_isAscii fun c hc =>
    isAscii_of_isIdentifierChar (isIdentifierChar_of_isAlphanum (h c hc))]
  intro c hc
  obtain ⟨d, hd, rfl⟩ := List.mem_map.1 hc
  simp [h d hd]

theorem isAlphanum_of_mem_capitalWord {w : List Char} (h : ∀ c ∈ w, c.isAlphanum = true) :
    ∀ c ∈ capitalWord w, c.isAlphanum = true := by
  cases w with
  | nil => simp [capitalWord]
  | cons c w =>
    rw [capitalWord_of_isAscii fun c hc =>
      isAscii_of_isIdentifierChar (isIdentifierChar_of_isAlphanum (h c hc))]
    intro d hd
    rcases List.mem_cons.1 hd with rfl | hd
    · simp [h c List.mem_cons_self]
    · obtain ⟨e, he, rfl⟩ := List.mem_map.1 hd
      simp [h e (List.mem_cons_of_mem _ he)]

end Text

/-! ## Casing of clean texts -/

namespace Casing

open Text

variable {s : String}

theorem toList_apply_upperCamel (s : String) :
    (upperCamel.apply s).toList = (words s.toList).flatMap capitalWord :=
  String.toList_ofList

theorem toList_apply_snake (s : String) :
    (snake.apply s).toList = ['_'].intercalate ((words s.toList).map lowerWord) :=
  String.toList_ofList

theorem toList_apply_lowerCamel (s : String) :
    (lowerCamel.apply s).toList = match words s.toList with
      | [] => []
      | w :: rest => lowerWord w ++ rest.flatMap capitalWord := by
  show (toLowerCamel s).toList = _
  unfold toLowerCamel
  cases words s.toList with
  | nil => rfl
  | cons w rest => exact String.toList_ofList

/-- Casing changes no letter or digit but in its case. -/
theorem letters_apply (casing : Casing) (clean : IsClean s.toList) :
    letters (casing.apply s).toList = letters s.toList := by
  have isClean : ∀ w ∈ words s.toList, IsClean w :=
    fun w hw c hc => isIdentifierChar_of_isAlphanum (clean.words hw c hc)
  rw [← letters_flatten_words clean]
  cases casing with
  | upperCamel =>
    rw [toList_apply_upperCamel]
    exact letters_flatMap fun w hw => letters_capitalWord (isClean w hw)
  | lowerCamel =>
    rw [toList_apply_lowerCamel]
    cases hws : words s.toList with
    | nil => rfl
    | cons w rest =>
      rw [hws] at isClean
      rw [letters_append, List.flatten_cons, letters_append,
        letters_lowerWord (isClean w List.mem_cons_self),
        letters_flatMap fun v hv => letters_capitalWord (isClean v (List.mem_cons_of_mem _ hv))]
  | snake =>
    rw [toList_apply_snake, letters_intercalate, ← List.flatMap_def]
    exact letters_flatMap fun w hw => letters_lowerWord (isClean w hw)
  | unchanged => exact letters_flatten_words clean |>.symm

theorem isAlphanum_of_mem_apply_upperCamel (clean : IsClean s.toList) :
    ∀ c ∈ (upperCamel.apply s).toList, c.isAlphanum = true := by
  rw [toList_apply_upperCamel]
  intro c hc
  obtain ⟨w, hw, hc⟩ := List.mem_flatMap.1 hc
  exact isAlphanum_of_mem_capitalWord (clean.words hw) c hc

theorem isAlphanum_of_mem_apply_lowerCamel (clean : IsClean s.toList) :
    ∀ c ∈ (lowerCamel.apply s).toList, c.isAlphanum = true := by
  rw [toList_apply_lowerCamel]
  cases hws : words s.toList with
  | nil => simp
  | cons w rest =>
    have inWord : ∀ v ∈ w :: rest, ∀ c ∈ v, c.isAlphanum = true :=
      fun v hv => clean.words (hws ▸ hv)
    intro c hc
    rcases List.mem_append.1 hc with hc | hc
    · exact isAlphanum_of_mem_lowerWord (inWord w List.mem_cons_self) c hc
    · obtain ⟨v, hv, hc⟩ := List.mem_flatMap.1 hc
      exact isAlphanum_of_mem_capitalWord (inWord v (List.mem_cons_of_mem _ hv)) c hc

theorem isClean_apply (casing : Casing) (clean : IsClean s.toList) :
    IsClean (casing.apply s).toList := by
  cases casing with
  | upperCamel =>
    exact fun c hc =>
      isIdentifierChar_of_isAlphanum (isAlphanum_of_mem_apply_upperCamel clean c hc)
  | lowerCamel =>
    exact fun c hc =>
      isIdentifierChar_of_isAlphanum (isAlphanum_of_mem_apply_lowerCamel clean c hc)
  | snake =>
    rw [toList_apply_snake]
    intro c hc
    rcases mem_intercalate hc with rfl | ⟨v, hv, hc⟩
    · rfl
    · obtain ⟨w, hw, rfl⟩ := List.mem_map.1 hv
      exact isIdentifierChar_of_isAlphanum (isAlphanum_of_mem_lowerWord (clean.words hw) c hc)
  | unchanged => exact clean

/-- A name that has been cased starts with a letter or digit. -/
theorem isAlphanum_head_apply {casing : Casing} (clean : IsClean s.toList)
    (cased : casing ≠ .unchanged) {c : Char} (h : (casing.apply s).toList.head? = some c) :
    c.isAlphanum = true := by
  cases casing with
  | upperCamel => exact isAlphanum_of_mem_apply_upperCamel clean c (List.mem_of_head? h)
  | lowerCamel => exact isAlphanum_of_mem_apply_lowerCamel clean c (List.mem_of_head? h)
  | snake =>
    rw [toList_apply_snake] at h
    cases hws : words s.toList with
    | nil =>
      rw [hws] at h
      cases h
    | cons w rest =>
      have hw : w ∈ words s.toList := hws ▸ List.mem_cons_self
      have first : (['_'].intercalate ((words s.toList).map lowerWord)).head? =
          (lowerWord w).head? := by
        have ne : lowerWord w ≠ [] := by
          rw [lowerWord_of_isAscii fun d hd =>
            isAscii_of_isIdentifierChar (isIdentifierChar_of_isAlphanum (clean.words hw d hd))]
          exact List.map_eq_nil_iff.not.2 (ne_nil_of_mem_words hw)
        obtain ⟨d, ds, hd⟩ := List.exists_cons_of_ne_nil ne
        cases rest with
        | nil => simp [hws]
        | cons v vs => simp [hws, hd, List.intercalate_cons_cons]
      rw [first] at h
      exact isAlphanum_of_mem_lowerWord (clean.words hw) c (List.mem_of_head? h)
  | unchanged => exact absurd rfl cased

/-- The first character of a name, if it is a letter or digit, stays the first up to its case. -/
theorem head_apply (casing : Casing) (clean : IsClean s.toList) {c : Char}
    (h : s.toList.head? = some c) (hc : c.isAlphanum = true) :
    ∃ d, (casing.apply s).toList.head? = some d ∧ d.toLower = c.toLower := by
  by_cases cased : casing = .unchanged
  · exact ⟨c, by rw [cased]; exact h, rfl⟩
  obtain ⟨rest, hs⟩ := List.head?_eq_some_iff.1 h
  have kept := letters_apply casing clean
  rw [hs, letters_cons_of_isAlphanum hc] at kept
  cases hr : (casing.apply s).toList with
  | nil => rw [hr] at kept; cases kept
  | cons d ds =>
    have hd : d.isAlphanum = true := isAlphanum_head_apply clean cased (by rw [hr]; rfl)
    rw [hr, letters_cons_of_isAlphanum hd] at kept
    exact ⟨d, rfl, (List.cons.inj kept).1⟩

end Casing

end OpenApiGen
