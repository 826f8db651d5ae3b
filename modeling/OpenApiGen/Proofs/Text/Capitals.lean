import OpenApiGen.Proofs.Text.Words

/-!
# Capitals of a name

The capitals of a text in camel case show where its words start, unless a capital follows a
capital, with at most digits between the two, and has no small letter after it: `capitalsApart`.  A
text of ASCII letters and digits that starts with a capital is its own upper camel case if and only
if its capitals are apart (`toUpperCamel_eq_self_iff`).
-/

namespace OpenApiGen.Text

/-- Whether each capital that follows a capital, with at most digits between the two, has a small
letter after it.  `afterCapital` tells whether the last letter before the text was a capital. -/
def capitalsApart : Bool → List Char → Bool
  | _, [] => true
  | afterCapital, c :: rest =>
    if c.isUpper then (!afterCapital || rest.head?.any Char.isLower) && capitalsApart true rest
    else capitalsApart (afterCapital && !c.isLower) rest

/-! ## Words of ASCII letters and digits -/

theorem toUpper_eq_self_iff {c : Char} : c.toUpper = c ↔ c.isLower = false := by
  refine ⟨fun h => ?_, fun h => Char.toUpper_eq_of_not_isLower (by simp [h])⟩
  rw [← h]
  exact Char.isLower_toUpper_eq_false c

theorem toLower_eq_self_iff {c : Char} : c.toLower = c ↔ c.isUpper = false := by
  refine ⟨fun h => ?_, fun h => Char.toLower_eq_of_not_isUpper (by simp [h])⟩
  rw [← h]
  exact Char.isUpper_toLower_eq_false c

theorem isLower_of_isUpper {c : Char} (h : c.isUpper = true) : c.isLower = false := by
  simpa using Char.not_isLower_of_isUpper h

theorem isUpper_of_isLower {c : Char} (h : c.isLower = true) : c.isUpper = false := by
  simpa using Char.not_isUpper_of_isLower h

theorem isAlphanum_of_isUpper {c : Char} (h : c.isUpper = true) : c.isAlphanum = true := by
  simp [Char.isAlphanum, Char.isAlpha, h]

theorem isAlphanum_of_isLower {c : Char} (h : c.isLower = true) : c.isAlphanum = true := by
  simp [Char.isAlphanum, Char.isAlpha, h]

theorem isAscii_of_isAlphanum {c : Char} (h : c.isAlphanum = true) : isAscii c = true :=
  isAscii_of_isIdentifierChar (isIdentifierChar_of_isAlphanum h)

theorem isUppercase_of_isAlphanum {c : Char} (h : c.isAlphanum = true) :
    isUppercase c = c.isUpper := by
  simp [isUppercase, isAscii_of_isAlphanum h]

theorem isLowercase_of_isAlphanum {c : Char} (h : c.isAlphanum = true) :
    isLowercase c = c.isLower := by
  simp [isLowercase, isAscii_of_isAlphanum h]

theorem capitalWord_of_isAlphanum {c : Char} {w : List Char}
    (h : ∀ d ∈ c :: w, d.isAlphanum = true) :
    capitalWord (c :: w) = c.toUpper :: w.map Char.toLower :=
  capitalWord_of_isAscii fun d hd => isAscii_of_isAlphanum (h d hd)

theorem length_capitalWord {w : List Char} (h : ∀ c ∈ w, c.isAlphanum = true) :
    (capitalWord w).length = w.length := by
  cases w with
  | nil => rfl
  | cons c w => simp [capitalWord_of_isAlphanum h]

theorem capitalWord_singleton_of_isUpper {c : Char} (h : c.isUpper = true) :
    capitalWord [c] = [c] := by
  rw [capitalWord_of_isAlphanum (by simpa using isAlphanum_of_isUpper h),
    toUpper_eq_self_iff.2 (isLower_of_isUpper h)]
  rfl

/-- A word that goes on keeps its capital form if and only if it goes on without a capital. -/
theorem capitalWord_concat_eq_self_iff {w : List Char} {c : Char} (ne : w ≠ [])
    (h : ∀ d ∈ w ++ [c], d.isAlphanum = true) :
    capitalWord (w ++ [c]) = w ++ [c] ↔ capitalWord w = w ∧ c.isUpper = false := by
  obtain ⟨d, ds, rfl⟩ := List.exists_cons_of_ne_nil ne
  have hw : ∀ e ∈ d :: ds, e.isAlphanum = true := fun e he => h e (List.mem_append_left _ he)
  rw [List.cons_append, capitalWord_of_isAlphanum hw, capitalWord_of_isAlphanum (w := ds ++ [c]) h]
  simp [toLower_eq_self_iff, and_assoc]

/-- Two words in turn are capitalized if and only if each of them is. -/
theorem capitalWord_append_eq_iff {w a b : List Char} (h : ∀ c ∈ w, c.isAlphanum = true) :
    capitalWord w ++ a = w ++ b ↔ capitalWord w = w ∧ a = b :=
  ⟨fun e => List.append_inj e (length_capitalWord h), fun ⟨hw, hab⟩ => by rw [hw, hab]⟩

/-! ## Cutting at capitals -/

/-- The case of a word whose last letter is a capital, or else a small letter. -/
def WordCase.ofCapital (capital : Bool) : WordCase :=
  if capital then .upper else .lower

theorem WordCase.ofCapital_eq_lower_iff {capital : Bool} :
    ofCapital capital = .lower ↔ capital = false := by
  cases capital <;> decide

theorem WordCase.after_ofCapital {c : Char} (h : c.isAlphanum = true) (capital : Bool) :
    (ofCapital capital).after c = ofCapital (c.isUpper || (capital && !c.isLower)) := by
  unfold after ofCapital
  rw [isLowercase_of_isAlphanum h, isUppercase_of_isAlphanum h]
  cases lower : c.isLower with
  | true => simp [isUpper_of_isLower lower]
  | false => cases c.isUpper <;> cases capital <;> rfl

/-- A word that starts at a capital has the case of the capital at once. -/
theorem wordsFrom_of_isUpper {c : Char} (h : c.isUpper = true) (rest : List Char) :
    wordsFrom [] .unknown (c :: rest) = wordsFrom [c] .upper rest := by
  have alnum := isAlphanum_of_isUpper h
  have after : WordCase.after .unknown c = .upper := by
    simp [WordCase.after, isLowercase_of_isAlphanum alnum, isUppercase_of_isAlphanum alnum,
      isLower_of_isUpper h, h]
  cases rest with
  | nil => rfl
  | cons next rest => simp [wordsFrom, after]

/-- Before a small letter the case of a word plays no part. -/
theorem wordsFrom_of_isLower {c : Char} (h : c.isLower = true) (word : List Char)
    (k k' : WordCase) (rest : List Char) :
    wordsFrom word k (c :: rest) = wordsFrom word k' (c :: rest) := by
  have alnum := isAlphanum_of_isLower h
  have after (k : WordCase) : k.after c = .lower := by
    simp [WordCase.after, isLowercase_of_isAlphanum alnum, h]
  cases rest with
  | nil => cases word <;> rfl
  | cons next rest =>
    simp [wordsFrom, after, isUppercase_of_isAlphanum alnum, isUpper_of_isLower h]

/-- After a capital, a capital before a small letter starts a word; any other stays in the word. -/
theorem wordsFrom_cons_of_isUpper {word rest : List Char} {c next : Char}
    (hnext : next.isAlphanum = true) (upper : c.isUpper = true) :
    wordsFrom word .upper (c :: next :: rest) =
      if next.isLower then word.reverse :: wordsFrom [c] .upper (next :: rest)
      else wordsFrom (c :: word) .upper (next :: rest) := by
  have hc := isAlphanum_of_isUpper upper
  have after : WordCase.upper.after c = .upper :=
    (WordCase.after_ofCapital hc true).trans (by simp [upper, WordCase.ofCapital])
  rw [wordsFrom, after, if_neg (by simp), isUppercase_of_isAlphanum hc,
    isLowercase_of_isAlphanum hnext]
  cases lower : next.isLower with
  | true =>
    rw [if_pos ⟨rfl, upper, rfl⟩, if_pos rfl]
    exact congrArg _ (wordsFrom_of_isLower lower _ _ _ _)
  | false => simp

/-- A capital after a small letter, with at most digits between the two, starts a word. -/
theorem wordsFrom_cons_of_not_isUpper {word rest : List Char} {c next : Char} {capital : Bool}
    (hc : c.isAlphanum = true) (hnext : next.isAlphanum = true) (upper : c.isUpper = false) :
    wordsFrom word (.ofCapital capital) (c :: next :: rest) =
      if (capital && !c.isLower) = false ∧ next.isUpper = true then
        (c :: word).reverse :: wordsFrom [next] .upper rest
      else wordsFrom (c :: word) (.ofCapital (capital && !c.isLower)) (next :: rest) := by
  have after := WordCase.after_ofCapital hc capital
  rw [upper, Bool.false_or] at after
  rw [wordsFrom, after, isUppercase_of_isAlphanum hnext, isUppercase_of_isAlphanum hc, upper]
  simp only [WordCase.ofCapital_eq_lower_iff, Bool.false_eq_true, false_and, and_false, if_false]
  split_ifs with cut
  · rw [wordsFrom_of_isUpper cut.2]
  · rfl

theorem capitalsApart_of_isUpper {c : Char} (h : c.isUpper = true) (afterCapital : Bool)
    (rest : List Char) : capitalsApart afterCapital (c :: rest) =
      ((!afterCapital || rest.head?.any Char.isLower) && capitalsApart true rest) := by
  rw [capitalsApart, if_pos h]

theorem capitalsApart_of_not_isUpper {c : Char} (h : c.isUpper = false) (afterCapital : Bool)
    (rest : List Char) :
    capitalsApart afterCapital (c :: rest) = capitalsApart (afterCapital && !c.isLower) rest := by
  rw [capitalsApart, if_neg (by simp [h])]

/-- The words that are cut from a run are capitalized already if and only if the open word is and
the capitals that follow are apart.  No capital follows a small letter: the word would have been
closed before it. -/
theorem flatMap_wordsFrom_eq_iff (word cs : List Char) (capital : Bool) (ne : word ≠ [])
    (alnum : ∀ c ∈ word.reverse ++ cs, c.isAlphanum = true)
    (closed : capital = false → cs.head?.any Char.isUpper = false) :
    (wordsFrom word (.ofCapital capital) cs).flatMap capitalWord = word.reverse ++ cs ↔
      capitalWord word.reverse = word.reverse ∧ capitalsApart capital cs = true := by
  have ne' : word.reverse ≠ [] := by simpa using ne
  have hword : ∀ c ∈ word.reverse, c.isAlphanum = true :=
    fun c hc => alnum c (List.mem_append_left _ hc)
  match cs with
  | [] => simp [wordsFrom, capitalsApart]
  | [c] =>
    have single : wordsFrom word (.ofCapital capital) [c] = [(c :: word).reverse] := by
      cases word <;> rfl
    rw [single, List.flatMap_singleton, List.reverse_cons, capitalWord_concat_eq_self_iff ne' alnum]
    cases capital <;> cases hc : c.isUpper <;> simp_all [capitalsApart]
  | c :: next :: rest =>
    have hc : c.isAlphanum = true := alnum c (by simp)
    have hnext : next.isAlphanum = true := alnum next (by simp)
    have alnum' : ∀ d ∈ (c :: word).reverse ++ next :: rest, d.isAlphanum = true := by
      simpa using alnum
    have longer : ∀ d ∈ (c :: word).reverse, d.isAlphanum = true :=
      fun d hd => alnum' d (List.mem_append_left _ hd)
    have grown : capitalWord (c :: word).reverse = (c :: word).reverse ↔
        capitalWord word.reverse = word.reverse ∧ c.isUpper = false := by
      rw [List.reverse_cons]
      exact capitalWord_concat_eq_self_iff ne' (by simpa using longer)
    have moved : word.reverse ++ c :: next :: rest = (c :: word).reverse ++ next :: rest := by simp
    cases upper : c.isUpper with
    | true =>
      obtain rfl : capital = true := by
        by_contra small
        simp [upper] at closed
        exact small closed
      rw [WordCase.ofCapital, if_pos rfl, wordsFrom_cons_of_isUpper hnext upper,
        capitalsApart_of_isUpper upper]
      cases lower : next.isLower with
      | true =>
        have ih := flatMap_wordsFrom_eq_iff [c] (next :: rest) true (by simp)
          (fun d hd => alnum d (List.mem_append_right _ hd)) (by simp)
        rw [List.reverse_singleton, and_iff_right (capitalWord_singleton_of_isUpper upper)] at ih
        rw [if_pos rfl, List.flatMap_cons, capitalWord_append_eq_iff hword]
        refine and_congr_right fun _ => ih.trans ?_
        simp [lower]
      | false =>
        have ih := flatMap_wordsFrom_eq_iff (c :: word) (next :: rest) true (by simp) alnum'
          (by simp)
        rw [if_neg (by simp), moved]
        refine ih.trans ?_
        rw [grown, upper]
        simp [lower]
    | false =>
      rw [wordsFrom_cons_of_not_isUpper hc hnext upper, capitalsApart_of_not_isUpper upper, moved]
      rw [upper, and_iff_left rfl] at grown
      split_ifs with cut
      · have ih := flatMap_wordsFrom_eq_iff [next] rest true (by simp)
          (fun d hd => alnum' d (List.mem_append_right _ hd)) (by simp)
        rw [List.reverse_singleton, and_iff_right (capitalWord_singleton_of_isUpper cut.2)] at ih
        rw [List.flatMap_cons, capitalWord_append_eq_iff longer, grown, cut.1,
          capitalsApart_of_isUpper cut.2]
        exact and_congr_right fun _ => ih
      · have ih := flatMap_wordsFrom_eq_iff (c :: word) (next :: rest) (capital && !c.isLower)
          (by simp) alnum' (by simpa using cut)
        rw [ih, grown]
termination_by cs.length

/-! ## Words of a whole text -/

theorem runsFrom_append_cons {sep : Char} (h : isAlphanumeric sep = false) (run a b : List Char) :
    runsFrom run (a ++ sep :: b) = runsFrom run a ++ runsFrom [] b := by
  fun_induction runsFrom run a with
  | case1 => simp [runsFrom, h]
  | case2 run ne =>
    have : run ≠ [] := by simpa using ne
    simp [runsFrom, h, this]
  | case3 run c rest hc ih => simpa [runsFrom, hc] using ih
  | case4 run c rest hc empty ih =>
    obtain rfl := List.isEmpty_iff.1 empty
    simpa [runsFrom, hc] using ih
  | case5 run c rest hc ne ih => simpa [runsFrom, hc, ne] using ih

/-- A text is cut at each character that is not alphanumeric. -/
theorem words_append_cons {sep : Char} (h : isAlphanumeric sep = false) (a b : List Char) :
    words (a ++ sep :: b) = words a ++ words b := by
  rw [words, alphanumericRuns, runsFrom_append_cons h, List.flatMap_append]
  rfl

theorem words_eq_nil {cs : List Char} (h : cs.filter isAlphanumeric = []) : words cs = [] := by
  rw [← flatten_words, List.flatten_eq_nil_iff] at h
  exact List.eq_nil_iff_forall_not_mem.2 fun w hw => ne_nil_of_mem_words hw (h w hw)

theorem words_of_isAlphanumeric {cs : List Char} (h : ∀ c ∈ cs, isAlphanumeric c = true) :
    words cs = wordsFrom [] .unknown cs := by
  have runs : ∀ run rest : List Char, (∀ c ∈ rest, isAlphanumeric c = true) →
      run ≠ [] → runsFrom run rest = [run.reverse ++ rest] := by
    intro run rest hrest ne
    fun_induction runsFrom run rest <;> simp_all
  cases cs with
  | nil => rfl
  | cons c rest =>
    have hc : isAlphanumeric c = true := h c List.mem_cons_self
    rw [words, alphanumericRuns, runsFrom, if_pos hc,
      runs [c] rest (fun d hd => h d (List.mem_cons_of_mem _ hd)) (by simp)]
    simp

/-- Upper camel case starts with no small letter. -/
theorem isLower_head_toUpperCamel {s : String} (clean : IsClean s.toList) {c : Char}
    (head : (toUpperCamel s).toList.head? = some c) : c.isLower = false := by
  rw [toUpperCamel, String.toList_ofList] at head
  cases hws : words s.toList with
  | nil =>
    rw [hws] at head
    cases head
  | cons w ws =>
    have hw : w ∈ words s.toList := hws ▸ List.mem_cons_self
    obtain ⟨d, ds, rfl⟩ := List.exists_cons_of_ne_nil (ne_nil_of_mem_words hw)
    rw [hws, List.flatMap_cons, capitalWord_of_isAlphanum (clean.words hw)] at head
    cases head
    exact Char.isLower_toUpper_eq_false d

/-- A name in camel case stays as it is if and only if its capitals are apart. -/
theorem toUpperCamel_eq_self_iff {s : String} (alnum : ∀ c ∈ s.toList, c.isAlphanum = true)
    {c : Char} (head : s.toList.head? = some c) (upper : c.isUpper = true) :
    toUpperCamel s = s ↔ capitalsApart false s.toList = true := by
  obtain ⟨rest, hs⟩ := List.head?_eq_some_iff.1 head
  have alphanumeric : ∀ d ∈ s.toList, isAlphanumeric d = true := fun d hd => by
    rw [isAlphanumeric_of_isAscii (isAscii_of_isAlphanum (alnum d hd)), alnum d hd]
  have cut := flatMap_wordsFrom_eq_iff [c] rest true (by simp)
    (by simpa [hs] using alnum) (by simp)
  rw [List.reverse_singleton, and_iff_right (capitalWord_singleton_of_isUpper upper)] at cut
  rw [← String.toList_inj, toUpperCamel, String.toList_ofList, words_of_isAlphanumeric alphanumeric,
    hs, wordsFrom_of_isUpper upper, capitalsApart_of_isUpper upper]
  exact cut

end OpenApiGen.Text
