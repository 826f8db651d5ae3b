import OpenApiGen.Decoration.PythonFlask
import OpenApiGen.Proofs.Text.Sanitize

/-!
# Patterns in slashes

A pattern that stands in slashes already is cut at its last slash, whatever slashes its body has;
any other pattern is the body as a whole.  Which of the two it is can be said by positions in the
text as it is encoded: slashes are put around a pattern unless its last slash comes two bytes or more
after one at the start (`slashed`).  The positions where the text is then cut are in order and between
characters, for every pattern, and the parts make the regular expression (`regexOf_eq_slices`).
-/

namespace OpenApiGen.Decoration

/-! ## Positions in bytes -/

/-- The text between two positions, counted in bytes of UTF-8. There is none if a position is inside
of a character or after the end, or if the second one is before the first. -/
def slice? (s : String) (start stop : Nat) : Option String :=
  if h : String.Pos.Raw.IsValid s ⟨start⟩ ∧ String.Pos.Raw.IsValid s ⟨stop⟩ ∧ start ≤ stop then
    some (s.extract ⟨⟨start⟩, h.1⟩ ⟨⟨stop⟩, h.2.1⟩)
  else none

/-- A part of a text is found where it stands. -/
theorem slice?_append (a b c : String) :
    slice? (a ++ b ++ c) a.utf8ByteSize (a.utf8ByteSize + b.utf8ByteSize) = some b := by
  have first : String.Pos.Raw.IsValid (a ++ b ++ c) ⟨a.utf8ByteSize⟩ :=
    String.Pos.Raw.isValid_iff_exists_append.2 ⟨a, b ++ c, String.append_assoc, rfl⟩
  have last : String.Pos.Raw.IsValid (a ++ b ++ c) ⟨a.utf8ByteSize + b.utf8ByteSize⟩ :=
    String.Pos.Raw.isValid_iff_exists_append.2 ⟨a ++ b, c, rfl, by simp [String.rawEndPos]⟩
  have bytes : ((a.toByteArray ++ b.toByteArray) ++ c.toByteArray).extract a.toByteArray.size
      (a.toByteArray.size + b.toByteArray.size) = b.toByteArray := by
    rw [ByteArray.append_assoc, ← Nat.add_zero a.toByteArray.size, Nat.add_assoc,
      ByteArray.extract_append_size_add, Nat.zero_add, ByteArray.extract_append_eq_left rfl]
  rw [slice?, dif_pos ⟨first, last, Nat.le_add_right _ _⟩, Option.some.injEq]
  apply String.toByteArray_inj.1
  rw [String.toByteArray_extract, String.toByteArray_append, String.toByteArray_append]
  exact bytes

/-- The position of the last slash, in bytes. -/
def lastSlash? : List Char → Option Nat
  | [] => none
  | c :: rest =>
    match lastSlash? rest with
    | some position => some (c.utf8Size + position)
    | none => if c = '/' then some 0 else none

theorem lastSlash?_eq_none_iff {cs : List Char} : lastSlash? cs = none ↔ '/' ∉ cs := by
  induction cs with
  | nil => simp [lastSlash?]
  | cons c rest ih =>
    rw [lastSlash?]
    cases found : lastSlash? rest with
    | some position =>
      have : '/' ∈ rest := by simpa [found] using ih
      simp [this]
    | none =>
      have : '/' ∉ rest := ih.1 found
      by_cases slash : c = '/'
      · simp [slash]
      · simp [slash, this, Ne.symm slash]

theorem lastSlash?_append (before : List Char) {after : List Char} (plain : '/' ∉ after) :
    lastSlash? (before ++ '/' :: after) = some (String.ofList before).utf8ByteSize := by
  induction before with
  | nil =>
    rw [List.nil_append, lastSlash?, lastSlash?_eq_none_iff.2 plain]
    rfl
  | cons c rest ih =>
    rw [List.cons_append, lastSlash?, ih]
    simp [String.ofList_cons, String.utf8ByteSize_append]

/-! ## Patterns with a body between slashes -/

/-- The regular expression of a body and of flags. -/
def regex (body flags : String) : Regex where
  body := Text.replaceChar '\x27' "\\'" body
  modifiers := flags.toList.filterMap modifierName?

/-- A pattern is a body in slashes and flags without a slash. -/
def InSlashes (pattern body flags : String) : Prop :=
  pattern = "/" ++ body ++ "/" ++ flags ∧ body ≠ "" ∧ '/' ∉ flags.toList

/-- A pattern with slashes around it, unless it has a body between slashes already. -/
def slashed (pattern : String) : String :=
  if Text.startsWith "/" pattern ∧ (lastSlash? pattern.toList).any (2 ≤ ·) then pattern
  else "/" ++ pattern ++ "/"

variable {pattern body flags : String}

theorem toList_inSlashes (body flags : String) : ("/" ++ body ++ "/" ++ flags).toList =
    '/' :: (body.toList ++ '/' :: flags.toList) := by
  simp

/-- The last slash comes right after the body. -/
theorem lastSlash?_inSlashes (plain : '/' ∉ flags.toList) :
    lastSlash? ("/" ++ body ++ "/" ++ flags).toList = some (1 + body.utf8ByteSize) := by
  rw [toList_inSlashes, ← List.cons_append, lastSlash?_append _ plain, String.ofList_cons,
    String.utf8ByteSize_append, String.ofList_toList]
  rfl

/-- Whatever has a slash has a last one. -/
theorem exists_last_slash {cs : List Char} (h : '/' ∈ cs) :
    ∃ before after, cs = before ++ '/' :: after ∧ '/' ∉ after := by
  obtain ⟨after, before, split, plain⟩ := List.eq_append_cons_of_mem (List.mem_reverse.2 h)
  refine ⟨before.reverse, after.reverse, ?_, by simpa using plain⟩
  rw [← List.reverse_reverse cs, split]
  simp

theorem splitSlashes?_inSlashes (body : String) (plain : '/' ∉ flags.toList) :
    splitSlashes? ("/" ++ body ++ "/" ++ flags).toList =
      if body = "" then none else some (body.toList, flags.toList) := by
  have reversed : (body.toList ++ '/' :: flags.toList).reverse =
      flags.toList.reverse ++ '/' :: body.toList.reverse := by simp
  have before : ∀ c ∈ flags.toList.reverse, decide (c ≠ '/') = true := fun c mem =>
    decide_eq_true fun slash => plain (slash ▸ List.mem_reverse.1 mem)
  rw [toList_inSlashes, splitSlashes?, reversed, List.takeWhile_append_of_pos before,
    List.dropWhile_append_of_pos before]
  simp

theorem splitSlashes?_of_notMem {rest : List Char} (plain : '/' ∉ rest) :
    splitSlashes? ('/' :: rest) = none := by
  have all : ∀ c ∈ rest.reverse, decide (c ≠ '/') = true := fun c mem =>
    decide_eq_true fun slash => plain (slash ▸ List.mem_reverse.1 mem)
  rw [splitSlashes?, List.dropWhile_eq_nil_iff.2 all]
  rfl

/-- A pattern that stands in slashes stays as it is, any other one gets slashes. -/
theorem slashed_cases (pattern : String) :
    (∃ body flags, InSlashes pattern body flags ∧ slashed pattern = pattern) ∨
      splitSlashes? pattern.toList = none ∧ slashed pattern = "/" ++ pattern ++ "/" := by
  unfold slashed
  by_cases starts : Text.startsWith "/" pattern = true
  · obtain ⟨rest, hrest⟩ := Text.startsWith_iff.1 starts
    have split : pattern.toList = '/' :: rest := hrest.symm
    by_cases more : '/' ∈ rest
    · obtain ⟨before, after, rfl, plain⟩ := exists_last_slash more
      obtain rfl : pattern = "/" ++ .ofList before ++ "/" ++ .ofList after :=
        String.toList_injective (by rw [split]; simp)
      have plain' : '/' ∉ (String.ofList after).toList := by simpa using plain
      rw [lastSlash?_inSlashes plain', splitSlashes?_inSlashes _ plain']
      by_cases empty : String.ofList before = ""
      · refine .inr ⟨if_pos empty, if_neg ?_⟩
        simp [empty]
      · have size : String.utf8ByteSize (.ofList before) ≠ 0 :=
          fun zero => empty (String.utf8ByteSize_eq_zero_iff.1 zero)
        refine .inl ⟨_, _, ⟨rfl, empty, plain'⟩, if_pos ⟨starts, ?_⟩⟩
        simp
        omega
    · have first : lastSlash? pattern.toList = some 0 := by
        rw [split]
        exact lastSlash?_append [] more
      refine .inr ⟨split ▸ splitSlashes?_of_notMem more, if_neg ?_⟩
      simp [first]
  · refine .inr ⟨?_, if_neg fun h => starts h.1⟩
    unfold splitSlashes?
    split
    · next rest split =>
      have starts' : "/".toList <+: pattern.toList := ⟨rest, split.symm⟩
      exact absurd (Text.startsWith_iff.2 starts') starts
    · rfl

/-- A pattern in slashes starts with one, and the last one comes after two bytes or more. -/
theorem InSlashes.slashes (h : InSlashes pattern body flags) :
    (∃ rest, pattern = "/" ++ rest) ∧
      ∃ before after, pattern = before ++ "/" ++ after ∧ 2 ≤ before.utf8ByteSize := by
  obtain ⟨rfl, some, -⟩ := h
  refine ⟨⟨body ++ "/" ++ flags, by simp only [String.append_assoc]⟩, "/" ++ body, flags, rfl, ?_⟩
  have size : body.utf8ByteSize ≠ 0 := fun zero => some (String.utf8ByteSize_eq_zero_iff.1 zero)
  have slash : "/".utf8ByteSize = 1 := rfl
  rw [String.utf8ByteSize_append]
  omega

/-! ## Regular expressions of patterns -/

theorem regexOf_inSlashes (h : InSlashes pattern body flags) :
    regexOf pattern = regex body flags := by
  obtain ⟨rfl, some, plain⟩ := h
  rw [regexOf, splitSlashes?_inSlashes body plain, if_neg some, Option.getD_some]
  simp [regex]

theorem regexOf_of_split_none (h : splitSlashes? pattern.toList = none) :
    regexOf pattern = regex pattern "" := by
  rw [regexOf, h, Option.getD_none]
  simp [regex]

/-- With slashes around it if it needs some, a pattern is the body and the flags in slashes that its
regular expression is made of. -/
theorem exists_slashed (pattern : String) : ∃ body flags,
    slashed pattern = "/" ++ body ++ "/" ++ flags ∧ '/' ∉ flags.toList ∧
      regexOf pattern = regex body flags := by
  rcases slashed_cases pattern with ⟨body, flags, inSlashes, same⟩ | ⟨bare, around⟩
  · exact ⟨body, flags, same.trans inSlashes.1, inSlashes.2.2, regexOf_inSlashes inSlashes⟩
  · refine ⟨pattern, "", ?_, by simp, regexOf_of_split_none bare⟩
    rw [around, String.append_empty]

/-- No flag is named by a slash. -/
theorem regex_slash (body flags : String) : regex body ("/" ++ flags) = regex body flags := by
  simp [regex, modifierName?]

/-- The text after the first slash up to the last one is the body, the rest is the last slash with
the flags. -/
theorem slices_inSlashes (body : String) (plain : '/' ∉ flags.toList) :
    let text := "/" ++ body ++ "/" ++ flags
    ∃ stop, lastSlash? text.toList = some stop ∧ 1 ≤ stop ∧ slice? text 1 stop = some body ∧
      slice? text stop text.utf8ByteSize = some ("/" ++ flags) := by
  intro text
  have split : text = "/" ++ body ++ ("/" ++ flags) := String.append_assoc
  have size : text.utf8ByteSize = 1 + body.utf8ByteSize + ("/" ++ flags).utf8ByteSize := by
    rw [split, String.utf8ByteSize_append, String.utf8ByteSize_append]
    rfl
  refine ⟨_, lastSlash?_inSlashes plain, Nat.le_add_right 1 _, ?_, ?_⟩
  · rw [split]
    exact slice?_append "/" body ("/" ++ flags)
  · have rest := slice?_append ("/" ++ body) ("/" ++ flags) ""
    rw [String.append_empty, ← split, String.utf8ByteSize_append] at rest
    rw [size]
    exact rest

/-- The parts of a pattern are cut out between characters and in order, whatever the pattern is. A
pattern of a body in slashes, which can have slashes of its own, and of flags without a slash has
this body and the flags that have a name; one that does not start with a slash, or has none two
bytes after the start or later, is a body without flags. -/
theorem regexOf_eq_slices :
    (∀ pattern, let text := slashed pattern
      ∃ stop body flags, lastSlash? text.toList = some stop ∧ 1 ≤ stop ∧
        slice? text 1 stop = some body ∧ slice? text stop text.utf8ByteSize = some flags ∧
        regexOf pattern = regex body flags) ∧
    (∀ body flags, body ≠ "" → '/' ∉ flags.toList →
      regexOf ("/" ++ body ++ "/" ++ flags) = regex body flags) ∧
    ∀ pattern, (∀ rest, pattern ≠ "/" ++ rest) ∨
        (∀ before after, pattern = before ++ "/" ++ after → before.utf8ByteSize < 2) →
      regexOf pattern = { body := Text.replaceChar '\x27' "\\'" pattern, modifiers := [] } := by
  refine ⟨fun pattern => ?_, fun body flags some plain => ?_, fun pattern bare => ?_⟩
  · intro text
    obtain ⟨body, flags, split, plain, same⟩ := exists_slashed pattern
    obtain ⟨stop, last, first, whole, rest⟩ := slices_inSlashes body plain
    rw [← split] at last whole rest
    refine ⟨stop, body, "/" ++ flags, last, first, whole, rest, ?_⟩
    rw [regex_slash, same]
  · exact regexOf_inSlashes ⟨rfl, some, plain⟩
  · rcases slashed_cases pattern with ⟨body, flags, inSlashes, -⟩ | ⟨none, -⟩
    · obtain ⟨⟨rest, starts⟩, before, after, split, late⟩ := inSlashes.slashes
      rcases bare with start | early
      · exact absurd starts (start rest)
      · exact absurd (early before after split) (Nat.not_lt.2 late)
    · exact regexOf_of_split_none none

/-- A body with a slash and an apostrophe, a flag without a name, and a slash at the start that ends
no body. -/
theorem regexOf_apostrophe :
    "it's a/b" ≠ "" ∧ '/' ∉ "ixq".toList ∧
      regexOf ("/" ++ "it's a/b" ++ "/" ++ "ixq") =
        { body := "it\\'s a/b", modifiers := ["IGNORECASE", "VERBOSE"] } ∧
      (∀ before after, "/é" = before ++ "/" ++ after → before.utf8ByteSize < 2) ∧
      regexOf "/é" = { body := "/é", modifiers := [] } := by
  have some : "it's a/b" ≠ "" := by decide
  have plain : '/' ∉ "ixq".toList := by decide
  have named : regex "it's a/b" "ixq" =
      { body := "it\\'s a/b", modifiers := ["IGNORECASE", "VERBOSE"] } := by decide
  have escaped : Text.replaceChar '\x27' "\\'" "/é" = "/é" := by decide
  have early (before after : String) (split : "/é" = before ++ "/" ++ after) :
      before.utf8ByteSize < 2 := by
    have chars := congrArg String.toList split
    rw [String.toList_append, String.toList_append] at chars
    cases start : before.toList with
    | nil =>
      rw [String.toList_eq_nil_iff.1 start]
      decide
    | cons c rest =>
      rw [start] at chars
      cases rest <;> simp at chars
  have delimited := regexOf_eq_slices.2.1 "it's a/b" "ixq" some plain
  have bare := regexOf_eq_slices.2.2 "/é" (.inr early)
  rw [named] at delimited
  rw [escaped] at bare
  exact ⟨some, plain, delimited, early, bare⟩

end OpenApiGen.Decoration
