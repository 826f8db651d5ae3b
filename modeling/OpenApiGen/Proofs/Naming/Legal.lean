import OpenApiGen.Naming.Model
import OpenApiGen.Proofs.Profile
import OpenApiGen.Proofs.Text.Words

/-!
# Generated names are legal

A legal name is not empty, does not start with a digit, has only the characters of an identifier,
and is no reserved word (`LegalName`).  A profile is *disciplined* when its reserved words leave room
for the words and underscores that naming puts around a name; every profile of a language is, under
any settings that map no reserved word (`disciplined_of_withOptions`).  Under a disciplined profile
every raw name gives legal names of identifiers, models and operations.
-/

namespace OpenApiGen

open Text

/-! ## What reserved words look like -/

/-- What naming puts before a name, or in the place of one. -/
def fillers : List String := ["call", "empty", "model", "operation"]

/-- A word in lower case that starts with no filler, and that has no dollar sign before it and no
underscore at either end unless it is a lone underscore. -/
def isTame (cs : List Char) : Bool :=
  !cs.isEmpty && (fillers.all fun filler => !filler.toList.isPrefixOf (letters cs)) &&
    (cs == ['_'] || !([some '_', some '$'].contains cs.head? || cs.getLast? == some '_'))

/-- A word in lower case that starts with a letter, and with `var` only if it is `var`. -/
def isVarTame (cs : List Char) : Bool :=
  (cs.head?.map Char.isAlpha).getD false &&
    (!"var".toList.isPrefixOf (letters cs) || letters cs == "var".toList)

theorem all_isTame (language : Language) : (language.reservedWords.all fun w =>
    w.toList.all isAscii && isTame (w.toList.map Char.toLower)) = true := by
  have swift : (Profile.swiftReserved.all fun w =>
      w.toList.all isAscii && isTame (w.toList.map Char.toLower)) = true := by decide +kernel
  cases language with
  | go | javascript | pythonFlask => decide +kernel
  | swift4 | swift5 => exact swift

theorem all_isVarTame :
    (Profile.goReserved.all fun w => isVarTame (w.toList.map Char.toLower)) = true := by
  decide +kernel

/-- A reserved name of ASCII is one of the reserved words up to its case. -/
theorem Language.Reserves.exists_map_toLower {language : Language} {name : String}
    (h : language.Reserves name) (ascii : ∀ c ∈ name.toList, isAscii c = true) :
    ∃ w ∈ language.reservedWords, w.toList.map Char.toLower = name.toList.map Char.toLower := by
  obtain ⟨w, hw, same⟩ := h
  refine ⟨w, hw, ?_⟩
  have tame := List.all_eq_true.1 (all_isTame language) w hw
  rw [Bool.and_eq_true, List.all_eq_true] at tame
  have lower (same : toLowercase w = toLowercase name) :
      w.toList.map Char.toLower = name.toList.map Char.toLower := by
    rw [← toLowercase_of_isAscii tame.1, ← toLowercase_of_isAscii ascii, same]
  cases language with
  | go | javascript | pythonFlask => exact lower same
  | swift4 | swift5 => exact congrArg (fun s : String => s.toList.map Char.toLower) same

/-! ## Disciplined profiles -/

/-- A profile whose reserved words keep clear of what naming makes of them. -/
structure Profile.Disciplined (p : Profile) : Prop where
  unmapped : p.naming.reservedMappings = []
  marker : p.rules.modelMarker = "Model"
  lone : ∀ name, p.rules.loneUnderscore = some name → name = "_u"
  tame : ∀ name : String, (∀ c ∈ name.toList, isAscii c = true) → p.isReserved name = true →
    isTame (name.toList.map Char.toLower) = true
  /-- Names that start with a digit are escaped by an underscore before them, or else all escapes
  put the underscore at the end and `Var` stands before digits. -/
  digits : p.rules.escape = .underscoreBefore ∧ p.rules.leadingDigit = .escape ∨
    p.rules.escape = .underscoreAfter ∧ p.rules.leadingDigit = .marker "Var" ∧
      ∀ name : String, (∀ c ∈ name.toList, isAscii c = true) → p.isReserved name = true →
        isVarTame (name.toList.map Char.toLower) = true

/-- The settings of a run keep the profile of a language disciplined as long as they map no word. -/
theorem disciplined_of_withOptions {language : Language} {o : Options} {p : Profile}
    (h : language.profile.withOptions o = .ok p) (unmapped : o.reservedMappings = []) :
    p.Disciplined where
  unmapped := by
    obtain ⟨casing, -, rfl⟩ := Profile.withOptions_cases h
    rw [unmapped]
    cases language <;> rfl
  marker := by
    obtain ⟨casing, -, rfl⟩ := Profile.withOptions_cases h
    cases language <;> rfl
  lone := by
    obtain ⟨casing, -, rfl⟩ := Profile.withOptions_cases h
    intro name hname
    cases language <;> cases hname
    rfl
  tame := by
    intro name ascii reserved
    obtain ⟨w, hw, same⟩ := ((Language.isReserved_iff h name).1 reserved).exists_map_toLower ascii
    rw [← same]
    exact (Bool.and_eq_true_iff.1 (List.all_eq_true.1 (all_isTame language) w hw)).2
  digits := by
    cases language with
    | go =>
      refine .inr ⟨?_, ?_, fun name ascii reserved => ?_⟩
      · obtain ⟨casing, -, rfl⟩ := Profile.withOptions_cases h
        rfl
      · obtain ⟨casing, -, rfl⟩ := Profile.withOptions_cases h
        rfl
      · obtain ⟨w, hw, same⟩ := ((Language.isReserved_iff h name).1 reserved).exists_map_toLower ascii
        rw [← same]
        exact List.all_eq_true.1 all_isVarTame w hw
    | javascript | pythonFlask | swift4 | swift5 =>
      obtain ⟨casing, -, rfl⟩ := Profile.withOptions_cases h
      exact .inl ⟨rfl, rfl⟩

/-! ## Legal names -/

/-- A name that is not empty, does not start with a digit, consists of ASCII letters, digits and
underscores, and is not reserved.  With `dollar` one dollar sign may stand before the others. -/
structure LegalName (reserved : String → Prop) (dollar : Bool) (name : String) : Prop where
  nonempty : name ≠ ""
  head : ∀ c, name.toList.head? = some c → c.isDigit = false
  chars : IsClean name.toList ∨ dollar = true ∧ ∃ cs, name.toList = '$' :: cs ∧ IsClean cs
  unreserved : ¬ reserved name

theorem LegalName.mono {reserved reserved' : String → Prop} {dollar : Bool} {name : String}
    (h : LegalName reserved dollar name) (le : reserved' name → reserved name) :
    LegalName reserved' dollar name :=
  ⟨h.nonempty, h.head, h.chars, fun r => h.unreserved (le r)⟩

theorem LegalName.isClean {reserved : String → Prop} {name : String}
    (h : LegalName reserved false name) : IsClean name.toList :=
  h.chars.resolve_right fun h => Bool.false_ne_true h.1

theorem LegalName.weaken {reserved : String → Prop} {dollar : Bool} {name : String}
    (h : LegalName reserved false name) : LegalName reserved dollar name :=
  ⟨h.nonempty, h.head, .inl h.isClean, h.unreserved⟩

theorem isAlpha_of_toLower_eq {c d : Char} (h : d.toLower = c.toLower) (hc : c.isAlpha = true) :
    d.isAlpha = true := by
  rw [← Char.isAlpha_toLower_eq_isAlpha, h, Char.isAlpha_toLower_eq_isAlpha, hc]

theorem isDigit_of_isAlpha {c : Char} (h : c.isAlpha = true) : c.isDigit = false := by
  simp only [Char.isAlpha, Char.isUpper, Char.isLower, Bool.or_eq_true, Bool.and_eq_true,
    decide_eq_true_eq, UInt32.le_iff_toNat_le] at h
  simp only [Char.isDigit, Bool.and_eq_false_iff, decide_eq_false_iff_not, UInt32.le_iff_toNat_le]
  right
  rcases h with h | h
  · exact Nat.not_le.2 (Nat.lt_of_lt_of_le (by decide) h.1)
  · exact Nat.not_le.2 (Nat.lt_of_lt_of_le (by decide) h.1)

theorem startsWithDigit_iff {name : String} :
    startsWithDigit name = true ↔ ∃ c, name.toList.head? = some c ∧ c.isDigit = true := by
  unfold startsWithDigit
  cases name.toList with
  | nil => simp
  | cons c cs => simp

theorem head?_map_toLower {cs : List Char} {c : Char} (h : cs.head? = some c) :
    (cs.map Char.toLower).head? = some c.toLower := by
  rw [List.head?_map, h]
  rfl

namespace Profile

/-- A legal name under a profile. -/
abbrev Legal (p : Profile) (dollar : Bool) (name : String) : Prop :=
  LegalName (p.isReserved · = true) dollar name

variable {p : Profile} {name : String}

/-- A clean name that passes every check is legal. -/
theorem legal_of_checks (clean : IsClean name.toList) (empty : name ≠ "")
    (reserved : ¬ p.isReserved name = true) (digit : ¬ startsWithDigit name = true) :
    p.Legal false name := by
  refine ⟨empty, fun c hc => ?_, .inl clean, reserved⟩
  by_contra h
  exact digit (startsWithDigit_iff.2 ⟨c, hc, Bool.eq_true_of_not_eq_false h⟩)

/-- A name of capitals and underscores with a capital is legal unless it is reserved. -/
theorem legal_of_isAllCaps (clean : IsClean name.toList) (caps : isAllCaps name = true)
    (free : ¬ p.isReserved name = true) : p.Legal false name := by
  rw [isAllCaps, Bool.and_eq_true, List.any_eq_true, List.all_eq_true] at caps
  obtain ⟨⟨c, hc, -⟩, all⟩ := caps
  refine ⟨?_, fun d hd => ?_, .inl clean, free⟩
  · rintro rfl
    cases hc
  · have := all d (List.mem_of_head? hd)
    rw [Bool.or_eq_true, decide_eq_true_eq] at this
    rcases this with upper | rfl
    · exact isDigit_of_isAlpha (by rw [Char.isAlpha, upper, Bool.true_or])
    · rfl

namespace Disciplined

variable (hp : p.Disciplined)

include hp

theorem escapeAs_eq (casing : Casing) (word : String) :
    p.escapeAs casing word = match p.rules.escape with
      | .underscoreBefore => "_" ++ word
      | .underscoreAfter => casing.apply word ++ "_" := by
  have unmapped : p.mappedWord? word = none := by
    unfold mappedWord?
    rw [hp.unmapped]
    split
    · next h => cases h
    · split <;> rfl
  unfold escapeAs
  generalize p.mappedWord? word = mapped at unmapped
  subst unmapped
  rfl

theorem not_reserved_of_filler (clean : IsClean name.toList) {filler : String}
    (mem : filler ∈ fillers) (starts : filler.toList <+: letters name.toList) :
    ¬ p.isReserved name = true := by
  intro reserved
  have tame := hp.tame name clean.isAscii reserved
  simp only [isTame, Bool.and_eq_true, List.all_eq_true, letters_map_toLower] at tame
  have := tame.1.2 filler mem
  rw [List.isPrefixOf_iff_prefix.2 starts] at this
  cases this

theorem not_reserved_of_edge (ascii : ∀ c ∈ name.toList, isAscii c = true)
    (edge : name.toList.head? = some '_' ∨ name.toList.head? = some '$' ∨
      name.toList.getLast? = some '_') (long : name.toList.length ≠ 1) :
    ¬ p.isReserved name = true := by
  intro reserved
  have tame := hp.tame name ascii reserved
  simp only [isTame, Bool.and_eq_true, Bool.or_eq_true] at tame
  rcases tame.2 with lone | free
  · have := congrArg List.length (beq_iff_eq.1 lone)
    rw [List.length_map] at this
    exact long this
  · rcases edge with h | h | h
    · rw [head?_map_toLower h] at free
      simp at free
    · rw [head?_map_toLower h] at free
      simp at free
    · rw [List.getLast?_map, h] at free
      simp at free

theorem nonempty_of_reserved (ascii : ∀ c ∈ name.toList, isAscii c = true)
    (reserved : p.isReserved name = true) : name.toList ≠ [] := by
  intro h
  have tame := hp.tame name ascii reserved
  rw [h] at tame
  cases tame

/-- A clean name that starts with the letters of a filler, and with a letter. -/
theorem legal_of_filler (clean : IsClean name.toList) {filler : String} (mem : filler ∈ fillers)
    (starts : filler.toList <+: letters name.toList) {c : Char} (head : name.toList.head? = some c)
    (alpha : c.isAlpha = true) : p.Legal false name where
  nonempty := by
    rintro rfl
    cases head
  head := by
    intro d hd
    obtain rfl : c = d := Option.some.inj (head.symm.trans hd)
    exact isDigit_of_isAlpha alpha
  chars := .inl clean
  unreserved := hp.not_reserved_of_filler clean mem starts

theorem legal_underscore_append (clean : IsClean name.toList) (ne : name.toList ≠ []) :
    p.Legal false ("_" ++ name) := by
  have chars : ("_" ++ name).toList = '_' :: name.toList := String.toList_append
  have clean' : IsClean ("_" ++ name).toList := by
    rw [chars]
    exact isClean_cons_iff.2 ⟨rfl, clean⟩
  refine ⟨fun h => ?_, fun c hc => ?_, .inl clean', ?_⟩
  · rw [h] at chars
    cases chars
  · rw [chars] at hc
    cases hc
    rfl
  · refine hp.not_reserved_of_edge clean'.isAscii (.inl (by rw [chars]; rfl)) ?_
    rw [chars, List.length_cons]
    exact fun h => ne (List.length_eq_zero_iff.1 (Nat.succ.inj h))

theorem legal_append_underscore (clean : IsClean name.toList) {c : Char}
    (head : name.toList.head? = some c) (alpha : c.isAlpha = true) :
    p.Legal false (name ++ "_") := by
  obtain ⟨rest, hrest⟩ := List.head?_eq_some_iff.1 head
  have chars : (name ++ "_").toList = c :: (rest ++ ['_']) := by
    rw [String.toList_append, hrest]
    rfl
  have clean' : IsClean (name ++ "_").toList := by
    rw [String.toList_append]
    exact isClean_append_iff.2 ⟨clean, by decide⟩
  refine ⟨fun h => ?_, fun d hd => ?_, .inl clean', ?_⟩
  · rw [h] at chars
    cases chars
  · rw [chars] at hd
    cases hd
    exact isDigit_of_isAlpha alpha
  · refine hp.not_reserved_of_edge clean'.isAscii (.inr (.inr ?_)) ?_
    · rw [String.toList_append]
      exact List.getLast?_concat
    · rw [chars]
      simp

/-- Where the underscore of an escape stands at the end, reserved names start with letters. -/
theorem isAlpha_head_of_reserved (after : p.rules.escape = .underscoreAfter)
    (clean : IsClean name.toList) (reserved : p.isReserved name = true) :
    ∃ c, name.toList.head? = some c ∧ c.isAlpha = true := by
  obtain ⟨c, rest, hname⟩ :=
    List.exists_cons_of_ne_nil (hp.nonempty_of_reserved clean.isAscii reserved)
  refine ⟨c, by rw [hname]; rfl, ?_⟩
  rcases hp.digits with ⟨before, -⟩ | ⟨-, -, plain⟩
  · rw [before] at after
    cases after
  · have tame := plain name clean.isAscii reserved
    rw [isVarTame, hname] at tame
    simpa using (Bool.and_eq_true_iff.1 tame).1

/-- A reserved name is legal once it is escaped. -/
theorem legal_escapeAs (casing : Casing) (clean : IsClean name.toList)
    (reserved : p.isReserved name = true) : p.Legal false (p.escapeAs casing name) := by
  rw [hp.escapeAs_eq]
  rcases hp.digits with ⟨before, -⟩ | ⟨after, -, -⟩
  · rw [before]
    exact hp.legal_underscore_append clean (hp.nonempty_of_reserved clean.isAscii reserved)
  · rw [after]
    obtain ⟨c, head, alpha⟩ := hp.isAlpha_head_of_reserved after clean reserved
    obtain ⟨d, hd, lower⟩ := Casing.head_apply casing clean head
      (by rw [Char.isAlphanum, alpha]; rfl)
    exact hp.legal_append_underscore (Casing.isClean_apply casing clean) hd
      (isAlpha_of_toLower_eq lower alpha)

/-- `Var` before a name that starts with a digit, in some casing. -/
theorem legal_of_var (after : p.rules.escape = .underscoreAfter) {name' : String}
    (clean : IsClean name'.toList) {d : Char} (head : name'.toList.head? = some d)
    (lower : d.toLower = 'v') (starts : letters name'.toList = "var".toList ++ letters name.toList)
    (digit : startsWithDigit name = true) : p.Legal false name' := by
  have alpha : d.isAlpha = true := isAlpha_of_toLower_eq (c := 'v') lower rfl
  refine ⟨?_, fun c hc => ?_, .inl clean, fun reserved => ?_⟩
  · rintro rfl
    cases head
  · obtain rfl : d = c := Option.some.inj (head.symm.trans hc)
    exact isDigit_of_isAlpha alpha
  · rcases hp.digits with ⟨before, -⟩ | ⟨-, -, plain⟩
    · rw [before] at after
      cases after
    · have tame := plain name' clean.isAscii reserved
      have some_digit : letters name.toList ≠ [] := by
        obtain ⟨c, hc, hdigit⟩ := startsWithDigit_iff.1 digit
        obtain ⟨rest, hname⟩ := List.head?_eq_some_iff.1 hc
        rw [hname, letters_cons_of_isAlphanum (by rw [Char.isAlphanum, hdigit, Bool.or_true])]
        exact List.cons_ne_nil _ _
      rw [isVarTame, letters_map_toLower, starts] at tame
      simp [some_digit] at tame

theorem legal_escapeDigit (casing : Casing) (clean : IsClean name.toList)
    (digit : startsWithDigit name = true) : p.Legal false (p.escapeDigit casing name) := by
  unfold escapeDigit
  rcases hp.digits with ⟨before, escape⟩ | ⟨after, marker, -⟩
  · rw [escape]
    show p.Legal false (p.escapeAs casing name)
    rw [hp.escapeAs_eq, before]
    refine hp.legal_underscore_append clean fun h => ?_
    obtain ⟨c, hc, -⟩ := startsWithDigit_iff.1 digit
    rw [h] at hc
    cases hc
  · rw [marker]
    show p.Legal false
      (if casing = .unchanged then "Var" ++ name else casing.apply ("Var" ++ "_" ++ name))
    by_cases h : casing = .unchanged
    · rw [if_pos h]
      have chars : ("Var" ++ name).toList = 'V' :: 'a' :: 'r' :: name.toList := String.toList_append
      refine hp.legal_of_var after (d := 'V') ?_ ?_ rfl ?_ digit
      · rw [chars]
        exact isClean_append_iff.2 ⟨(by decide : IsClean ['V', 'a', 'r']), clean⟩
      · rw [chars]
        rfl
      · rw [chars]
        exact letters_append ['V', 'a', 'r'] _
    · rw [if_neg h]
      have chars : ("Var" ++ "_" ++ name).toList = 'V' :: 'a' :: 'r' :: '_' :: name.toList := by
        rw [String.toList_append]
        rfl
      have clean' : IsClean ("Var" ++ "_" ++ name).toList := by
        rw [chars]
        exact isClean_append_iff.2 ⟨(by decide : IsClean ['V', 'a', 'r', '_']), clean⟩
      obtain ⟨d, hd, lower⟩ := Casing.head_apply casing clean' (c := 'V') (by rw [chars]; rfl) rfl
      refine hp.legal_of_var after (Casing.isClean_apply casing clean') hd lower ?_ digit
      rw [Casing.letters_apply casing clean', chars]
      exact letters_append ['V', 'a', 'r', '_'] _

/-- A filler in some casing, alone or before a name. -/
theorem legal_apply_of_filler (casing : Casing) (clean : IsClean name.toList) {filler : String}
    (mem : filler ∈ fillers) (starts : filler.toList <+: name.toList) :
    p.Legal false (casing.apply name) := by
  obtain ⟨same, c, hc, alpha⟩ : letters filler.toList = filler.toList ∧
      ∃ c, filler.toList.head? = some c ∧ c.isAlpha = true := by
    simp only [fillers, List.mem_cons, List.not_mem_nil, or_false] at mem
    rcases mem with rfl | rfl | rfl | rfl <;> exact ⟨by rfl, _, rfl, rfl⟩
  obtain ⟨rest, hname⟩ := starts
  obtain ⟨d, hd, lower⟩ := Casing.head_apply casing clean (c := c)
    (by rw [← hname, List.head?_append, hc]; rfl)
    (by rw [Char.isAlphanum, alpha]; rfl)
  refine hp.legal_of_filler (Casing.isClean_apply casing clean) mem ?_ hd
    (isAlpha_of_toLower_eq lower alpha)
  rw [Casing.letters_apply casing clean, ← hname, letters_append, same]
  exact List.prefix_append _ _

theorem legal_caseIdentifier (casing : Casing) (raw : String) {clean : String}
    (isClean : IsClean clean.toList) :
    p.Legal false (p.caseIdentifier casing raw clean).name := by
  unfold caseIdentifier
  dsimp only
  generalize hname : (if p.rules.stripLeadingUnderscores then dropUnderscores (casing.apply clean)
    else casing.apply clean) = name
  have isClean' : IsClean name.toList := by
    have cased := Casing.isClean_apply casing isClean
    rw [← hname]
    split
    · rw [dropUnderscores, String.toList_ofList]
      exact cased.subset (List.dropWhile_sublist _).subset
    · exact cased
  split_ifs with empty reserved digit
  · exact hp.legal_apply_of_filler casing (by decide) (show "empty" ∈ fillers by decide)
      (List.prefix_refl _)
  · exact hp.legal_escapeAs casing isClean' reserved
  · exact hp.legal_escapeDigit casing isClean' digit
  · exact legal_of_checks isClean' empty reserved digit

/-- A leading character that is put back leaves a name legal. -/
theorem legal_restoreLeading (raw : String) {generated : GeneratedName}
    (legal : p.Legal false generated.name) :
    p.Legal p.rules.preserveLeadingChar (p.restoreLeading raw generated).name := by
  have clean := legal.isClean
  unfold restoreLeading
  split
  · exact legal.weaken
  · next first _ _ =>
    split_ifs with restored
    · obtain ⟨preserved, leading, -⟩ := restored
      show p.Legal _ (String.ofList (first :: generated.name.toList))
      have ne : generated.name.toList ≠ [] :=
        fun h => legal.nonempty (String.toList_eq_nil_iff.1 h)
      have ascii : ∀ c ∈ first :: generated.name.toList, isAscii c = true := by
        intro c hc
        rcases List.mem_cons.1 hc with rfl | hc
        · rcases leading with rfl | rfl <;> decide
        · exact clean.isAscii c hc
      refine ⟨fun h => ?_, fun c hc => ?_, ?_, ?_⟩
      · have := congrArg String.toList h
        rw [String.toList_ofList] at this
        cases this
      · rw [String.toList_ofList] at hc
        cases hc
        rcases leading with rfl | rfl <;> rfl
      · rw [String.toList_ofList]
        rcases leading with rfl | rfl
        · exact .inr ⟨preserved, _, rfl, clean⟩
        · exact .inl (isClean_cons_iff.2 ⟨rfl, clean⟩)
      · refine hp.not_reserved_of_edge (by rwa [String.toList_ofList]) ?_ ?_
        · rw [String.toList_ofList]
          rcases leading with rfl | rfl
          · exact .inr (.inl rfl)
          · exact .inl rfl
        · rw [String.toList_ofList, List.length_cons]
          exact fun h => ne (List.length_eq_zero_iff.1 (Nat.succ.inj h))
    · exact legal.weaken

/-- Identifiers are legal, in every casing. -/
theorem legal_identifierReported (casing : Casing) (raw : String) :
    p.Legal p.rules.preserveLeadingChar (p.identifierReported casing raw).name := by
  have clean := isClean_sanitize raw
  unfold identifierReported
  dsimp only
  split
  · next name lone =>
    split at lone
    · obtain rfl := hp.lone name lone
      have legal : p.Legal false ("_" ++ "u") := hp.legal_underscore_append (by decide) (by decide)
      exact legal.weaken
    · cases lone
  · split
    · next caps =>
      split
      · split_ifs with reserved
        · exact (hp.legal_escapeAs casing clean reserved).weaken
        · exact (legal_of_isAllCaps clean caps reserved).weaken
      · exact hp.legal_restoreLeading raw (hp.legal_caseIdentifier casing raw clean.toLowercase)
    · exact hp.legal_restoreLeading raw (hp.legal_caseIdentifier casing raw clean)

/-- Names of models are legal. -/
theorem legal_modelNameReported (raw : String) : p.Legal false (p.modelNameReported raw).name := by
  have clean := isClean_sanitize (p.affixed raw)
  unfold modelNameReported
  dsimp only
  generalize hcamel : toUpperCamel (sanitize (p.affixed raw)) = camel
  have clean' : IsClean camel.toList := by
    rw [← hcamel]
    exact Casing.isClean_apply .upperCamel clean
  have marked : p.Legal false ("Model" ++ camel) := by
    have chars : ("Model" ++ camel).toList = ['M', 'o', 'd', 'e', 'l'] ++ camel.toList :=
      String.toList_append
    refine hp.legal_of_filler (c := 'M') ?_ (show "model" ∈ fillers by decide) ?_ ?_ rfl
    · rw [chars]
      exact isClean_append_iff.2 ⟨by decide, clean'⟩
    · rw [chars, letters_append]
      exact List.prefix_append _ _
    · rw [chars]
      rfl
  rw [hp.marker]
  split_ifs with empty reserved digit
  · rw [empty] at marked
    exact marked
  · exact marked
  · exact marked
  · exact legal_of_checks clean' empty reserved digit

/-- Names of operations are legal. -/
theorem legal_operationIdReported (raw : String) :
    p.Legal false (p.operationIdReported raw).name := by
  have clean := isClean_sanitize raw
  have called (casing : Casing) : p.Legal false (casing.apply ("call_" ++ sanitize raw)) := by
    have chars : ("call_" ++ sanitize raw).toList =
        ['c', 'a', 'l', 'l', '_'] ++ (sanitize raw).toList := String.toList_append
    refine hp.legal_apply_of_filler casing ?_ (show "call" ∈ fillers by decide) ?_
    · rw [chars]
      exact isClean_append_iff.2 ⟨by decide, clean⟩
    · rw [chars]
      exact ⟨'_' :: (sanitize raw).toList, rfl⟩
  unfold operationIdReported
  dsimp only
  split_ifs with empty reserved digit
  · exact hp.legal_apply_of_filler _ (by decide) (show "operation" ∈ fillers by decide)
      (List.prefix_refl _)
  · exact called _
  · exact called _
  · exact legal_of_checks (Casing.isClean_apply _ clean) empty reserved digit

end Disciplined

end Profile

/-! ## All generated names -/

/-- Under every setting that maps no reserved word, all names that a language generates are legal,
whatever the raw name.  Only where a leading character is preserved may identifiers start with a
dollar sign. -/
theorem legalName_of_withOptions {language : Language} {o : Options} {p : Profile}
    (h : language.profile.withOptions o = .ok p) (unmapped : o.reservedMappings = [])
    (raw : String) :
    LegalName language.Reserves o.preserveLeadingChar (p.toIdentifier raw) ∧
      LegalName language.Reserves o.preserveLeadingChar (p.toParamName raw) ∧
      LegalName language.Reserves false (p.toModelName raw) ∧
      LegalName language.Reserves false (p.toOperationId raw) := by
  have hp := disciplined_of_withOptions h unmapped
  have preserve : p.rules.preserveLeadingChar = o.preserveLeadingChar := by
    obtain ⟨casing, -, rfl⟩ := Profile.withOptions_cases h
    cases language <;> exact Bool.false_or _
  have reserves {dollar : Bool} {name : String} (legal : p.Legal dollar name) :
      LegalName language.Reserves dollar name :=
    legal.mono (Language.isReserved_iff h name).2
  rw [← preserve]
  exact ⟨reserves (hp.legal_identifierReported _ raw), reserves (hp.legal_identifierReported _ raw),
    reserves (hp.legal_modelNameReported raw), reserves (hp.legal_operationIdReported raw)⟩

/-- A name whose dollar sign is preserved and whose digit is escaped. -/
theorem legalName_dollar_digit :
    ∃ p, Language.javascript.profile.withOptions { preserveLeadingChar := true } = .ok p ∧
      LegalName Language.javascript.Reserves true (p.toIdentifier "$1st") ∧
      LegalName Language.javascript.Reserves true (p.toParamName "$1st") ∧
      LegalName Language.javascript.Reserves false (p.toModelName "$1st") ∧
      LegalName Language.javascript.Reserves false (p.toOperationId "$1st") :=
  ⟨_, rfl, legalName_of_withOptions (o := { preserveLeadingChar := true }) rfl rfl "$1st"⟩

end OpenApiGen
