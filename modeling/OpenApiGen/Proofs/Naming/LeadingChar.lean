import OpenApiGen.Naming.Enum

/-!
# Leading characters of names

A profile can be made to keep leading characters (`Profile.keeping`).  It then makes all names as it
does without, but an identifier may have the sign of its raw name before it (`Restores`).  Where the
raw name starts with no such sign, the identifier is the same (`Restores.eq_of_plain`).  The cases
of an enumeration are identifiers of its literals in one style only; a literal can be read back from
the value that is written for it (`Profile.literalOf_toEnumValue`).
-/

namespace OpenApiGen

/-- The signs at the start of a raw name that can be kept. -/
def isLeadingSign (c : Char) : Bool :=
  c = '$' || c = '_'

/-- Whether a raw name starts with a sign that can be kept. -/
def startsWithSign (raw : String) : Bool :=
  raw.toList.head?.any isLeadingSign

/-- A name is another one as it stands, or with the sign of the raw name before it. -/
def Restores (raw name name' : String) : Prop :=
  name' = name ∨ ∃ c, raw.toList.head? = some c ∧ isLeadingSign c = true ∧
    name' = .ofList (c :: name.toList)

theorem Restores.eq_of_plain {raw name name' : String} (h : Restores raw name name')
    (plain : startsWithSign raw = false) : name' = name := by
  refine h.resolve_right ?_
  rintro ⟨c, starts, sign, -⟩
  rw [startsWithSign, starts, Option.any_some, sign] at plain
  cases plain

namespace Profile

variable {p : Profile}

/-- The profile with leading characters kept, or not. -/
def keeping (p : Profile) (keep : Bool) : Profile :=
  { p with rules := { p.rules with preserveLeadingChar := keep } }

/-! ## Identifiers -/

theorem restoreLeading_of_plain (plain : p.rules.preserveLeadingChar = false) (raw : String)
    (generated : GeneratedName) : p.restoreLeading raw generated = generated := by
  unfold restoreLeading
  rw [plain]
  split
  · rfl
  · exact if_neg fun h => Bool.false_ne_true h.1

theorem restores_restoreLeading (p : Profile) (raw : String) (generated : GeneratedName) :
    Restores raw generated.name (p.restoreLeading raw generated).name := by
  unfold restoreLeading
  split
  · exact .inl rfl
  · next first rest starts =>
    split
    · next h =>
      refine .inr ⟨first, ?_, by simpa [isLeadingSign] using h.2.1, rfl⟩
      rw [starts, List.head?_cons]
    · exact .inl rfl

theorem restores_identifierReported (p : Profile) (casing : Casing) (raw : String) :
    Restores raw ((p.keeping false).identifierReported casing raw).name
      ((p.keeping true).identifierReported casing raw).name := by
  have restored (generated : GeneratedName) :
      Restores raw ((p.keeping false).restoreLeading raw generated).name
        ((p.keeping true).restoreLeading raw generated).name := by
    rw [restoreLeading_of_plain rfl]
    exact restores_restoreLeading _ raw generated
  unfold identifierReported
  dsimp only [keeping]
  split
  · exact .inl rfl
  · split
    · split
      · exact .inl rfl
      · exact restored _
    · exact restored _

theorem restores_toIdentifier (p : Profile) (raw : String) :
    Restores raw ((p.keeping false).toIdentifier raw) ((p.keeping true).toIdentifier raw) :=
  p.restores_identifierReported _ raw

theorem restores_toParamName (p : Profile) (raw : String) :
    Restores raw ((p.keeping false).toParamName raw) ((p.keeping true).toParamName raw) :=
  p.restores_identifierReported _ raw

/-! ## Enumerations -/

theorem toEnumCase_keeping (other : p.rules.enumCase ≠ .identifier) (keep : Bool)
    (value dataType : String) :
    (p.keeping keep).toEnumCase value dataType = p.toEnumCase value dataType := by
  unfold toEnumCase
  dsimp only [keeping]
  cases style : p.rules.enumCase with
  | identifier => exact absurd style other
  | _ => rfl

theorem restores_toEnumCase (p : Profile) (value dataType : String) :
    Restores value ((p.keeping false).toEnumCase value dataType)
      ((p.keeping true).toEnumCase value dataType) := by
  by_cases style : p.rules.enumCase = .identifier
  · unfold toEnumCase
    dsimp only [keeping]
    rw [style]
    split
    · exact .inl rfl
    · dsimp only
      split
      · exact .inl rfl
      · exact p.restores_toIdentifier value
  · exact .inl (by rw [toEnumCase_keeping style, toEnumCase_keeping style])

/-- The name of a type is the same even for a property with a sign, unless it is compared with the
identifier of the property. -/
theorem toEnumName_keeping {property : String}
    (plain : p.rules.enumType = .modelName → startsWithSign property = false) :
    (p.keeping true).toEnumName property = (p.keeping false).toEnumName property := by
  have kept (keep : Bool) : (p.keeping keep).rules.enumType = p.rules.enumType := rfl
  unfold toEnumName
  rw [kept, kept]
  cases style : p.rules.enumType with
  | modelName =>
    rw [(p.restores_toIdentifier property).eq_of_plain (plain style)]
    rfl
  | upperSnake | camelSuffix => rfl

/-! ## Literals -/

/-- The text without the backslashes that escape a character. -/
def unescape : List Char → List Char
  | '\\' :: c :: rest => c :: unescape rest
  | c :: rest => c :: unescape rest
  | [] => []

theorem unescape_cons {c : Char} (plain : c ≠ '\\') (rest : List Char) :
    unescape (c :: rest) = c :: unescape rest := by
  rw [unescape.eq_2]
  rintro c' rest' rfl
  exact absurd rfl plain

/-- The two replacements together: a backslash before each backslash and each quote. -/
theorem escapeQuote_cons {quote : Char} (plain : quote ≠ '\\') (c : Char) (rest : List Char) :
    escapeQuote quote (c :: rest) =
      if c = '\\' ∨ c = quote then '\\' :: c :: escapeQuote quote rest
      else c :: escapeQuote quote rest := by
  have step : escapeQuote quote (c :: rest) =
      (escapeChar '\\' c).flatMap (escapeChar quote) ++ escapeQuote quote rest := by
    rw [escapeQuote, List.flatMap_cons, List.flatMap_append]
    rfl
  rw [step]
  by_cases slash : c = '\\'
  · simp [escapeChar, slash, plain.symm]
  · by_cases isQuote : c = quote <;> simp [escapeChar, slash, isQuote, plain]

theorem unescape_escapeQuote {quote : Char} (plain : quote ≠ '\\') (cs : List Char) :
    unescape (escapeQuote quote cs) = cs := by
  induction cs with
  | nil => rfl
  | cons c rest ih =>
    rw [escapeQuote_cons plain]
    split
    · rw [unescape, ih]
    · next other => rw [unescape_cons (not_or.1 other).1, ih]

/-- The literal that a written value stands for. -/
def literalOf (p : Profile) (value dataType : String) : String :=
  if p.isNumericType dataType || p.isBooleanType dataType then value
  else match p.rules.enumValueQuote with
    | some _ => .ofList (unescape (value.toList.drop 1).dropLast)
    | none => value

theorem literalOf_toEnumValue (plain : p.rules.enumValueQuote ≠ some '\\')
    (literal dataType : String) :
    p.literalOf (p.toEnumValue literal dataType) dataType = literal := by
  unfold literalOf toEnumValue
  split
  · rfl
  · cases h : p.rules.enumValueQuote with
    | none => rfl
    | some quote =>
      have : quote ≠ '\\' := by
        rintro rfl
        exact plain h
      simp [unescape_escapeQuote this]

end Profile

end OpenApiGen
