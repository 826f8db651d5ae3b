import OpenApiGen.Yaml.Cursor

/-!
The texts of YAML scalars: plain, between quotes, and in blocks. Line breaks inside plain and quoted
texts are folded: a single one becomes a space, and of several the first is dropped.
-/

namespace OpenApiGen.Yaml

/-- A scanned text, the cursor behind it, and whether a line ended after its last character. -/
structure Scanned where
  text : List Char
  after : Cursor
  newLine : Bool := false

/-! ## Gaps -/

/-- The blanks and line breaks between two words. -/
structure Gap where
  /-- Blanks before the first line break. -/
  blanks : List Char := []
  /-- The first line break. -/
  firstBreak : List Char := []
  /-- The line breaks after it. -/
  moreBreaks : List Char := []
  /-- A line ended. -/
  newLine : Bool := false

/-- What a gap leaves of itself in the text. -/
def Gap.folded (g : Gap) : List Char :=
  if !g.newLine then g.blanks
  else if g.firstBreak = ['\n'] then
    if g.moreBreaks.isEmpty then [' '] else g.moreBreaks
  else g.firstBreak ++ g.moreBreaks

/-- Reads a gap to its end. In a plain text, tabs may not stand before the column `indent` of a new
line. -/
def scanGap (indent : Int) : Nat → Gap → Cursor → Option (Gap × Cursor)
  | 0, _, _ => none
  | fuel + 1, g, c =>
    match c.peek? with
    | none => some (g, c)
    | some ch =>
      if isBlank ch then
        if g.newLine && ch = '\t' && decide ((c.column : Int) < indent) then none
        else if g.newLine then scanGap indent fuel g c.next
        else scanGap indent fuel { g with blanks := g.blanks ++ [ch] } c.next
      else if isBreak ch then
        let (text, after) := c.lineBreak
        if g.newLine then scanGap indent fuel { g with moreBreaks := g.moreBreaks ++ text } after
        else scanGap indent fuel { g with firstBreak := text, newLine := true } after
      else some (g, c)

/-- The gap that comes next. After an escaped line break the line has ended already. -/
def gapAt (indent : Int) (newLine : Bool) (c : Cursor) : Option (Gap × Cursor) :=
  scanGap indent (c.size + 1) { newLine } c

/-! ## Plain texts -/

/-- A bracket or a comma of a flow collection. -/
def isFlowIndicator (c : Char) : Bool :=
  c = ',' || c = '[' || c = ']' || c = '\x7b' || c = '\x7d'

/-- A word of a plain text. A colon at the end of a word ends the text; inside a flow collection so
does an indicator, and a colon before one is an error. -/
def plainWord (flow : Bool) : List Char → List Char → Option (List Char)
  | word, [] => some word.reverse
  | word, c :: rest =>
    if isBlank c || isBreak c then some word.reverse
    else if flow && c = ':' && (match rest with
        | d :: _ => isFlowIndicator d || d = '?'
        | [] => false) then none
    else if (c = ':' && endsWord rest) || (flow && isFlowIndicator c) then some word.reverse
    else plainWord flow (c :: word) rest

/-- A plain text from its word at the cursor on. `text` is what comes before, `gap` what lies
between. -/
def scanPlain (flow : Bool) (indent : Int) : Nat → List Char → Gap → Cursor → Option Scanned
  | 0, _, _, _ => none
  | fuel + 1, text, gap, c =>
    if c.atDocumentMark || c.sees '#' then some ⟨text, c, gap.newLine⟩
    else do
      let word ← plainWord flow [] c.rest
      let after := c.skip word.length
      let full := if word.isEmpty then text else text ++ gap.folded ++ word
      let newLine := word.isEmpty && gap.newLine
      match after.peek? with
      | none => some ⟨full, after, newLine⟩
      | some ch =>
        if !(isBlank ch || isBreak ch) then some ⟨full, after, newLine⟩
        else
          let (gap, next) ← gapAt indent newLine after
          if !flow && decide ((next.column : Int) < indent) then some ⟨full, next, gap.newLine⟩
          else scanPlain flow indent fuel full gap next

/-- The plain text that starts at the cursor, in a block of the given indentation. -/
def plainText? (flow : Bool) (indent : Int) (c : Cursor) : Option Scanned :=
  scanPlain flow (indent + 1) (c.size + 1) [] {} c

/-! ## Quoted texts -/

/-- The value of hexadecimal digits. -/
def hexValue? (digits : List Char) : Option Nat :=
  digits.foldlM (fun n c =>
    if c.isDigit then some (n * 16 + (c.toNat - '0'.toNat))
    else if 'a' ≤ c ∧ c ≤ 'f' then some (n * 16 + (c.toNat - 'a'.toNat + 10))
    else if 'A' ≤ c ∧ c ≤ 'F' then some (n * 16 + (c.toNat - 'A'.toNat + 10))
    else none) 0

/-- The character that a backslash and a letter stand for. -/
def escaped? : Char → Option Char
  | '0' => some '\x00'
  | 'a' => some '\x07'
  | 'b' => some '\x08'
  | 't' | '\t' => some '\t'
  | 'n' => some '\n'
  | 'v' => some '\x0b'
  | 'f' => some '\x0c'
  | 'r' => some '\r'
  | 'e' => some '\x1b'
  | ' ' => some ' '
  | '"' => some '"'
  | '/' => some '/'
  | '\\' => some '\\'
  | 'N' => some '\x85'
  | '_' => some '\xa0'
  | 'L' => some '\u2028'
  | 'P' => some '\u2029'
  | _ => none

/-- The number of hexadecimal digits after a backslash and a letter. -/
def escapeWidth? : Char → Option Nat
  | 'x' => some 2
  | 'u' => some 4
  | 'U' => some 8
  | _ => none

/-- How a run of characters inside quotes ends. -/
inductive RunEnd
  | quote
  | gap
  | escapedBreak

/-- A run of characters inside quotes, up to a blank, a line break or the closing quote; `run` holds
what was read, last character first. -/
def quotedRun (single : Bool) : Nat → List Char → Cursor → Option (List Char × RunEnd × Cursor)
  | 0, _, _ => none
  | fuel + 1, run, c =>
    match c.rest with
    | [] => some (run.reverse, .gap, c)
    | ch :: rest =>
      if isBlank ch || isBreak ch then some (run.reverse, .gap, c)
      else if single then
        match ch, rest with
        | '\x27', '\x27' :: _ => quotedRun single fuel ('\x27' :: run) (c.skip 2)
        | '\x27', _ => some (run.reverse, .quote, c)
        | _, _ => quotedRun single fuel (ch :: run) c.next
      else if ch = '"' then some (run.reverse, .quote, c)
      else if ch = '\\' then
        match rest with
        | [] => none
        | e :: digits =>
          if isBreak e then some (run.reverse, .escapedBreak, c.next.lineBreak.2)
          else
            match escaped? e, escapeWidth? e with
            | some x, _ => quotedRun single fuel (x :: run) (c.skip 2)
            | none, some width => do
              if digits.length < width then none
              let n ← hexValue? (digits.take width)
              if (0xd800 ≤ n ∧ n < 0xe000) ∨ 0x10ffff < n then none
              quotedRun single fuel (Char.ofNat n :: run) (c.skip (2 + width))
            | none, none => none
      else quotedRun single fuel (ch :: run) c.next

/-- A quoted text from the cursor on, after what was read already. -/
def scanQuoted (single : Bool) : Nat → List Char → Cursor → Option Scanned
  | 0, _, _ => none
  | fuel + 1, text, c =>
    if c.atDocumentMark || c.rest.isEmpty then none
    else do
      let (run, ending, after) ← quotedRun single (c.size + 1) [] c
      match ending with
      | .quote => some ⟨text ++ run, after.next, false⟩
      | .gap => do
        let (gap, next) ← gapAt (-1) false after
        scanQuoted single fuel (text ++ run ++ gap.folded) next
      | .escapedBreak => do
        let (gap, next) ← gapAt (-1) true after
        scanQuoted single fuel (text ++ run ++ gap.folded) next

/-- The quoted text whose opening quote is at the cursor. -/
def quotedText? (single : Bool) (c : Cursor) : Option Scanned :=
  scanQuoted single (c.size + 1) [] c.next

/-! ## Block texts -/

/-- What becomes of the line breaks at the end of a block. -/
inductive Chomping
  | strip
  | clip
  | keep
  deriving DecidableEq

/-- The chomping that a sign asks for. -/
def chomping? : Option Char → Option Chomping
  | some '+' => some .keep
  | some '-' => some .strip
  | _ => none

/-- The header of a block: its chomping, and its indentation if that is given. -/
def blockHeader? (c : Cursor) : Option (Chomping × Option Nat × Cursor) :=
  let sign (c : Cursor) : Option Chomping × Cursor :=
    match chomping? c.peek? with
    | some s => (some s, c.next)
    | none => (none, c)
  let width (c : Cursor) : Option (Option Nat × Cursor) :=
    match c.peek? with
    | some d =>
      if d = '0' then none
      else if d.isDigit then some (some (d.toNat - '0'.toNat), c.next)
      else some (none, c)
    | none => some (none, c)
  do
    let (before, c) := sign c
    let (indent, c) ← width c
    let (after, c) := if before.isNone && indent.isSome then sign c else (none, c)
    some (((before <|> after).getD .clip), indent, c)

/-- Reads the empty lines of a block and the spaces before its next line. Until the indentation is
known it is 0, and the widest empty line counts. -/
def blockBreaks (indent : Nat) :
    Nat → Nat → List Char → Cursor → Option (List Char × Nat × Cursor)
  | 0, _, _, _ => none
  | fuel + 1, widest, breaks, c =>
    let blanks := c.rest.takeWhile (· = ' ')
    let blanks := if indent = 0 then blanks else blanks.take (indent - c.column)
    let c := c.skip blanks.length
    let widest := max widest c.column
    let open_ := indent = 0 || c.column < indent
    match c.peek? with
    | some '\t' => if open_ then none else some (breaks, widest, c)
    | some ch =>
      if isBreak ch then
        let (text, after) := c.lineBreak
        blockBreaks indent fuel widest (breaks ++ text) after
      else some (breaks, widest, c)
    | none => some (breaks, widest, c)

/-- The lines of a block from the cursor on: the text, and the line breaks that end it. -/
def blockLines (literal : Bool) (indent : Nat) :
    Nat → List Char → List Char → List Char → Bool → Cursor →
      Option (List Char × List Char × List Char × Cursor)
  | 0, _, _, _, _, _ => none
  | fuel + 1, text, leading, trailing, afterBlank, c =>
    if c.column ≠ indent ∨ c.rest.isEmpty then some (text, leading, trailing, c)
    else do
      let startsBlank := (c.peek?.map isBlank).getD false
      let joined :=
        if !literal && leading = ['\n'] && !afterBlank && !startsBlank then
          if trailing.isEmpty then [' '] else []
        else leading
      let (line, after) := c.span fun ch => !isBreak ch
      let (leading, next) := after.lineBreak
      let (breaks, _, next) ← blockBreaks indent (next.size + 1) 0 [] next
      blockLines literal indent fuel (text ++ joined ++ trailing ++ line) leading breaks startsBlank
        next

/-- The block text whose indicator is at the cursor, in a block of the given indentation. -/
def blockText? (literal : Bool) (parent : Int) (c : Cursor) : Option Scanned := do
  let (chomping, width, c) ← blockHeader? c.next
  let c := (c.span isBlank).2
  let c := if c.sees '#' then (c.span fun ch => !isBreak ch).2 else c
  match c.peek? with
  | some ch => if !isBreak ch then none
  | none => pure ()
  let c := c.lineBreak.2
  let given : Nat := match width with
    | some n => (max parent 0).toNat + n
    | none => 0
  let (breaks, widest, c) ← blockBreaks given (c.size + 1) 0 [] c
  let indent := if given = 0 then max widest (max (parent + 1) 1).toNat else given
  let (text, leading, trailing, c) ←
    blockLines literal indent (c.size + 1) [] [] breaks false c
  let ending := match chomping with
    | .strip => []
    | .clip => leading
    | .keep => leading ++ trailing
  some ⟨text ++ ending, c, true⟩

end OpenApiGen.Yaml
