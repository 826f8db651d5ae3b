import OpenApiGen.Yaml.Node
import OpenApiGen.Yaml.Text

/-!
The tokens of a YAML text. Indentation becomes tokens that open and close blocks. A key is known as
such only by the colon behind it: its token is put before what was read already.
-/

namespace OpenApiGen.Yaml

/-- A token of a YAML text. -/
inductive Token
  | version (major minor : Nat)
  | tagDirective (handle : String) (start : List UInt8)
  | documentStart
  | documentEnd
  | sequenceStart
  | mappingStart
  | blockEnd
  | flowSequenceStart
  | flowSequenceEnd
  | flowMappingStart
  | flowMappingEnd
  | entry
  | comma
  | key
  | value
  | alias (name : String)
  | anchor (name : String)
  | tag (handle : String) (suffix : List UInt8)
  | scalar (text : String) (style : Style)
  deriving DecidableEq, Repr

/-- A place where a key may have started. -/
structure SimpleKey where
  /-- The number of tokens before it. -/
  position : Nat
  line : Nat
  column : Nat
  index : Nat
  /-- Nothing but a key can stand there. -/
  required : Bool

/-- A text that has been read in part. -/
structure Scanner where
  cursor : Cursor
  /-- The tokens so far, last first. -/
  tokens : List Token := []
  count : Nat := 0
  /-- The columns of the open blocks, innermost first. -/
  indents : List Nat := []
  /-- For the block and for each open flow collection, innermost first, where a key may have
  started. -/
  keys : List (Option SimpleKey) := [none]
  keyAllowed : Bool := true

namespace Scanner

/-- Whether a flow collection is open. -/
def inFlow (s : Scanner) : Bool :=
  1 < s.keys.length

/-- The column of the innermost block, or -1. -/
def indent (s : Scanner) : Int :=
  match s.indents with
  | [] => -1
  | i :: _ => i

/-- Adds a token. -/
def push (s : Scanner) (t : Token) : Scanner :=
  { s with tokens := t :: s.tokens, count := s.count + 1 }

/-- Puts a token before those from a position on. -/
def insertAt (s : Scanner) (position : Nat) (t : Token) : Scanner :=
  let later := s.count - position
  { s with tokens := s.tokens.take later ++ t :: s.tokens.drop later, count := s.count + 1 }

/-- Moves on in the text. -/
def moveTo (s : Scanner) (c : Cursor) : Scanner :=
  { s with cursor := c }

/-- Allows or forbids that a key starts. -/
def allowKey (s : Scanner) (allowed : Bool) : Scanner :=
  { s with keyAllowed := allowed }

/-- Opens a block at a column, if it is deeper than the innermost one. -/
def openBlock (s : Scanner) (column : Nat) (position : Nat) (t : Token) : Scanner :=
  if s.inFlow then s
  else if s.indent < column then
    { s.insertAt position t with indents := column :: s.indents }
  else s

/-- Closes the blocks that are deeper than a column. -/
def closeBlocks (s : Scanner) (column : Int) : Scanner :=
  if s.inFlow then s
  else
    let deeper := s.indents.takeWhile fun (i : Nat) => column < i
    deeper.foldl (fun s _ => s.push .blockEnd)
      { s with indents := s.indents.drop deeper.length }

/-- Forgets the places where a key can no longer have started: a key is on one line and at most 1024
bytes long. -/
def dropStale? (s : Scanner) : Option Scanner := do
  let keys ← s.keys.mapM fun
    | none => some none
    | some k =>
      if k.line < s.cursor.line ∨ k.index + 1024 < s.cursor.index then
        if k.required then none else some none
      else some (some k)
  some { s with keys }

/-- Forgets the innermost place where a key may have started. -/
def dropKey? (s : Scanner) : Option Scanner :=
  match s.keys with
  | some k :: rest => if k.required then none else some { s with keys := none :: rest }
  | _ => some s

/-- Notes that a key may start here. -/
def noteKey? (s : Scanner) : Option Scanner :=
  if s.keyAllowed then do
    let s ← s.dropKey?
    let k : SimpleKey := {
      position := s.count
      line := s.cursor.line
      column := s.cursor.column
      index := s.cursor.index
      required := !s.inFlow && s.indent = s.cursor.column }
    some { s with keys := some k :: s.keys.drop 1 }
  else some s

/-- Skips blanks, comments and line breaks before the next token. Where a key may start, tabs are
only skipped inside flow collections. -/
def skipGap : Nat → Scanner → Scanner
  | 0, s => s
  | fuel + 1, s =>
    let c := if s.cursor.column = 0 && s.cursor.sees '\ufeff' then s.cursor.next else s.cursor
    let c := (c.span fun ch => ch = ' ' || (ch = '\t' && (s.inFlow || !s.keyAllowed))).2
    let c := if c.sees '#' then (c.span fun ch => !isBreak ch).2 else c
    match c.peek? with
    | some ch =>
      if isBreak ch then
        skipGap fuel { s with cursor := c.lineBreak.2, keyAllowed := s.keyAllowed || !s.inFlow }
      else s.moveTo c
    | none => s.moveTo c

/-- A letter or digit of ASCII, an underscore or a hyphen. -/
def isNameChar (c : Char) : Bool :=
  c.isAlphanum || c = '_' || c = '-'

/-- The name of an anchor or an alias, whose sign is at the cursor. -/
def anchorName? (c : Cursor) : Option (String × Cursor) :=
  let (name, after) := c.next.span isNameChar
  let isEnd (ch : Char) : Bool := ['?', ':', ',', ']', '\x7d', '%', '@', '\x60'].contains ch
  let ends := endsWord after.rest || after.peek?.any isEnd
  if name.isEmpty || !ends then none else some (.ofList name, after)

/-- A character of the suffix of a tag. -/
def isUriChar (verbatim : Bool) (c : Char) : Bool :=
  let signs :=
    [';', '/', '?', ':', '@', '&', '=', '+', '$', '.', '%', '!', '~', '*', '\x27', '(', ')']
  isNameChar c || signs.contains c || (verbatim && [',', '[', ']'].contains c)

/-- The bytes that the characters of a suffix stand for, each with whether it was written with a
percent sign. -/
def octets? : List Char → Option (List (UInt8 × Bool))
  | [] => some []
  | '%' :: a :: b :: rest => do
    let n ← hexValue? [a, b]
    let more ← octets? rest
    some ((.ofNat n, true) :: more)
  | c :: rest => do
    if c = '%' then none
    let more ← octets? rest
    some ((.ofNat c.toNat, false) :: more)

/-- The number of bytes behind the first byte of a character; some bytes start none. -/
def bytesBehind? (first : UInt8) : Option Nat :=
  if first < 0x80 then some 0
  else if first < 0xc0 then none
  else if first < 0xe0 then some 1
  else if first < 0xf0 then some 2
  else if first < 0xf8 then some 3
  else none

/-- Whether bytes with percent signs stand in groups, each as long as its first byte says; `due` is
what is still to come of one. -/
def areGrouped (due : Nat) : List (UInt8 × Bool) → Bool
  | [] => due = 0
  | (byte, isEscaped) :: rest =>
    match due with
    | 0 =>
      if isEscaped then (bytesBehind? byte).any fun due => areGrouped due rest
      else areGrouped 0 rest
    | due + 1 => isEscaped && 0x80 ≤ byte && byte < 0xc0 && areGrouped due rest

/-- The suffix of a tag at the cursor: whether there is one, and its bytes up to the first zero. -/
def suffix? (verbatim : Bool) (c : Cursor) : Option (Bool × List UInt8 × Cursor) := do
  let (cs, after) := c.span (isUriChar verbatim)
  let octets ← octets? cs
  if areGrouped 0 octets then
    some (!cs.isEmpty, (octets.map Prod.fst).takeWhile (· ≠ 0), after)
  else none

/-- The handle and the suffix of a tag, whose sign is at the cursor. -/
def tagParts? (c : Cursor) : Option (String × List UInt8 × Cursor) :=
  match c.rest with
  | '!' :: '<' :: _ => do
    let (isGiven, suffix, after) ← suffix? true (c.skip 2)
    if isGiven && after.sees '>' then some ("", suffix, after.next) else none
  | _ => do
    let (name, after) := c.next.span isNameChar
    if after.sees '!' then
      let (isGiven, suffix, end_) ← suffix? false after.next
      if isGiven then some (.ofList ('!' :: (name ++ ['!'])), suffix, end_) else none
    else
      let (_, more, end_) ← suffix? false after
      let suffix := name.map (fun ch => .ofNat ch.toNat) ++ more
      if suffix.isEmpty then some ("", [Tag.mark], end_) else some ("!", suffix, end_)

/-- The number that digits at the cursor spell. -/
def number? (c : Cursor) : Option (Nat × Cursor) :=
  let (digits, after) := c.span Char.isDigit
  if digits.isEmpty || 9 < digits.length then none
  else some (digits.foldl (fun n d => n * 10 + (d.toNat - '0'.toNat)) 0, after)

/-- The directive whose sign is at the cursor. -/
def directive? (c : Cursor) : Option (Token × Cursor) := do
  let (name, c) := c.next.span isNameChar
  if !endsWord c.rest then none
  let blanks (c : Cursor) : Cursor := (c.span isBlank).2
  let (token, c) ←
    if name = "YAML".toList then do
      let (major, c) ← number? (blanks c)
      if !c.sees '.' then none
      let (minor, c) ← number? c.next
      some (Token.version major minor, c)
    else if name = "TAG".toList then do
      let c := blanks c
      if !c.sees '!' then none
      let (inner, c) := c.next.span isNameChar
      let (handle, c) ←
        if c.sees '!' then some ('!' :: (inner ++ ['!']), c.next)
        else if inner.isEmpty then some (['!'], c)
        else none
      if !endsWord c.rest then none
      let (isGiven, start, c) ← suffix? true (blanks c)
      if !isGiven || !endsWord c.rest then none
      some (Token.tagDirective (.ofList handle) start, c)
    else none
  let c := blanks c
  let c := if c.sees '#' then (c.span fun ch => !isBreak ch).2 else c
  match c.peek? with
  | some ch => if isBreak ch then some (token, c.lineBreak.2) else none
  | none => some (token, c)

/-- Reads a token that starts or ends a document, or a directive. -/
def documentMark? (s : Scanner) (t : Token) (after : Cursor) : Option Scanner := do
  let s ← (s.closeBlocks (-1)).dropKey?
  some (((s.allowKey false).push t).moveTo after)

/-- Reads a colon that separates a key from its value. -/
def valueMark? (s : Scanner) : Option Scanner :=
  match s.keys with
  | some k :: rest =>
    let s := { s.insertAt k.position .key with keys := none :: rest }
    let s := s.openBlock k.column k.position .mappingStart
    some (((s.allowKey false).push .value).moveTo s.cursor.next)
  | _ =>
    if !s.inFlow && !s.keyAllowed then none
    else
      let s := s.openBlock s.cursor.column s.count .mappingStart
      some (((s.allowKey (!s.inFlow)).push .value).moveTo s.cursor.next)

/-- Reads the sign of an entry of a block sequence. -/
def entryMark? (s : Scanner) : Option Scanner := do
  if !s.inFlow && !s.keyAllowed then none
  let s ← (s.openBlock s.cursor.column s.count .sequenceStart).dropKey?
  some (((s.allowKey true).push .entry).moveTo s.cursor.next)

/-- Reads the sign of a key. -/
def keyMark? (s : Scanner) : Option Scanner := do
  if !s.inFlow && !s.keyAllowed then none
  let s ← (s.openBlock s.cursor.column s.count .mappingStart).dropKey?
  some (((s.allowKey (!s.inFlow)).push .key).moveTo s.cursor.next)

/-- Opens a flow collection. -/
def openFlow? (s : Scanner) (t : Token) : Option Scanner := do
  let s ← s.noteKey?
  some ((({ s with keys := none :: s.keys }.allowKey true).push t).moveTo s.cursor.next)

/-- Closes a flow collection. -/
def closeFlow? (s : Scanner) (t : Token) : Option Scanner := do
  let s ← s.dropKey?
  let keys := match s.keys with
    | _ :: k :: rest => k :: rest
    | keys => keys
  some ((({ s with keys }.allowKey false).push t).moveTo s.cursor.next)

/-- Reads a scalar that may be a key. -/
def scalar? (s : Scanner) (style : Style) (scan : Cursor → Option Scanned) : Option Scanner := do
  let s ← s.noteKey?
  let scanned ← scan s.cursor
  let s := s.allowKey scanned.newLine
  some ((s.push (.scalar (.ofList scanned.text) style)).moveTo scanned.after)

/-- Reads a block scalar. -/
def blockScalar? (s : Scanner) (literal : Bool) : Option Scanner := do
  let s ← s.dropKey?
  let scanned ← blockText? literal s.indent s.cursor
  let style := if literal then Style.literal else .folded
  some (((s.allowKey true).push (.scalar (.ofList scanned.text) style)).moveTo scanned.after)

/-- Reads a property of a node. -/
def property? (s : Scanner) (scan : Cursor → Option (Token × Cursor)) : Option Scanner := do
  let s ← s.noteKey?
  let (t, after) ← scan s.cursor
  some (((s.allowKey false).push t).moveTo after)

/-- The characters that no plain scalar starts with. -/
def indicators : List Char :=
  ['-', '?', ':', ',', '[', ']', '\x7b', '\x7d', '#', '&', '*', '!', '|', '>', '\x27', '"', '%',
    '@', '\x60']

/-- Reads the next token, which starts with `ch`. -/
def token? (s : Scanner) (ch : Char) : Option Scanner :=
  let c := s.cursor
  let wordEnds := endsWord (c.rest.drop 1)
  let flow := s.inFlow
  if c.column = 0 && ch = '%' then do
    let (t, after) ← directive? c
    s.documentMark? t after
  else if c.atDocumentMark then
    s.documentMark? (if ch = '-' then .documentStart else .documentEnd) (c.skip 3)
  else if ch = '[' then s.openFlow? .flowSequenceStart
  else if ch = '\x7b' then s.openFlow? .flowMappingStart
  else if ch = ']' then s.closeFlow? .flowSequenceEnd
  else if ch = '\x7d' then s.closeFlow? .flowMappingEnd
  else if ch = ',' then do
    let s ← s.dropKey?
    some (((s.allowKey true).push .comma).moveTo c.next)
  else if ch = '-' && wordEnds then s.entryMark?
  else if ch = '?' && (flow || wordEnds) then s.keyMark?
  else if ch = ':' && (flow || wordEnds) then s.valueMark?
  else if ch = '*' then s.property? fun c => (anchorName? c).map fun (n, c) => (.alias n, c)
  else if ch = '&' then s.property? fun c => (anchorName? c).map fun (n, c) => (.anchor n, c)
  else if ch = '!' then
    s.property? fun c => do
      let (handle, suffix, after) ← tagParts? c
      if endsWord after.rest || (flow && after.sees ',') then some (.tag handle suffix, after)
      else none
  else if ch = '|' && !flow then s.blockScalar? true
  else if ch = '>' && !flow then s.blockScalar? false
  else if ch = '\x27' then s.scalar? .quoted (quotedText? true)
  else if ch = '"' then s.scalar? .quoted (quotedText? false)
  else if (!isBlank ch && !indicators.contains ch) || (ch = '-' && !wordEnds) ||
      (!flow && (ch = '?' || ch = ':') && !wordEnds) then
    s.scalar? .plain (plainText? flow s.indent)
  else none

/-- The tokens of the rest of a text. -/
def run : Nat → Scanner → Option (List Token)
  | 0, _ => none
  | fuel + 1, s => do
    let s ← (s.skipGap (s.cursor.size + 1)).dropStale?
    let s := s.closeBlocks s.cursor.column
    match s.cursor.peek? with
    | none => do
      let s ← (s.closeBlocks (-1)).dropKey?
      some s.tokens.reverse
    | some ch => do run fuel (← s.token? ch)

end Scanner

/-- The tokens of a YAML text. -/
def tokens? (text : String) : Option (List Token) :=
  let start := Cursor.start text.toList
  if start.rest.all isAllowed then Scanner.run (start.size + 1) { cursor := start } else none

end OpenApiGen.Yaml
