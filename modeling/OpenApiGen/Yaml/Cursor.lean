/-!
A place in a YAML text: what is still to be read, and where that stands.
-/

namespace OpenApiGen.Yaml

/-- What is left of a text, with the line, the column and the number of bytes before it. -/
structure Cursor where
  rest : List Char
  /-- The number of characters of the whole text: no loop over what is left takes more steps. -/
  size : Nat
  line : Nat := 0
  column : Nat := 0
  index : Nat := 0

/-- The number of bytes that characters take. -/
def byteCount (cs : List Char) : Nat :=
  cs.foldl (fun n c => n + c.utf8Size) 0

/-- A space or a tab. -/
def isBlank (c : Char) : Bool :=
  c = ' ' || c = '\t'

/-- A character that ends a line. -/
def isBreak (c : Char) : Bool :=
  c = '\n' || c = '\r' || c = '\x85' || c = '\u2028' || c = '\u2029'

/-- Whether what comes next ends a word: a blank, a line break or the end of the text. -/
def endsWord : List Char → Bool
  | [] => true
  | c :: _ => isBlank c || isBreak c

/-- A character that may stand in a YAML text. -/
def isAllowed (c : Char) : Bool :=
  let n := c.toNat
  n = 9 || n = 10 || n = 13 || (32 ≤ n && n ≤ 126) || n = 0x85 || (0xa0 ≤ n && n ≤ 0xfffd) ||
    0x10000 ≤ n

namespace Cursor

/-- The start of a text. -/
def start (cs : List Char) : Cursor where
  rest := cs
  size := cs.length

/-- The next character. -/
def peek? (c : Cursor) : Option Char :=
  c.rest.head?

/-- Whether a character comes next. -/
def sees (c : Cursor) (ch : Char) : Bool :=
  c.peek? = some ch

/-- The cursor behind some characters of the line. -/
def skip (c : Cursor) (n : Nat) : Cursor :=
  { c with
    rest := c.rest.drop n
    column := c.column + n
    index := c.index + byteCount (c.rest.take n) }

/-- The cursor behind one character of the line. -/
def next (c : Cursor) : Cursor :=
  c.skip 1

/-- The line break that comes next, as text, and the cursor at the start of the line behind it. -/
def lineBreak (c : Cursor) : List Char × Cursor :=
  let after (n : Nat) : Cursor :=
    { c with
      rest := c.rest.drop n
      line := c.line + 1
      column := 0
      index := c.index + byteCount (c.rest.take n) }
  match c.rest with
  | '\r' :: '\n' :: _ => (['\n'], after 2)
  | b :: _ =>
    if b = '\u2028' ∨ b = '\u2029' then ([b], after 1)
    else if isBreak b then (['\n'], after 1)
    else ([], c)
  | [] => ([], c)

/-- Whether a marker that starts or ends a document comes next, at the start of a line. -/
def atDocumentMark (c : Cursor) : Bool :=
  c.column = 0 &&
    match c.rest with
    | '-' :: '-' :: '-' :: rest | '.' :: '.' :: '.' :: rest => endsWord rest
    | _ => false

/-- The longest run of characters that satisfy `p`, and the cursor behind it. -/
def span (c : Cursor) (p : Char → Bool) : List Char × Cursor :=
  let run := c.rest.takeWhile p
  (run, c.skip run.length)

end Cursor

end OpenApiGen.Yaml
