import OpenApiGen.Dict
import OpenApiGen.Yaml.Token

/-!
Reading of YAML texts into nodes. A text holds one document or none. The number of an anchor is the
number of names that anchors have before it, so where a name is used again two anchors may share a
number.
-/

namespace OpenApiGen.Yaml

/-- The tokens of a document that are still to be read, with what was said before them. -/
structure Reading where
  tokens : List Token
  /-- The number of each name's last anchor. -/
  anchors : Dict Nat := []
  /-- The starts of tags for their handles. -/
  handles : List (String × List UInt8) := []

namespace Reading

/-- The next token. -/
def peek? (r : Reading) : Option Token :=
  r.tokens.head?

/-- The reading behind the next token. -/
def drop (r : Reading) : Reading :=
  { r with tokens := r.tokens.drop 1 }

/-- Whether the next token is one of these, or none is left. -/
def sees (r : Reading) (ts : List Token) : Bool :=
  match r.peek? with
  | some t => ts.contains t
  | none => true

/-- The tag of a handle and a suffix. Two handles are known without being declared. -/
def tag? (r : Reading) (handle : String) (suffix : List UInt8) : Option Tag :=
  if handle = "" then some ⟨suffix⟩
  else
    match r.handles.lookup handle with
    | some start => some ⟨start ++ suffix⟩
    | none =>
      if handle = "!" then some ⟨Tag.mark :: suffix⟩
      else if handle = "!!" then some ⟨Tag.coreStart ++ suffix⟩
      else none

/-- Gives a number to an anchor. -/
def addAnchor (r : Reading) (name : String) : Nat × Reading :=
  (r.anchors.length, { r with anchors := r.anchors.insert name r.anchors.length })

end Reading

/-- What may stand before the content of a node. -/
structure Properties where
  anchor : Option Nat := none
  tag : Option Tag := none

/-- Whether a node has any properties. A node that has some may lack content. -/
def Properties.any (p : Properties) : Bool :=
  p.anchor.isSome || p.tag.isSome

namespace Reading

/-- Reads the properties of a node: its anchor and its tag, in any order. -/
def properties? (r : Reading) : Option (Properties × Reading) :=
  match r.tokens with
  | .anchor a :: .tag h s :: rest | .tag h s :: .anchor a :: rest => do
    let tag ← r.tag? h s
    let (number, r) := r.addAnchor a
    some ({ anchor := some number, tag := some tag }, { r with tokens := rest })
  | .anchor a :: rest =>
    let (number, r) := r.addAnchor a
    some ({ anchor := some number }, { r with tokens := rest })
  | .tag h s :: rest => do
    let tag ← r.tag? h s
    some ({ tag := some tag }, { r with tokens := rest })
  | _ => some ({}, r)

end Reading

mutual

/-- Reads a node. Block collections stand only in `block` places, and a sequence without indentation
only as the key or the value of a block mapping. -/
def node? (block inMapping : Bool) : Nat → Reading → Option (Node × Reading)
  | 0, _ => none
  | fuel + 1, r =>
    match r.peek? with
    | some (.alias name) => (r.anchors.get? name).map fun number => (.alias number, r.drop)
    | _ => do
      let (p, r) ← r.properties?
      content? block inMapping p fuel r
termination_by structural fuel => fuel

/-- Reads the content of a node, behind its properties. -/
def content? (block inMapping : Bool) (p : Properties) : Nat → Reading → Option (Node × Reading)
  | 0, _ => none
  | fuel + 1, r =>
    match r.peek? with
    | some (.scalar text style) => some (.scalar p.anchor { text, style, tag := p.tag }, r.drop)
    | some .flowSequenceStart => do
      let (items, r) ← flowItems? true fuel r.drop
      some (.sequence p.anchor p.tag items, r)
    | some .flowMappingStart => do
      let (members, r) ← flowMembers? true fuel r.drop
      some (.mapping p.anchor p.tag members, r)
    | next =>
      if block && next = some .sequenceStart then do
        let (items, r) ← blockItems? fuel r.drop
        some (.sequence p.anchor p.tag items, r)
      else if block && next = some .mappingStart then do
        let (members, r) ← blockMembers? fuel r.drop
        some (.mapping p.anchor p.tag members, r)
      else if inMapping && next = some .entry then do
        let (items, r) ← plainItems? fuel r
        some (.sequence p.anchor p.tag items, r)
      else if p.any then some (.scalar p.anchor { text := "", tag := p.tag }, r)
      else none
termination_by structural fuel => fuel

/-- Reads a node, unless one of the tokens that end it comes next: then it is empty. -/
def nodeUnless? (ends : List Token) (block inMapping : Bool) :
    Nat → Reading → Option (Node × Reading)
  | 0, _ => none
  | fuel + 1, r =>
    if r.sees ends then some (Node.empty, r) else node? block inMapping fuel r
termination_by structural fuel => fuel

/-- Reads the items of an indented sequence. -/
def blockItems? : Nat → Reading → Option (List Node × Reading)
  | 0, _ => none
  | fuel + 1, r =>
    match r.peek? with
    | some .entry => do
      let (item, r) ← nodeUnless? [.entry, .blockEnd] true false fuel r.drop
      let (rest, r) ← blockItems? fuel r
      some (item :: rest, r)
    | some .blockEnd => some ([], r.drop)
    | _ => none
termination_by structural fuel => fuel

/-- Reads the items of a sequence that is not indented. -/
def plainItems? : Nat → Reading → Option (List Node × Reading)
  | 0, _ => none
  | fuel + 1, r =>
    match r.peek? with
    | some .entry => do
      let (item, r) ← nodeUnless? [.entry, .key, .value, .blockEnd] true false fuel r.drop
      let (rest, r) ← plainItems? fuel r
      some (item :: rest, r)
    | _ => some ([], r)
termination_by structural fuel => fuel

/-- Reads the members of an indented mapping. -/
def blockMembers? : Nat → Reading → Option (List (Node × Node) × Reading)
  | 0, _ => none
  | fuel + 1, r =>
    match r.peek? with
    | some .key => do
      let (key, r) ← nodeUnless? [.key, .value, .blockEnd] true true fuel r.drop
      let (value, r) ← match r.peek? with
        | some .value => nodeUnless? [.key, .value, .blockEnd] true true fuel r.drop
        | _ => some (Node.empty, r)
      let (rest, r) ← blockMembers? fuel r
      some ((key, value) :: rest, r)
    | some .blockEnd => some ([], r.drop)
    | _ => none
termination_by structural fuel => fuel

/-- Reads the items of a sequence in brackets. An item may be a single member of a mapping. -/
def flowItems? (first : Bool) : Nat → Reading → Option (List Node × Reading)
  | 0, _ => none
  | fuel + 1, r =>
    match r.peek?, first with
    | some .flowSequenceEnd, _ => some ([], r.drop)
    | some .comma, false =>
      match r.drop.peek? with
      | some .flowSequenceEnd => some ([], r.drop.drop)
      | _ => do
        let (item, r) ← flowItem? fuel r.drop
        let (rest, r) ← flowItems? false fuel r
        some (item :: rest, r)
    | _, true => do
      let (item, r) ← flowItem? fuel r
      let (rest, r) ← flowItems? false fuel r
      some (item :: rest, r)
    | _, false => none
termination_by structural fuel => fuel

/-- Reads an item of a sequence in brackets. A member whose key is empty loses the token that shows
this, so its value stands directly behind the sign of the key, or behind a comma and a colon. -/
def flowItem? : Nat → Reading → Option (Node × Reading)
  | 0, _ => none
  | fuel + 1, r =>
    match r.peek? with
    | some .key => do
      let ends : List Token := [.comma, .flowSequenceEnd]
      let (key, r) ←
        if r.drop.sees (.value :: ends) then some (Node.empty, r.drop.drop)
        else node? false false fuel r.drop
      let (value, r) ← match r.peek? with
        | some .value => nodeUnless? ends false false fuel r.drop
        | _ => some (Node.empty, r)
      some (.mapping none none [(key, value)], r)
    | _ => node? false false fuel r
termination_by structural fuel => fuel

/-- Reads the members of a mapping in braces. -/
def flowMembers? (first : Bool) :
    Nat → Reading → Option (List (Node × Node) × Reading)
  | 0, _ => none
  | fuel + 1, r =>
    match r.peek?, first with
    | some .flowMappingEnd, _ => some ([], r.drop)
    | some .comma, false =>
      match r.drop.peek? with
      | some .flowMappingEnd => some ([], r.drop.drop)
      | _ => do
        let (member, r) ← flowMember? fuel r.drop
        let (rest, r) ← flowMembers? false fuel r
        some (member :: rest, r)
    | _, true => do
      let (member, r) ← flowMember? fuel r
      let (rest, r) ← flowMembers? false fuel r
      some (member :: rest, r)
    | _, false => none
termination_by structural fuel => fuel

/-- Reads a member of a mapping in braces. Without a colon its value is empty. -/
def flowMember? : Nat → Reading → Option ((Node × Node) × Reading)
  | 0, _ => none
  | fuel + 1, r =>
    match r.peek? with
    | some .key => do
      let ends : List Token := [.comma, .flowMappingEnd]
      let (key, r) ← nodeUnless? (.value :: ends) false false fuel r.drop
      let (value, r) ← match r.peek? with
        | some .value => nodeUnless? ends false false fuel r.drop
        | _ => some (Node.empty, r)
      some ((key, value), r)
    | _ => do
      let (key, r) ← node? false false fuel r
      some ((key, Node.empty), r)
termination_by structural fuel => fuel

end

/-- Reads the directives before a document. There is at most one version, and it is 1.1 or 1.2; a
handle is declared once. -/
def directives? (r : Reading) (versioned : Bool) : List Token → Option Reading
  | .version major minor :: rest =>
    if versioned || major ≠ 1 || !(minor = 1 || minor = 2) then none else directives? r true rest
  | .tagDirective handle start :: rest =>
    if (r.handles.lookup handle).isSome then none
    else directives? { r with handles := (handle, start) :: r.handles } versioned rest
  | rest => some { r with tokens := rest }

/-- Whether a token belongs to the frame of a document and not to its content. -/
def isFrame : Token → Bool
  | .version .. | .tagDirective .. | .documentStart | .documentEnd => true
  | _ => false

/-- The content of a document behind its start. -/
def documentContent? (r : Reading) : Option (Node × Reading) :=
  match r.peek? with
  | none => some (Node.empty, r)
  | some t =>
    if isFrame t then some (Node.empty, r)
    else node? true false (8 * r.tokens.length + 8) r

/-- The document that tokens start with. It needs no mark at its start unless there are directives;
the mark of an end cannot come first. -/
def document? (tokens : List Token) : Option (Node × Reading) :=
  match tokens with
  | [] | .documentEnd :: _ => none
  | t :: _ =>
    if isFrame t then do
      let r ← directives? { tokens } false tokens
      if r.peek? = some .documentStart then documentContent? r.drop else none
    else documentContent? { tokens }

/-- The node of a YAML text. A text without any document has an empty one, and a text with several
documents is refused. -/
def readNode? (text : String) : Option Node := do
  let tokens ← tokens? text
  if tokens.isEmpty then return Node.empty
  let (node, r) ← document? tokens
  if r.tokens.all (· = .documentEnd) then some node else none

end OpenApiGen.Yaml
