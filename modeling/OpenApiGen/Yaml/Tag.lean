/-!
Tags of YAML nodes. A tag is a sequence of bytes: a percent sign with two hexadecimal digits gives a
byte as such. A tag that starts with an exclamation mark is a document's own; the tags of the types
that all documents know start in another way.
-/

namespace OpenApiGen.Yaml

/-- A tag whose handle has been replaced by what it stands for. -/
structure Tag where
  bytes : List UInt8
  deriving DecidableEq, Repr

namespace Tag

/-- The start of the tags of the types that every document knows. -/
def coreStart : List UInt8 :=
  "tag:yaml.org,2002:".toUTF8.toList

/-- The tag of a type that every document knows. -/
def core (name : String) : Tag :=
  ⟨coreStart ++ name.toUTF8.toList⟩

/-- An exclamation mark. -/
def mark : UInt8 := 0x21

/-- Whether a tag is a document's own. -/
def isOwn (t : Tag) : Bool :=
  t.bytes.head? = some mark

/-- The name that a document's own tag has behind its mark, if that is a text. A mark that stands
alone is its own name. -/
def ownName? (t : Tag) : Option String :=
  match t.bytes with
  | [] => none
  | first :: rest =>
    if first ≠ mark then none
    else String.fromUTF8? ⟨(if rest.isEmpty then [mark] else rest).toArray⟩

end Tag

end OpenApiGen.Yaml
