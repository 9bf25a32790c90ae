import PatternRouter.Certificate.Der
import PatternRouter.Encoding.Utf8

/-!
# Distinguished names

A name is a sequence of sets of attributes, each an object identifier and a value. Reading a set
stops at the first thing in it that is no attribute; reading a name stops at the first thing in it
that is no set, or a set without a readable attribute. What was read before counts.

The common name is the first attribute with its object identifier, whether or not its value can be
read as text.
-/

namespace PatternRouter.Certificate

/-- An attribute of a name. -/
structure Attribute where
  /-- The bytes of the object identifier. -/
  oid : List UInt8
  value : Der.Element
deriving DecidableEq, Repr

/-- The attributes of a name, set after set. -/
abbrev Name := List (List Attribute)

/-- The bytes of an object identifier. They are not looked into, and the tag may have any number. -/
def readOid? (bytes : List UInt8) : Option (List UInt8 × List UInt8) :=
  match Der.read? bytes with
  | some (element, rest) => if element.constructed then none else some (element.content, rest)
  | none => none

/-- Read an attribute. -/
def readAttribute? (bytes : List UInt8) : Option (Attribute × List UInt8) := do
  let (element, rest) ← Der.expect? Der.tagSequence bytes
  let (oid, content) ← readOid? element.content
  let (value, _) ← Der.read? content
  return (⟨oid, value⟩, rest)

/-- Read with `one?` as often as it succeeds, at most `limit` times, and give what is left. -/
def readMany {α : Type} (one? : List UInt8 → Option (α × List UInt8)) :
    Nat → List UInt8 → List α × List UInt8
  | 0, bytes => ([], bytes)
  | limit + 1, bytes =>
    match one? bytes with
    | none => ([], bytes)
    | some (value, rest) =>
      let (values, left) := readMany one? limit rest
      (value :: values, left)

/-- Read a set of attributes. It must hold at least one. -/
def readSet? (bytes : List UInt8) : Option (List Attribute × List UInt8) := do
  let (element, rest) ← Der.expect? Der.tagSet bytes
  match (readMany readAttribute? element.content.length element.content).1 with
  | [] => none
  | attributes => return (attributes, rest)

/-- Read a name. -/
def readName? (bytes : List UInt8) : Option (Name × List UInt8) := do
  let (element, rest) ← Der.expect? Der.tagSequence bytes
  return ((readMany readSet? element.content.length element.content).1, rest)

/-- The object identifier 2.5.4.3 of common names. -/
def commonNameOid : List UInt8 := [0x55, 0x04, 0x03]

/-- The tag numbers of the values that are read as text. -/
def textTags : List Nat :=
  [Der.tagUtf8String, Der.tagNumericString, Der.tagPrintableString, Der.tagIa5String]

/-- The text of a value, if its tag is one of a text and its bytes are UTF-8. -/
def textOf? (value : Der.Element) : Option String :=
  if value.tag ∈ textTags then Utf8.toString? value.content else none

/-- The first common name of a name. -/
def commonName? (name : Name) : Option Attribute :=
  name.flatten.find? fun entry => entry.oid == commonNameOid

/-- The text of the first common name, empty if there is none or it cannot be read. -/
def commonNameText (name : Name) : String :=
  ((commonName? name).bind fun entry => textOf? entry.value).getD ""

end PatternRouter.Certificate
