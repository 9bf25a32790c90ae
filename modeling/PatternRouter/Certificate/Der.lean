/-!
# DER elements

An element is a tag, a length and the bytes of its content. A tag is a class, a number and a mark
that says whether the content is made of elements. The length takes one byte if it is below 128, and
otherwise a byte that counts the bytes of the length and these bytes.

Two sets of rules say which lengths are taken. The distinguished rules refuse a length below 127 in
the long form, and the form that leaves the length open. The basic rules take both. An element whose
length is open ends with an element of two zero bytes, and the elements before that may be open
themselves.

`read?` reads an element by the distinguished rules, and `skip?` passes over one by the basic rules.
`encode` writes an element whose tag number is below 31, in the shortest form.
-/

namespace PatternRouter.Der

/-- The classes of tags. -/
inductive TagClass where
  | universal
  | application
  | contextSpecific
  | privateUse
deriving DecidableEq, Repr

/-- An element. -/
structure Element where
  tagClass : TagClass
  /-- Whether the tag says that the content is made of elements. -/
  constructed : Bool
  /-- The number of the tag. -/
  tag : Nat
  /-- The bytes of the content. -/
  content : List UInt8
deriving DecidableEq, Repr

/-- The number of the tag BOOLEAN. -/
def tagBoolean : Nat := 1
/-- The number of the tag INTEGER. -/
def tagInteger : Nat := 2
/-- The number of the tag BIT STRING. -/
def tagBitString : Nat := 3
/-- The number of the tag OCTET STRING. -/
def tagOctetString : Nat := 4
/-- The number of the tag UTF8String. -/
def tagUtf8String : Nat := 12
/-- The number of the tag SEQUENCE. -/
def tagSequence : Nat := 16
/-- The number of the tag SET. -/
def tagSet : Nat := 17
/-- The number of the tag NumericString. -/
def tagNumericString : Nat := 18
/-- The number of the tag PrintableString. -/
def tagPrintableString : Nat := 19
/-- The number of the tag IA5String. -/
def tagIa5String : Nat := 22
/-- The number of the tag UTCTime. -/
def tagUtcTime : Nat := 23
/-- The number of the tag GeneralizedTime. -/
def tagGeneralizedTime : Nat := 24

/-- The class that two bits say. -/
def TagClass.ofBits : Nat → TagClass
  | 0 => .universal
  | 1 => .application
  | 2 => .contextSpecific
  | _ => .privateUse

/-- The two bits that say a class. -/
def TagClass.bits : TagClass → Nat
  | .universal => 0
  | .application => 1
  | .contextSpecific => 2
  | .privateUse => 3

/-- The number of a tag in bytes of seven bits each, of which at most `limit` are read. A number
keeps its lower 32 bits. -/
def longTag? (limit number : Nat) : List UInt8 → Option (Nat × List UInt8)
  | [] => none
  | b :: rest =>
    match limit with
    | 0 => none
    | limit + 1 =>
      let number := (number * 128 + b.toNat % 128) % 0x100000000
      if b.toNat < 128 then some (number, rest) else longTag? limit number rest

/-- The number that bytes spell, the highest first. -/
def natOfBytes (bytes : List UInt8) : Nat :=
  bytes.foldl (fun n b => n * 256 + b.toNat) 0

/-- The rules by which lengths are read. -/
inductive Rules where
  | distinguished
  | basic
deriving DecidableEq, Repr

/-- Read a length. It is `none` where it is left open. -/
def length? (rules : Rules) : List UInt8 → Option (Option Nat × List UInt8)
  | [] => none
  | b :: rest =>
    let n := b.toNat
    if n < 128 then some (some n, rest)
    else
      let count := n - 128
      -- A count of zero leaves the length open, and one of 127 is reserved.
      if count = 0 then if rules = .basic then some (none, rest) else none
      else if count = 127 ∨ rest.length < count then none
      else
        let length := natOfBytes (rest.take count)
        if (rules = .distinguished ∧ length < 127) ∨ 0x10000000000000000 ≤ length then none
        else some (some length, rest.drop count)

/-- What stands before the content of an element. -/
structure Header where
  tagClass : TagClass
  /-- Whether the tag says that the content is made of elements. -/
  constructed : Bool
  /-- The number of the tag. -/
  tag : Nat
  /-- The number of bytes of the content, unless it is left open. -/
  length : Option Nat
deriving DecidableEq, Repr

/-- Read the tag and the length of an element. Only a content that is made of elements may have an
open length. -/
def header? (rules : Rules) : List UInt8 → Option (Header × List UInt8)
  | [] => none
  | first :: rest =>
    let n := first.toNat
    let number := if n % 32 = 31 then longTag? 5 0 rest else some (n % 32, rest)
    match number with
    | none => none
    | some (tag, rest) =>
      match length? rules rest with
      | none => none
      | some (length, rest) =>
        let constructed : Bool := n / 32 % 2 = 1
        if length = none ∧ !constructed then none
        else some (⟨.ofBits (n / 64), constructed, tag, length⟩, rest)

/-- Read one element and the bytes behind it. -/
def read? (bytes : List UInt8) : Option (Element × List UInt8) :=
  match header? .distinguished bytes with
  | some (⟨tagClass, constructed, tag, some length⟩, rest) =>
    if rest.length < length then none
    else some (⟨tagClass, constructed, tag, rest.take length⟩, rest.drop length)
  | _ => none

/-- Read an element of the given tag number. -/
def expect? (tag : Nat) (bytes : List UInt8) : Option (Element × List UInt8) :=
  match read? bytes with
  | some (element, rest) => if element.tag = tag then some (element, rest) else none
  | none => none

/-- How deep elements of open length may lie in each other. -/
def maxDepth : Nat := 50

/-- Pass over at most `limit` elements, up to the one that ends a content of open length. The reader
of one element says whether it is the one. -/
def skipToEnd? (one? : List UInt8 → Option (Bool × List UInt8)) :
    Nat → List UInt8 → Option (List UInt8)
  | 0, _ => none
  | limit + 1, bytes =>
    match one? bytes with
    | none => none
    | some (true, rest) => some rest
    | some (false, rest) => skipToEnd? one? limit rest

/-- Pass over the content behind a header by the basic rules, and say whether the element is one
that ends a content of open length. No more elements than bytes follow. -/
def skipContent? : Nat → Header → List UInt8 → Option (Bool × List UInt8)
  | 0, _, _ => none
  | depth + 1, header, bytes =>
    match header.length with
    | some length =>
      if bytes.length < length then none
      else some (length = 0 ∧ header.tag = 0, bytes.drop length)
    | none =>
      let one? := fun bytes =>
        match header? .basic bytes with
        | none => none
        | some (inner, rest) => skipContent? depth inner rest
      (skipToEnd? one? bytes.length bytes).map fun rest => (false, rest)

/-- Pass over an element of the given tag number by the basic rules. -/
def skip? (tag : Nat) (bytes : List UInt8) : Option (List UInt8) :=
  match header? .basic bytes with
  | none => none
  | some (header, rest) =>
    -- The tag is looked at last, so that also an element of another tag must be complete.
    match skipContent? maxDepth header rest with
    | none => none
    | some (_, rest) => if header.tag = tag then some rest else none

/-- The bytes of a number, the highest first and none for zero. -/
def bytesOfNat (n : Nat) : List UInt8 :=
  if n = 0 then [] else bytesOfNat (n / 256) ++ [UInt8.ofNat n]
termination_by n

/-- A length in its shortest form. -/
def encodeLength (length : Nat) : List UInt8 :=
  if length < 128 then [UInt8.ofNat length]
  else
    let bytes := bytesOfNat length
    UInt8.ofNat (128 + bytes.length) :: bytes

/-- The bytes of an element whose tag number is below 31. -/
def encode (element : Element) : List UInt8 :=
  let mark := if element.constructed then 32 else 0
  UInt8.ofNat (element.tagClass.bits * 64 + mark + element.tag) ::
    (encodeLength element.content.length ++ element.content)

end PatternRouter.Der
