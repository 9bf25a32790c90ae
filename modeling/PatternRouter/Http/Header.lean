/-!
# Header fields

A header name is a token, read without regard to case; a header value is a text of bytes without
controls, tabs excepted. A message may repeat a name, and the first field of a name decides.
-/

namespace PatternRouter.Http

/-- The characters of tokens: letters, digits and some signs. -/
def isTokenChar (c : Char) : Bool :=
  c.isAlphanum || "!#$%&'*+-.^_`|~".toList.contains c

/-- The name of a header field, in lower case. -/
structure HeaderName where
  /-- The letters of the name. -/
  text : String
deriving DecidableEq, Repr

namespace HeaderName

/-- The greatest number of characters that a name may have. -/
def maxLength : Nat := 65535

/-- Read a name. -/
def parse? (text : String) : Option HeaderName :=
  let chars := text.toList
  if chars ≠ [] ∧ chars.length ≤ maxLength ∧ chars.all isTokenChar then
    some ⟨String.ofList (chars.map Char.toLower)⟩
  else none

/-- The field that tells one request from others. -/
def requestId : HeaderName := ⟨"x-request-id"⟩

/-- The field that tells the type of a body. -/
def contentType : HeaderName := ⟨"content-type"⟩

/-- The field that tells the size of a body. -/
def contentLength : HeaderName := ⟨"content-length"⟩

/-- The field that tells how a body is cut into pieces. -/
def transferEncoding : HeaderName := ⟨"transfer-encoding"⟩

end HeaderName

/-- The value of a header field. -/
abbrev HeaderValue := List UInt8

namespace HeaderValue

/-- Whether a byte may stand in a value: a tab, or any byte that is no control. -/
def isLegalByte (b : UInt8) : Bool :=
  b == 0x09 || (0x20 ≤ b && b != 0x7F)

/-- Read a value. -/
def parse? (bytes : List UInt8) : Option HeaderValue :=
  if bytes.all isLegalByte then some bytes else none

/-- Whether a byte is a visible character, a tab or a space. -/
def isVisibleByte (b : UInt8) : Bool :=
  b == 0x09 || (0x20 ≤ b && b < 0x7F)

/-- A value as text, if all its bytes are visible characters, tabs or spaces. -/
def text? (value : HeaderValue) : Option String :=
  if value.all isVisibleByte then some (String.ofList (value.map fun b => Char.ofNat b.toNat))
  else none

/-- The value that spells a text of ASCII characters. -/
def ofText (text : String) : HeaderValue :=
  text.toList.map fun c => UInt8.ofNat c.toNat

end HeaderValue

/-- The header fields of a message, in their order. -/
abbrev Headers := List (HeaderName × HeaderValue)

namespace Headers

/-- The value of the first field of a name. -/
def get? (headers : Headers) (name : HeaderName) : Option HeaderValue :=
  headers.lookup name

/-- Whether a field of the name is there. -/
def has (headers : Headers) (name : HeaderName) : Bool :=
  (headers.get? name).isSome

/-- Add a field unless one of its name is there. -/
def addNew (headers : Headers) (name : HeaderName) (value : HeaderValue) : Headers :=
  if headers.has name then headers else headers ++ [(name, value)]

/-- After `addNew` a name that was there keeps its first value, and else has the new one. -/
theorem get?_addNew_self (headers : Headers) (name : HeaderName) (value : HeaderValue) :
    (headers.addNew name value).get? name = some ((headers.get? name).getD value) := by
  unfold addNew has
  cases found : headers.get? name with
  | some own => simp [found]
  | none =>
    simp only [get?] at found
    simp [get?, List.lookup_append, found]

/-- After `addNew` every other name has the values that it had. -/
theorem get?_addNew_of_ne (headers : Headers) {name other : HeaderName} (value : HeaderValue)
    (differ : other ≠ name) : (headers.addNew name value).get? other = headers.get? other := by
  unfold addNew
  split
  · rfl
  · have : (other == name) = false := beq_false_of_ne differ
    simp [get?, List.lookup_append, List.lookup_cons, this]

/-- A field is added behind the others. -/
theorem addNew_eq (headers : Headers) (name : HeaderName) (value : HeaderValue) :
    headers.addNew name value =
      headers ++ if headers.has name = true then [] else [(name, value)] := by
  rw [addNew]
  split
  · rw [List.append_nil]
  · rfl

end Headers

end PatternRouter.Http
