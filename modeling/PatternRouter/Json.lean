/-!
# JSON texts

Objects with texts and nulls for values, written without blanks. In a text the quotation mark, the
backslash and the controls are escaped, and every other character stands for itself.
-/

namespace PatternRouter.Json

/-- The hexadecimal digit of a value below sixteen, in lower case. -/
def hexDigit (value : Nat) : Char :=
  if value < 10 then Char.ofNat (0x30 + value) else Char.ofNat (0x61 + (value - 10))

/-- A character as it is written in a text. -/
def escapeChar (c : Char) : List Char :=
  if c = '"' then ['\\', '"']
  else if c = '\\' then ['\\', '\\']
  else if c = '\x08' then ['\\', 'b']
  else if c = '\x0C' then ['\\', 'f']
  else if c = '\n' then ['\\', 'n']
  else if c = '\r' then ['\\', 'r']
  else if c = '\t' then ['\\', 't']
  else if c.toNat < 0x20 then ['\\', 'u', '0', '0', hexDigit (c.toNat / 16), hexDigit (c.toNat % 16)]
  else [c]

/-- A text between quotation marks. -/
def quote (text : List Char) : List Char :=
  '"' :: (text.flatMap escapeChar ++ ['"'])

/-- A value of a member. -/
inductive Value where
  /-- No value. -/
  | null
  | text (content : String)
deriving DecidableEq, Repr

/-- A value as it is written. -/
def Value.render : Value → List Char
  | .null => ['n', 'u', 'l', 'l']
  | .text content => quote content.toList

/-- A member of an object. -/
structure Member where
  name : String
  value : Value
deriving DecidableEq, Repr

/-- A member as it is written. -/
def Member.render (member : Member) : List Char :=
  quote member.name.toList ++ ':' :: member.value.render

/-- Members with commas between them. -/
def renderMembers : List Member → List Char
  | [] => []
  | [member] => member.render
  | member :: rest => member.render ++ ',' :: renderMembers rest

/-- An object as it is written, its members in their order. -/
def object (members : List Member) : String :=
  String.ofList ('{' :: (renderMembers members ++ ['}']))

end PatternRouter.Json
