import PatternRouter.Text.Character

/-!
# Socket addresses

An address of the Internet Protocol, version 4 or 6, with a port. The text of the former is four
decimal numbers between points and the port behind a colon; the text of the latter stands in
brackets, may name a zone, and writes the address as groups of hexadecimal digits, of which one run
may be left out and the last two may be written as an address of version 4.

* `SocketAddress.parse?` reads a text. No blank and no name is taken.
* `SocketAddress.text` is the one text of an address that is shown.
-/

namespace PatternRouter.Net

/-- Whether a character is a digit in a base. -/
def isDigit (base : Nat) (c : Char) : Bool :=
  (Text.digitValue? base c.toNat).isSome

/-- The number that digits spell. -/
def valueOf (base : Nat) (digits : List Char) : Nat :=
  digits.foldl (fun n c => n * base + (Text.digitValue? base c.toNat).getD 0) 0

/-- Read all digits that stand next, of which there are at least one and whose value is below
`bound`. -/
def readNumber? (base bound : Nat) (text : List Char) : Option (Nat × List Char) :=
  let digits := text.takeWhile (isDigit base)
  let value := valueOf base digits
  if digits.isEmpty || bound ≤ value then none else some (value, text.drop digits.length)

/-- Read a number below 256 that no zero leads. -/
def readOctet? (text : List Char) : Option (Nat × List Char) :=
  match text.takeWhile (isDigit 10) with
  | '0' :: _ :: _ => none
  | _ => readNumber? 10 256 text

/-- Read a group of at most four hexadecimal digits. -/
def readGroup? (text : List Char) : Option (Nat × List Char) :=
  if 4 < (text.takeWhile (isDigit 16)).length then none else readNumber? 16 65536 text

/-- An address of version 4: its four numbers. -/
structure Ipv4 where
  a : Nat
  b : Nat
  c : Nat
  d : Nat
deriving DecidableEq, Repr

/-- Read an address of version 4. -/
def Ipv4.read? (text : List Char) : Option (Ipv4 × List Char) := do
  let (a, text) ← readOctet? text
  let (b, text) ← readOctet? (← Text.readChar? '.' text)
  let (c, text) ← readOctet? (← Text.readChar? '.' text)
  let (d, text) ← readOctet? (← Text.readChar? '.' text)
  return (⟨a, b, c, d⟩, text)

/-- The text of an address of version 4. -/
def Ipv4.text (address : Ipv4) : String :=
  ".".intercalate ([address.a, address.b, address.c, address.d].map toString)

/-- An address of version 6: its eight groups. -/
structure Ipv6 where
  /-- The groups, of sixteen bits each. -/
  groups : List Nat
deriving DecidableEq, Repr

namespace Ipv6

/-- Groups that were read one after the other. -/
structure Groups where
  /-- The groups. -/
  values : List Nat
  /-- Whether the last two were written as an address of version 4. -/
  endsInIpv4 : Bool
  /-- What follows them. -/
  rest : List Char
deriving DecidableEq, Repr

/-- Read at most `limit` groups with colons between them. All but the first of a list follow a
colon. An address of version 4 stands for two groups and ends the list. -/
def readGroups : Nat → Bool → List Char → Groups
  | 0, _, text => ⟨[], false, text⟩
  | limit + 1, first, text =>
    match if first then some text else Text.readChar? ':' text with
    | none => ⟨[], false, text⟩
    | some next =>
      match if limit = 0 then none else Ipv4.read? next with
      | some (address, rest) =>
        ⟨[address.a * 256 + address.b, address.c * 256 + address.d], true, rest⟩
      | none =>
        match readGroup? next with
        | none => ⟨[], false, text⟩
        | some (value, rest) =>
          let more := readGroups limit false rest
          { more with values := value :: more.values }

/-- Read an address of version 6. Two colons stand for at least one group of zeros. -/
def read? (text : List Char) : Option (Ipv6 × List Char) :=
  let head := readGroups 8 true text
  if head.values.length = 8 then some (⟨head.values⟩, head.rest)
  else if head.endsInIpv4 then none
  else
    match head.rest with
    | ':' :: ':' :: rest =>
      let tail := readGroups (8 - (head.values.length + 1)) true rest
      let zeros := List.replicate (8 - head.values.length - tail.values.length) 0
      some (⟨head.values ++ zeros ++ tail.values⟩, tail.rest)
    | _ => none

/-- The hexadecimal digits of groups, with colons between the groups. -/
def groupsText (groups : List Nat) : String :=
  ":".intercalate (groups.map fun group => String.ofList (Nat.toDigits 16 group))

/-- The longest run of zeros from each place on: the place of the first of the longest runs, counted
from `place`, and its length. -/
def longestZeros (place : Nat) : List Nat → Nat × Nat
  | [] => (place, 0)
  | group :: rest =>
    let here := ((group :: rest).takeWhile (· == 0)).length
    let later := longestZeros (place + 1) rest
    if later.2 ≤ here then (place, here) else later

/-- The text of an address of version 6. The first of the longest runs of at least two zeros is left
out. An address that holds one of version 4 shows it. -/
def text (address : Ipv6) : String :=
  match address.groups with
  | [0, 0, 0, 0, 0, 0xFFFF, high, low] =>
    "::ffff:" ++ Ipv4.text ⟨high / 256, high % 256, low / 256, low % 256⟩
  | groups =>
    let (place, length) := longestZeros 0 groups
    if length < 2 then groupsText groups
    else groupsText (groups.take place) ++ "::" ++ groupsText (groups.drop (place + length))

end Ipv6

/-- An address with a port. -/
inductive SocketAddress where
  /-- Of version 4. -/
  | v4 (address : Ipv4) (port : Nat)
  /-- Of version 6, with the number of a zone, or zero. -/
  | v6 (address : Ipv6) (zone port : Nat)
deriving DecidableEq, Repr

namespace SocketAddress

/-- The port. -/
def port : SocketAddress → Nat
  | .v4 _ port => port
  | .v6 _ _ port => port

/-- Read a port behind a colon. -/
def readPort? (text : List Char) : Option (Nat × List Char) := do
  readNumber? 10 65536 (← Text.readChar? ':' text)

/-- Read an address of version 4 with a port. -/
def readV4? (text : List Char) : Option (SocketAddress × List Char) := do
  let (address, text) ← Ipv4.read? text
  let (port, text) ← readPort? text
  return (.v4 address port, text)

/-- Read the number of a zone behind a percent sign, if one stands next. -/
def readZone (text : List Char) : Nat × List Char :=
  ((Text.readChar? '%' text).bind (readNumber? 10 0x100000000)).getD (0, text)

/-- Read an address of version 6 with a port. -/
def readV6? (text : List Char) : Option (SocketAddress × List Char) := do
  let (address, text) ← Ipv6.read? (← Text.readChar? '[' text)
  let (zone, text) := readZone text
  let (port, text) ← readPort? (← Text.readChar? ']' text)
  return (.v6 address zone port, text)

/-- Read a text that holds a socket address and nothing else. -/
def parse? (text : String) : Option SocketAddress :=
  match readV4? text.toList <|> readV6? text.toList with
  | some (address, []) => some address
  | _ => none

/-- The text of an address before its port. -/
def hostText : SocketAddress → String
  | .v4 address _ => address.text
  | .v6 address zone _ =>
    let zoneText := if zone = 0 then "" else "%" ++ toString zone
    "[" ++ address.text ++ zoneText ++ "]"

/-- The text of a socket address. -/
def text (address : SocketAddress) : String :=
  address.hostText ++ ":" ++ toString address.port

end SocketAddress

end PatternRouter.Net
