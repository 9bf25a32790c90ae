/-!
# Base64

Three bytes are written as four digits of six bits each, and a padding sign fills up the last group.
The reader skips blanks anywhere. It takes a last group with its padding or without, and does not
look at the bits that the last digit has too many. A padding sign anywhere else is an error, and so
is a last group of one digit.
-/

namespace PatternRouter.Base64

/-- The padding sign. -/
def padding : UInt8 := 0x3D

/-- The digit of a value below sixty-four. -/
def digit (value : Nat) : UInt8 :=
  if value < 26 then UInt8.ofNat (0x41 + value)
  else if value < 52 then UInt8.ofNat (0x61 + (value - 26))
  else if value < 62 then UInt8.ofNat (0x30 + (value - 52))
  else if value = 62 then 0x2B
  else 0x2F

/-- The value of a digit. -/
def digitValue? (b : UInt8) : Option Nat :=
  let n := b.toNat
  if 0x41 ≤ n ∧ n ≤ 0x5A then some (n - 0x41)
  else if 0x61 ≤ n ∧ n ≤ 0x7A then some (n - 0x61 + 26)
  else if 0x30 ≤ n ∧ n ≤ 0x39 then some (n - 0x30 + 52)
  else if n = 0x2B then some 62
  else if n = 0x2F then some 63
  else none

/-- Tab, line feed, vertical tab, form feed, carriage return and space. -/
def isBlank (b : UInt8) : Bool :=
  b == 0x20 || (0x09 ≤ b && b ≤ 0x0D)

/-- Bytes as digits, padded to whole groups. -/
def encode : List UInt8 → List UInt8
  | [] => []
  | [a] =>
    let n := a.toNat * 16
    [digit (n / 64), digit (n % 64), padding, padding]
  | [a, b] =>
    let n := (a.toNat * 256 + b.toNat) * 4
    [digit (n / 4096), digit (n / 64 % 64), digit (n % 64), padding]
  | a :: b :: c :: rest =>
    let n := (a.toNat * 256 + b.toNat) * 256 + c.toNat
    digit (n / 262144) :: digit (n / 4096 % 64) :: digit (n / 64 % 64) :: digit (n % 64) ::
      encode rest

/-- Drop the padding that closes the last group: one sign after three digits or two after two. -/
def unpadded : List UInt8 → List UInt8
  | [a, b, c, d] =>
    if d = padding then if c = padding then [a, b] else [a, b, c] else [a, b, c, d]
  | a :: b :: c :: d :: rest => a :: b :: c :: d :: unpadded rest
  | short => short

/-- The bytes that digit values spell, six bits a value. A single value at the end spells nothing. -/
def bytesOf? : List Nat → Option (List UInt8)
  | [] => some []
  | [_] => none
  | [p, q] => some [UInt8.ofNat ((p * 64 + q) / 16)]
  | [p, q, r] =>
    let n := (p * 64 + q) * 64 + r
    some [UInt8.ofNat (n / 1024), UInt8.ofNat (n / 4 % 256)]
  | p :: q :: r :: s :: rest =>
    let n := ((p * 64 + q) * 64 + r) * 64 + s
    (bytesOf? rest).map fun bytes =>
      UInt8.ofNat (n / 65536) :: UInt8.ofNat (n / 256 % 256) :: UInt8.ofNat (n % 256) :: bytes

/-- The bytes that a text of digits stands for. -/
def decode? (text : List UInt8) : Option (List UInt8) :=
  match (unpadded (text.filter (!isBlank ·))).mapM digitValue? with
  | some values => bytesOf? values
  | none => none

end PatternRouter.Base64
