/-!
# UTF-8

Characters as bytes and bytes as characters, one byte at a time. Bytes that encode no character
are found as the Encoding Standard finds them: a sequence ends at the first byte that cannot
continue it, is one fault as a whole, and that byte begins the next sequence.

* `decode?` reads a text that holds no fault.
* `decodeLossy` puts U+FFFD in the place of each fault.
* `ofString_ofBytes`: ASCII characters are bytes of their own.
-/

namespace PatternRouter.Utf8

/-- The bytes that encode a text. -/
def encode (text : List Char) : List UInt8 :=
  text.flatMap String.utf8EncodeChar

/-- A sequence whose first bytes have been read and whose last byte has not. -/
structure Open where
  /-- How many bytes follow the next one. -/
  more : Nat
  /-- The least value that the next byte may have. -/
  least : Nat
  /-- The greatest value that the next byte may have. -/
  greatest : Nat
  /-- The bits of the character that have been read. -/
  bits : Nat
deriving DecidableEq, Repr

/-- What the first byte of a sequence says. -/
inductive Lead where
  /-- The byte is a whole character. -/
  | whole (c : Char)
  /-- More bytes follow. -/
  | opens (sequence : Open)
  /-- No sequence begins with the byte. -/
  | fault
deriving DecidableEq, Repr

/-- Read the first byte of a sequence. -/
def lead (b : UInt8) : Lead :=
  let n := b.toNat
  if n < 0x80 then .whole (Char.ofNat n)
  else if n < 0xC2 then .fault
  else if n < 0xE0 then .opens ⟨0, 0x80, 0xBF, n - 0xC0⟩
  else if n = 0xE0 then .opens ⟨1, 0xA0, 0xBF, 0⟩
  else if n = 0xED then .opens ⟨1, 0x80, 0x9F, n - 0xE0⟩
  else if n < 0xF0 then .opens ⟨1, 0x80, 0xBF, n - 0xE0⟩
  else if n = 0xF0 then .opens ⟨2, 0x90, 0xBF, 0⟩
  else if n < 0xF4 then .opens ⟨2, 0x80, 0xBF, n - 0xF0⟩
  else if n = 0xF4 then .opens ⟨2, 0x80, 0x8F, n - 0xF0⟩
  else .fault

/-- The characters of a text of bytes, with `none` for each fault. -/
def scan : Option Open → List UInt8 → List (Option Char)
  | none, [] => []
  | some _, [] => [none]
  | none, b :: rest =>
    match lead b with
    | .whole c => some c :: scan none rest
    | .opens sequence => scan (some sequence) rest
    | .fault => none :: scan none rest
  | some sequence, b :: rest =>
    let n := b.toNat
    if sequence.least ≤ n ∧ n ≤ sequence.greatest then
      let bits := sequence.bits * 64 + n % 64
      match sequence.more with
      | 0 => some (Char.ofNat bits) :: scan none rest
      | more + 1 => scan (some ⟨more, 0x80, 0xBF, bits⟩) rest
    else
      match lead b with
      | .whole c => none :: some c :: scan none rest
      | .opens next => none :: scan (some next) rest
      | .fault => none :: none :: scan none rest

/-- The characters of a text without faults. -/
def decode? (bytes : List UInt8) : Option (List Char) :=
  (scan none bytes).mapM id

/-- The characters of a text, with U+FFFD for each fault. -/
def decodeLossy (bytes : List UInt8) : List Char :=
  (scan none bytes).map (·.getD '\uFFFD')

/-- The text that bytes encode, if they hold no fault. -/
def toString? (bytes : List UInt8) : Option String :=
  (decode? bytes).map String.ofList

/-- The bytes that encode a string. -/
def ofString (text : String) : List UInt8 :=
  encode text.toList

/-- The bytes that encode ASCII characters are their values. -/
theorem ofString_ofBytes {bytes : List UInt8} (h : ∀ b ∈ bytes, b.toNat < 0x80) :
    ofString (String.ofList (bytes.map fun b => Char.ofNat b.toNat)) = bytes := by
  have hascii : ∀ n : Fin 128, String.utf8EncodeChar (Char.ofNat n) = [UInt8.ofNat n] := by decide
  rw [ofString, encode, String.toList_ofList]
  induction bytes with
  | nil => rfl
  | cons b bytes ih =>
    have hbyte := hascii ⟨b.toNat, h b List.mem_cons_self⟩
    rw [UInt8.ofNat_toNat] at hbyte
    rw [List.map_cons, List.flatMap_cons, hbyte, ih fun c hc => h c (List.mem_cons_of_mem b hc),
      List.singleton_append]

end PatternRouter.Utf8
