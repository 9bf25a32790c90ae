import PatternRouter.Text.Character

/-!
# Percent-encoding

A percent sign followed by two hexadecimal digits stands for the byte that they spell. Any other
percent sign stands for itself, so every text of bytes has a decoding.

* `decode_of_not_mem`: a text without percent signs stands for itself.
* `decode_escape`: a byte written as a percent sign and two digits is read back.
-/

namespace PatternRouter.Percent

/-- The percent sign. -/
def mark : UInt8 := 0x25

/-- The value of a hexadecimal digit, in either case. -/
def digitValue? (b : UInt8) : Option Nat :=
  Text.digitValue? 16 b.toNat

/-- The hexadecimal digit of a value below sixteen. -/
def digit (upper : Bool) (value : Nat) : UInt8 :=
  if value < 10 then UInt8.ofNat (0x30 + value)
  else if upper then UInt8.ofNat (0x41 + (value - 10))
  else UInt8.ofNat (0x61 + (value - 10))

/-- Read every percent sign that two digits follow as one byte. -/
def decode : List UInt8 → List UInt8
  | [] => []
  | [b] => [b]
  | [b, c] => [b, c]
  | b :: high :: low :: rest =>
    if b = mark then
      match digitValue? high, digitValue? low with
      | some h, some l => UInt8.ofNat (h * 16 + l) :: decode rest
      | _, _ => b :: decode (high :: low :: rest)
    else b :: decode (high :: low :: rest)

/-- A byte as a percent sign and two digits, each in a case of its own. -/
def escape (upperHigh upperLow : Bool) (b : UInt8) : List UInt8 :=
  [mark, digit upperHigh (b.toNat / 16), digit upperLow (b.toNat % 16)]

/-- A text without percent signs stands for itself. -/
theorem decode_of_not_mem {bytes : List UInt8} (h : mark ∉ bytes) : decode bytes = bytes := by
  fun_induction decode bytes with
  | case1 => rfl
  | case2 => rfl
  | case3 => rfl
  | case4 => simp at h
  | case5 => simp at h
  | case6 b high low rest hb ih => rw [ih (fun hm => h (List.mem_cons_of_mem _ hm))]

/-- The digits of all values below sixteen are read back. -/
theorem digitValue?_digit (upper : Bool) {value : Nat} (h : value < 16) :
    digitValue? (digit upper value) = some value := by
  have all : ∀ n : Nat, n < 16 → digitValue? (digit upper n) = some n := by
    cases upper <;> decide
  exact all value h

/-- A byte written as a percent sign and two digits is read back. -/
theorem decode_escape (upperHigh upperLow : Bool) (b : UInt8) (rest : List UInt8) :
    decode (escape upperHigh upperLow b ++ rest) = b :: decode rest := by
  have hb : b.toNat < 256 := b.toNat_lt
  have high := digitValue?_digit upperHigh (show b.toNat / 16 < 16 by omega)
  have low := digitValue?_digit upperLow (show b.toNat % 16 < 16 by omega)
  simp only [escape, List.cons_append, List.nil_append, decode, if_true, high, low]
  rw [show b.toNat / 16 * 16 + b.toNat % 16 = b.toNat by omega, UInt8.ofNat_toNat]

end PatternRouter.Percent
