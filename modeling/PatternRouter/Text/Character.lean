/-!
# Single characters

What the readers of texts share: the value of a digit, and the reading of a given character.
-/

namespace PatternRouter.Text

/-- The value of the digit with the given code in a base of at most sixteen. A letter may have
either case. -/
def digitValue? (base code : Nat) : Option Nat :=
  let value :=
    if 0x30 ≤ code ∧ code ≤ 0x39 then code - 0x30
    else if 0x41 ≤ code ∧ code ≤ 0x46 then code - 0x41 + 10
    else if 0x61 ≤ code ∧ code ≤ 0x66 then code - 0x61 + 10
    else 16
  if value < base then some value else none

/-- Read a character. -/
def readChar? (c : Char) : List Char → Option (List Char)
  | [] => none
  | head :: rest => if head = c then some rest else none

end PatternRouter.Text
