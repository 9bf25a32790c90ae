import PatternRouter.Text.Unprintable

/-!
# Quoted texts

A text is shown between quotation marks on one line, so that it can be told from any other. The
quotation mark, the backslash and the common controls are escaped by a letter, and every character
without a shape of its own by its number in hexadecimal digits.
-/

namespace PatternRouter.Text

/-- A character as it is shown in a quoted text. -/
def quoteChar (c : Char) : List Char :=
  if c = '"' then ['\\', '"']
  else if c = '\\' then ['\\', '\\']
  else if c = '\n' then ['\\', 'n']
  else if c = '\r' then ['\\', 'r']
  else if c = '\t' then ['\\', 't']
  else if c = '\x00' then ['\\', '0']
  else if ' ' ≤ c ∧ c ≤ '~' then [c]
  else if isUnprintable c then ['\\', 'u', '{'] ++ Nat.toDigits 16 c.toNat ++ ['}']
  else [c]

/-- A text between quotation marks. -/
def quoted (text : String) : String :=
  String.ofList ('"' :: (text.toList.flatMap quoteChar ++ ['"']))

end PatternRouter.Text
