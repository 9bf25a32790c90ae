import PatternRouter.Toml.Text

/-!
# Keys

A key is a row of names with points between them. A name is written bare, of letters, digits,
underscores and hyphens of ASCII, or as a text on one line.
-/

namespace PatternRouter.Toml

/-- A key: the names that lead to a table, and the name that is bound there. -/
structure Key where
  /-- The names that lead to the table. -/
  parents : List String
  /-- The name that is bound. -/
  name : String
deriving DecidableEq, Repr

namespace Key

/-- A key must have fewer names than this. -/
def maxNames : Nat := 80

/-- The key of a row of names. There is none without a name or with too many. -/
def ofNames? (names : List String) : Option Key :=
  match names.getLast? with
  | some name => if names.length < maxNames then some ⟨names.dropLast, name⟩ else none
  | none => none

/-- Whether a character may stand in a bare name. -/
def isBareChar (c : Char) : Bool :=
  c.isAlphanum || c == '_' || c == '-'

/-- Read a name. -/
def readName? : List Char → Option (String × List Char)
  | '"' :: rest => (readQuoted .plain rest).map fun (name, rest) => (String.ofList name, rest)
  | '\'' :: rest => (readLiteral rest).map fun (name, rest) => (String.ofList name, rest)
  | text =>
    let name := text.takeWhile isBareChar
    if name.isEmpty then none else some (String.ofList name, text.drop name.length)

/-- Read names with points between them, at most `limit` of them. Blanks may stand around each. -/
def readNames? : Nat → List Char → Option (List String × List Char)
  | 0, _ => none
  | limit + 1, text => do
    let (name, text) ← readName? (skipBlanks text)
    match skipBlanks text with
    | '.' :: rest => do
      let (names, rest) ← readNames? limit rest
      return (name :: names, rest)
    | rest => return ([name], rest)

/-- Read a key. -/
def read? (text : List Char) : Option (Key × List Char) := do
  let (names, rest) ← readNames? (text.length + 1) text
  return (← ofNames? names, rest)

end Key

end PatternRouter.Toml
