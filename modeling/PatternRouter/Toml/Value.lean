import PatternRouter.Toml.Number
import PatternRouter.Toml.Table

/-!
# Values

A value is a text, a number, a truth value, a date or time, an array or a table between braces. The
items of an array may stand on several lines, and a comma may follow the last one; a table between
braces stands on one line, and no comma follows its last binding. Arrays and tables may be nested
below a fixed depth.
-/

namespace PatternRouter.Toml

/-- Arrays and tables between braces may be nested so deep. -/
def maxDepth : Nat := 79

/-- Pass over a word. -/
def skipWord? (word : String) (text : List Char) : Option (List Char) :=
  let size := word.length
  if text.take size = word.toList then some (text.drop size) else none

/-- Read a value that holds no other ones. -/
def readScalar? : List Char → Option (Node × List Char)
  | [] => none
  | c :: rest =>
    let text := c :: rest
    if c = '"' ∨ c = '\'' then
      (readText text).map fun (content, rest) => (.string (String.ofList content), rest)
    else if c = 't' then (skipWord? "true" text).map fun rest => (.boolean true, rest)
    else if c = 'f' then (skipWord? "false" text).map fun rest => (.boolean false, rest)
    else if c = 'i' then (skipWord? "inf" text).map fun rest => (.float "inf", rest)
    else if c = 'n' then (skipWord? "nan" text).map fun rest => (.float "nan", rest)
    else if c = '+' ∨ c = '-' ∨ c.isDigit then readNumber? text
    else none

/-- A key and the value that it is bound to. -/
structure Binding where
  key : Key
  /-- The value. -/
  node : Node

/-- Read a binding, its value with `value?`. -/
def readBinding? (value? : List Char → Option (Node × List Char)) (text : List Char) :
    Option (Binding × List Char) := do
  let (key, text) ← Key.read? text
  let (node, text) ← value? (skipBlanks (← Text.readChar? '=' text))
  return (⟨key, node⟩, text)

/-- Read the items of an array behind its opening bracket, each with `value?` and at most `limit` of
them. -/
def readItems? (value? : List Char → Option (Node × List Char)) :
    Nat → List Char → Option (List Node × List Char)
  | 0, _ => none
  | limit + 1, text =>
    match skipFiller (limit + 1) text with
    | ']' :: rest => some ([], rest)
    | text => do
      let (item, text) ← value? text
      match skipFiller (limit + 1) text with
      | ']' :: rest => return ([item], rest)
      | ',' :: rest => do
        let (items, rest) ← readItems? value? limit rest
        return (item :: items, rest)
      | _ => none

/-- Read the bindings of a table behind its opening brace, their values with `value?` and at most
`limit` of them. -/
def readBindings? (value? : List Char → Option (Node × List Char)) :
    Nat → List Char → Option (List Binding × List Char)
  | 0, _ => none
  | limit + 1, text => do
    let (binding, text) ← readBinding? value? text
    match skipBlanks text with
    | '\x7d' :: rest => return ([binding], rest)
    | ',' :: rest => do
      let (bindings, rest) ← readBindings? value? limit rest
      return (binding :: bindings, rest)
    | _ => none

/-- The table of bindings. -/
def Entries.ofBindings? (bindings : List Binding) : Option Entries :=
  bindings.foldlM (fun entries binding => entries.bindKey? binding.key binding.node) []

/-- Read a value in which arrays and tables are nested at most `depth` deep. -/
def readValue? : Nat → List Char → Option (Node × List Char)
  | depth + 1, '[' :: rest =>
    (readItems? (readValue? depth) (rest.length + 1) rest).map fun (items, rest) =>
      (.array items, rest)
  | depth + 1, '\x7b' :: rest =>
    match skipBlanks rest with
    | '\x7d' :: rest => some (.table .inline [], rest)
    | text => do
      let (bindings, rest) ← readBindings? (readValue? depth) (text.length + 1) text
      return (.table .inline (← Entries.ofBindings? bindings), rest)
  | _, text => readScalar? text

end PatternRouter.Toml
