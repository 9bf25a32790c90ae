import PatternRouter.Toml.Value

/-!
# Documents

A document is a row of lines. A line binds a key in the table that is open, or opens a table with a
header in brackets or in double brackets. At first the document itself is the table that is open. A
byte-order mark may lead the document.
-/

namespace PatternRouter.Toml

/-- What a line of a document says. -/
inductive Statement where
  /-- Bind a key in the open table. -/
  | binding (binding : Binding)
  /-- Open a table. -/
  | header (key : Key)
  /-- Open one more of the tables with a name. -/
  | element (key : Key)

namespace Statement

/-- Read what a line says. -/
def read? : List Char → Option (Statement × List Char)
  | '[' :: '[' :: rest => do
    let (key, text) ← Key.read? rest
    return (.element key, ← Text.readChar? ']' (← Text.readChar? ']' text))
  | '[' :: rest => do
    let (key, text) ← Key.read? rest
    return (.header key, ← Text.readChar? ']' text)
  | text => do
    let (bound, text) ← readBinding? (readValue? maxDepth) text
    return (.binding bound, text)

/-- Read what the lines of a text say, at most `limit` of them. -/
def readAll? : Nat → List Char → Option (List Statement)
  | 0, _ => none
  | limit + 1, text =>
    match skipFiller (limit + 1) text with
    | [] => some []
    | text => do
      let (statement, text) ← read? text
      let statements ← readAll? limit (← skipLineEnd? text)
      return statement :: statements

end Statement

/-- A document that is read to some line. -/
structure Document where
  /-- What the document holds. -/
  entries : Entries
  /-- The names that lead to the open table. -/
  openNames : List String

namespace Document

/-- The document without a line. -/
def empty : Document := ⟨[], []⟩

/-- Do what a line says. -/
def step? (document : Document) : Statement → Option Document
  | .binding binding =>
    (document.entries.within? (·.bindKey? binding.key binding.node) document.openNames).map
      fun entries => { document with entries }
  | .header key =>
    (document.entries.openTable? key).map fun entries => ⟨entries, key.parents ++ [key.name]⟩
  | .element key =>
    (document.entries.openTables? key).map fun entries => ⟨entries, key.parents ++ [key.name]⟩

/-- A text without the byte-order mark that leads it. -/
def withoutMark : List Char → List Char
  | '\uFEFF' :: rest => rest
  | text => text

/-- Read a document. -/
def parse? (text : String) : Option Entries := do
  let text := withoutMark text.toList
  let statements ← Statement.readAll? (text.length + 1) text
  let document ← statements.foldlM step? empty
  return document.entries

end Document

end PatternRouter.Toml
