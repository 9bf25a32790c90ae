/-!
# Blanks, line ends and comments

What may stand between the parts of a document.
-/

namespace PatternRouter.Toml

/-- Whether a character is a blank: a space or a tab. -/
def isBlank (c : Char) : Bool :=
  c == ' ' || c == '\t'

/-- Whether a character may stand in a comment: any but the controls, tabs excepted. -/
def isCommentChar (c : Char) : Bool :=
  c == '\t' || (' ' ≤ c && c != '\x7F')

/-- Pass over blanks. -/
def skipBlanks (text : List Char) : List Char :=
  text.dropWhile isBlank

/-- Pass over one line end. -/
def skipNewline? : List Char → Option (List Char)
  | '\n' :: rest => some rest
  | '\r' :: '\n' :: rest => some rest
  | _ => none

/-- Pass over a comment, if one stands next. -/
def skipComment : List Char → List Char
  | '#' :: rest => rest.dropWhile isCommentChar
  | text => text

/-- Pass over what may close a line: blanks, a comment and the line end. The text may end here. -/
def skipLineEnd? (text : List Char) : Option (List Char) :=
  match skipComment (skipBlanks text) with
  | [] => some []
  | rest => skipNewline? rest

/-- Pass over blanks, comments and line ends, at most `limit` of them. -/
def skipFiller : Nat → List Char → List Char
  | 0, text => text
  | limit + 1, text =>
    match skipComment (skipBlanks text) with
    | [] => []
    | rest =>
      match skipNewline? rest with
      | some rest => skipFiller limit rest
      | none => rest

end PatternRouter.Toml
