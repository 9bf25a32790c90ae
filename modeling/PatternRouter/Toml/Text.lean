import PatternRouter.Text.Character
import PatternRouter.Toml.Lexical

/-!
# Texts in a document

A text stands between quotation marks, where a backslash escapes what follows, or between
apostrophes, where nothing is escaped. Three marks open a text of several lines. The line end behind
the opening marks does not count, every other line end counts as a line feed, and one or two marks
that stand before the closing ones belong to the text. Between quotation marks a backslash at the end
of a line passes over the line end and all blanks and line ends behind it.
-/

namespace PatternRouter.Toml

/-- A text that was read, and what follows it. -/
abbrev ReadText := Option (List Char × List Char)

/-- Put a character before the text that was read. -/
def ReadText.push (c : Char) : ReadText → ReadText
  | some (text, rest) => some (c :: text, rest)
  | none => none

/-- Put a character before the text that was read, any number of times. -/
def ReadText.pushMany (count : Nat) (c : Char) : ReadText → ReadText
  | some (text, rest) => some (List.replicate count c ++ text, rest)
  | none => none

/-- Whether a character may stand for itself between quotation marks. -/
def isQuotedChar (c : Char) : Bool :=
  isCommentChar c && c != '"' && c != '\\'

/-- Whether a character may stand for itself between apostrophes. -/
def isLiteralChar (c : Char) : Bool :=
  isCommentChar c && c != '\''

/-- The character for which a letter behind a backslash stands. -/
def escaped? (c : Char) : Option Char :=
  [('b', '\x08'), ('f', '\x0C'), ('n', '\n'), ('r', '\r'), ('t', '\t'), ('\\', '\\'),
    ('"', '"')].lookup c

/-- Where the reading of a quoted text stands. -/
inductive QuotedState where
  /-- Between characters. -/
  | plain
  /-- Behind a backslash. -/
  | escape
  /-- In the digits of a character's number, of which `left` are to come. -/
  | digits (left value : Nat)
  /-- Behind a backslash and blanks, before a line end. -/
  | lineEnd
  /-- Behind a line end that is passed over. -/
  | margin
deriving DecidableEq, Repr

/-- What a character behind a backslash says. -/
inductive Escape where
  /-- The escape stands for a character. -/
  | char (c : Char)
  /-- So many digits follow. -/
  | number (digits : Nat)
  /-- There is no such escape. -/
  | unknown
deriving DecidableEq, Repr

/-- Read the character behind a backslash. -/
def readEscape (c : Char) : Escape :=
  match escaped? c with
  | some d => .char d
  | none => if c = 'u' then .number 4 else if c = 'U' then .number 8 else .unknown

/-- Read one more digit of a character's number. -/
def readDigit (left value : Nat) (c : Char) : Option (Nat × Nat) :=
  match left, Text.digitValue? 16 c.toNat with
  | left + 1, some digit => some (left, value * 16 + digit)
  | _, _ => none

/-- Read a text up to its closing quotation mark. -/
def readQuoted : QuotedState → List Char → ReadText
  | _, [] => none
  | .plain, c :: rest =>
    if c = '"' then some ([], rest)
    else if c = '\\' then readQuoted .escape rest
    else if isQuotedChar c then ReadText.push c (readQuoted .plain rest)
    else none
  | .escape, c :: rest =>
    match readEscape c with
    | .char d => ReadText.push d (readQuoted .plain rest)
    | .number digits => readQuoted (.digits digits 0) rest
    | .unknown => none
  | .digits left value, c :: rest =>
    match readDigit left value c with
    | none => none
    | some (0, value) =>
      if value.isValidChar then ReadText.push (Char.ofNat value) (readQuoted .plain rest) else none
    | some (left + 1, value) => readQuoted (.digits (left + 1) value) rest
  | _, _ => none

/-- How many marks belong to the text before its three closing ones, if it closes here. -/
def closing? (mark : Char) (text : List Char) : Option Nat :=
  let run := (text.takeWhile (· == mark)).length
  if run < 3 then none else some (min run 5 - 3)

/-- Read a text of several lines up to its three closing quotation marks. -/
def readQuotedLines : QuotedState → List Char → ReadText
  | _, [] => none
  | .plain, '\r' :: '\n' :: rest => ReadText.push '\n' (readQuotedLines .plain rest)
  | .plain, c :: rest =>
    if c = '"' then
      match closing? '"' (c :: rest) with
      | some count => ReadText.pushMany count '"' (some ([], rest.drop (count + 2)))
      | none => ReadText.push '"' (readQuotedLines .plain rest)
    else if c = '\\' then readQuotedLines .escape rest
    else if c = '\n' ∨ isQuotedChar c then ReadText.push c (readQuotedLines .plain rest)
    else none
  | .escape, '\r' :: '\n' :: rest => readQuotedLines .margin rest
  | .escape, c :: rest =>
    if c = '\n' then readQuotedLines .margin rest
    else if isBlank c then readQuotedLines .lineEnd rest
    else
      match readEscape c with
      | .char d => ReadText.push d (readQuotedLines .plain rest)
      | .number digits => readQuotedLines (.digits digits 0) rest
      | .unknown => none
  | .digits left value, c :: rest =>
    match readDigit left value c with
    | none => none
    | some (0, value) =>
      if value.isValidChar then ReadText.push (Char.ofNat value) (readQuotedLines .plain rest)
      else none
    | some (left + 1, value) => readQuotedLines (.digits (left + 1) value) rest
  | .lineEnd, '\r' :: '\n' :: rest => readQuotedLines .margin rest
  | .lineEnd, c :: rest =>
    if c = '\n' then readQuotedLines .margin rest
    else if isBlank c then readQuotedLines .lineEnd rest
    else none
  | .margin, '\r' :: '\n' :: rest => readQuotedLines .margin rest
  | .margin, c :: rest =>
    if c = '\n' ∨ isBlank c then readQuotedLines .margin rest
    else if c = '"' then
      match closing? '"' (c :: rest) with
      | some count => ReadText.pushMany count '"' (some ([], rest.drop (count + 2)))
      | none => ReadText.push '"' (readQuotedLines .plain rest)
    else if c = '\\' then readQuotedLines .escape rest
    else if isQuotedChar c then ReadText.push c (readQuotedLines .plain rest)
    else none

/-- Read a text up to its closing apostrophe. -/
def readLiteral (text : List Char) : ReadText :=
  let content := text.takeWhile isLiteralChar
  match text.drop content.length with
  | '\'' :: rest => some (content, rest)
  | _ => none

/-- Read a text of several lines up to its three closing apostrophes. -/
def readLiteralLines : List Char → ReadText
  | [] => none
  | '\r' :: '\n' :: rest => ReadText.push '\n' (readLiteralLines rest)
  | c :: rest =>
    if c = '\'' then
      match closing? '\'' (c :: rest) with
      | some count => ReadText.pushMany count '\'' (some ([], rest.drop (count + 2)))
      | none => ReadText.push '\'' (readLiteralLines rest)
    else if c = '\n' ∨ isLiteralChar c then ReadText.push c (readLiteralLines rest)
    else none

/-- A text without the line end that leads it. -/
def withoutNewline (text : List Char) : List Char :=
  (skipNewline? text).getD text

/-- Read a text with its marks. -/
def readText : List Char → ReadText
  | '"' :: '"' :: '"' :: rest => readQuotedLines .plain (withoutNewline rest)
  | '\'' :: '\'' :: '\'' :: rest => readLiteralLines (withoutNewline rest)
  | '"' :: rest => readQuoted .plain rest
  | '\'' :: rest => readLiteral rest
  | _ => none

end PatternRouter.Toml
