import PatternRouter.Calendar
import PatternRouter.Text.Character
import PatternRouter.Toml.Node

/-!
# Numbers, dates and times

A number, a date or a time is a word of digits, letters and a few signs, and its spelling says which
of them it is. Digits may be grouped by underscores, each between two digits. A whole number has 64
bits and is written in the base ten, sixteen, eight or two; only the base ten takes a sign. A number
with a fraction or an exponent must not be too great for a double. A day must be in the calendar.
-/

namespace PatternRouter.Toml

/-- Whether a character may stand in the word of a number, a date or a time. -/
def isWordChar (c : Char) : Bool :=
  c.isAlphanum || c == '+' || c == '-' || c == '_' || c == '.' || c == ':'

/-- The digits of a group in a base. Every underscore stands between two digits, and `after` says
whether a digit stands before the first character. -/
def ungroup? (base : Nat) (after : Bool) : List Char → Option (List Nat)
  | [] => if after then some [] else none
  | '_' :: rest => if after then ungroup? base false rest else none
  | c :: rest =>
    match Text.digitValue? base c.toNat with
    | some value => (ungroup? base true rest).map (value :: ·)
    | none => none

/-- The number that digits spell in a base. -/
def numberOf (base : Nat) (digits : List Nat) : Nat :=
  digits.foldl (fun n digit => n * base + digit) 0

/-- A sign, if a word begins with one: whether it is a minus, and the rest of the word. -/
def cutSign : List Char → Bool × List Char
  | '-' :: rest => (true, rest)
  | '+' :: rest => (false, rest)
  | word => (false, word)

/-- The digits of a number in the base ten, which no zero leads. -/
def decimal? : List Char → Option (List Nat)
  | ['0'] => some [0]
  | '0' :: _ => none
  | word => ungroup? 10 false word

/-- The whole number that a word spells. -/
def integer? (word : List Char) : Option Int :=
  let natural : Option Int :=
    match word with
    | '0' :: 'x' :: rest => (ungroup? 16 false rest).map fun digits => (numberOf 16 digits : Int)
    | '0' :: 'o' :: rest => (ungroup? 8 false rest).map fun digits => (numberOf 8 digits : Int)
    | '0' :: 'b' :: rest => (ungroup? 2 false rest).map fun digits => (numberOf 2 digits : Int)
    | word =>
      let (minus, rest) := cutSign word
      (decimal? rest).map fun digits =>
        if minus then -(numberOf 10 digits : Int) else (numberOf 10 digits : Int)
  match natural with
  | some value => if -0x8000000000000000 ≤ value ∧ value < 0x8000000000000000 then some value else none
  | none => none

/-- The least number that is too great for a double: half a step above the greatest one. -/
def doubleBound : Nat := 0x3FFFFFFFFFFFFF <<< 970

/-- Whether `mantissa · 10 ^ exponent` is too great for a double. A mantissa of `size` digits. -/
def overflows (mantissa size : Nat) (exponent : Int) : Bool :=
  if mantissa = 0 then false
  else if exponent < 0 then
    let shift := exponent.natAbs
    if size ≤ shift then false else doubleBound * Nat.pow 10 shift ≤ mantissa
  else if 400 < exponent then true
  else doubleBound ≤ mantissa * Nat.pow 10 exponent.natAbs

/-- The exponent that the end of a word spells behind its `e`. -/
def exponent? (word : List Char) : Option Int :=
  let (minus, rest) := cutSign word
  (ungroup? 10 false rest).map fun digits =>
    if minus then -(numberOf 10 digits : Int) else (numberOf 10 digits : Int)

/-- Cut a word before the first character of which `stop` holds. -/
def cutBefore (stop : Char → Bool) (word : List Char) : List Char × List Char :=
  (word.takeWhile (!stop ·), word.dropWhile (!stop ·))

/-- Whether a character opens an exponent. -/
def opensExponent (c : Char) : Bool :=
  c == 'e' || c == 'E'

/-- Whether a word spells a number with a fraction or an exponent, or one of the special ones. -/
def isFloat (word : List Char) : Bool :=
  let (minus, unsigned) := cutSign word
  if unsigned = ['i', 'n', 'f'] ∨ unsigned = ['n', 'a', 'n'] then true
  else
    let (whole, rest) := cutBefore (fun c => c == '.' || opensExponent c) unsigned
    let fractionAndExponent : Option (List Nat × Int) :=
      match rest with
      | '.' :: rest =>
        let (fraction, rest) := cutBefore opensExponent rest
        match ungroup? 10 false fraction, rest with
        | some digits, [] => some (digits, 0)
        | some digits, _ :: rest => (exponent? rest).map fun exponent => (digits, exponent)
        | none, _ => none
      | _ :: rest => (exponent? rest).map fun exponent => ([], exponent)
      | [] => none
    match decimal? whole, fractionAndExponent with
    | some whole, some (fraction, exponent) =>
      let digits := whole ++ fraction
      minus || !overflows (numberOf 10 digits) digits.length (exponent - fraction.length)
    | _, _ => false

/-- Read exactly `count` digits. -/
def readDigits? : Nat → List Char → Option (Nat × List Char)
  | 0, word => some (0, word)
  | _ + 1, [] => none
  | count + 1, c :: rest =>
    match Text.digitValue? 10 c.toNat, readDigits? count rest with
    | some digit, some (value, rest) => some (digit * Nat.pow 10 count + value, rest)
    | _, _ => none

/-- Pass over a day of the calendar. -/
def skipDate? (word : List Char) : Option (List Char) := do
  let (year, word) ← readDigits? 4 word
  let (month, word) ← readDigits? 2 (← Text.readChar? '-' word)
  let (day, word) ← readDigits? 2 (← Text.readChar? '-' word)
  if 1 ≤ day ∧ day ≤ Calendar.daysInMonth year month then return word else none

/-- Pass over the fraction of a second, if there is one. -/
def skipFraction (word : List Char) : List Char :=
  match word with
  | '.' :: c :: rest =>
    if c.isDigit then rest.dropWhile Char.isDigit else word
  | _ => word

/-- Pass over a time of day. A minute may have a leap second. -/
def skipTime? (word : List Char) : Option (List Char) := do
  let (hour, word) ← readDigits? 2 word
  let (minute, word) ← readDigits? 2 (← Text.readChar? ':' word)
  let (second, word) ← readDigits? 2 (← Text.readChar? ':' word)
  if hour ≤ 23 ∧ minute ≤ 59 ∧ second ≤ 60 then return skipFraction word else none

/-- Whether a word is an offset from universal time, or empty. -/
def isOffset : List Char → Bool
  | [] => true
  | ['Z'] => true
  | ['z'] => true
  | sign :: rest =>
    (sign == '+' || sign == '-') &&
      (do
        let (hour, rest) ← readDigits? 2 rest
        let (minute, rest) ← readDigits? 2 (← Text.readChar? ':' rest)
        return hour ≤ 23 && minute ≤ 59 && rest.isEmpty).getD false

/-- Whether a word is a time of day, with an offset or without. -/
def isTimeWithOffset (word : List Char) : Bool :=
  ((skipTime? word).map isOffset).getD false

/-- Whether a word is a day. -/
def isDate (word : List Char) : Bool :=
  skipDate? word == some []

/-- Whether a word is a time of day, or a day with a time of day. -/
def isTime (word : List Char) : Bool :=
  skipTime? word == some [] ||
    match skipDate? word with
    | some (delimiter :: rest) => (delimiter == 'T' || delimiter == 't') && isTimeWithOffset rest
    | _ => false

/-- Read a number, a date or a time. A space may stand between a date and a time. -/
def readNumber? (text : List Char) : Option (Node × List Char) :=
  let word := text.takeWhile isWordChar
  let rest := text.drop word.length
  if isDate word then
    match rest with
    | ' ' :: more =>
      let time := more.takeWhile isWordChar
      if time.isEmpty then some (.dateTime (String.ofList word), rest)
      else if isTimeWithOffset time then
        some (.dateTime (String.ofList (word ++ ' ' :: time)), more.drop time.length)
      else none
    | _ => some (.dateTime (String.ofList word), rest)
  else if isTime word then some (.dateTime (String.ofList word), rest)
  else if isFloat word then some (.float (String.ofList word), rest)
  else (integer? word).map fun value => (.integer value, rest)

end PatternRouter.Toml
