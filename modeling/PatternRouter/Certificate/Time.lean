import PatternRouter.Calendar
import PatternRouter.Certificate.Der

/-!
# Times in certificates

A time is a UTCTime with two digits for the year or a GeneralizedTime with four. Both must name a
day of the calendar. Of the former a year from 50 on lies in the twentieth century; it may leave out
the seconds and may state an offset. The latter states its seconds, may state a fraction of them, and
ends in `Z`.
-/

namespace PatternRouter.Certificate

/-- The number that two decimal digits spell. -/
def twoDigits? (high low : UInt8) : Option Nat :=
  let h := high.toNat
  let l := low.toNat
  if 0x30 ≤ h ∧ h ≤ 0x39 ∧ 0x30 ≤ l ∧ l ≤ 0x39 then some ((h - 0x30) * 10 + (l - 0x30)) else none

/-- Cut off two decimal digits and read them. -/
def takeTwo? : List UInt8 → Option (Nat × List UInt8)
  | high :: low :: rest => (twoDigits? high low).map (·, rest)
  | _ => none

/-- Whether a day is in the calendar and a time of day is on the clock. -/
def isMoment (year month day hour minute second : Nat) : Bool :=
  1 ≤ day && day ≤ Calendar.daysInMonth year month && hour ≤ 23 && minute ≤ 59 && second ≤ 59

/-- Whether a UTCTime may end so: `Z`, or a sign, hours and minutes. -/
def isZone : List UInt8 → Bool
  | [0x5A] => true
  | sign :: h1 :: h2 :: m1 :: m2 :: rest =>
    rest.isEmpty && (sign == 0x2B || sign == 0x2D) &&
      match twoDigits? h1 h2, twoDigits? m1 m2 with
      | some hours, some minutes => hours ≤ 25 && minutes ≤ 59
      | _, _ => false
  | _ => false

/-- Whether a GeneralizedTime may end so: `Z`, or a point, at most three digits and `Z`. -/
def isZuluEnd : List UInt8 → Bool
  | [0x5A] => true
  | 0x2E :: rest =>
    let digits := rest.takeWhile fun b => 0x30 ≤ b && b ≤ 0x39
    digits.length ≤ 3 && rest.drop digits.length == [0x5A]
  | _ => false

/-- Whether the content of a UTCTime is a time. -/
def isUtcTime (content : List UInt8) : Bool :=
  (do
    let (year, rest) ← takeTwo? content
    let (month, rest) ← takeTwo? rest
    let (day, rest) ← takeTwo? rest
    let (hour, rest) ← takeTwo? rest
    let (minute, rest) ← takeTwo? rest
    let (second, rest) := (takeTwo? rest).getD (0, rest)
    let year := if 50 ≤ year then 1900 + year else 2000 + year
    return isMoment year month day hour minute second && isZone rest).getD false

/-- Whether the content of a GeneralizedTime is a time. -/
def isGeneralizedTime (content : List UInt8) : Bool :=
  (do
    let (century, rest) ← takeTwo? content
    let (year, rest) ← takeTwo? rest
    let (month, rest) ← takeTwo? rest
    let (day, rest) ← takeTwo? rest
    let (hour, rest) ← takeTwo? rest
    let (minute, rest) ← takeTwo? rest
    let (second, rest) ← takeTwo? rest
    return isMoment (century * 100 + year) month day hour minute second && isZuluEnd rest).getD false

/-- Read a time and give the bytes behind it. -/
def skipTime? (bytes : List UInt8) : Option (List UInt8) :=
  match Der.read? bytes with
  | some (element, rest) =>
    if element.tag = Der.tagUtcTime ∧ isUtcTime element.content then some rest
    else if element.tag = Der.tagGeneralizedTime ∧ isGeneralizedTime element.content then some rest
    else none
  | none => none

end PatternRouter.Certificate
