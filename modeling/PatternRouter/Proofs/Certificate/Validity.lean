import Mathlib.Data.List.Basic
import Mathlib.Tactic.SplitIfs
import PatternRouter.Certificate.X509
import PatternRouter.Proofs.Certificate.Der

/-!
# Times that are written can be read

A time in a certificate is a UTCTime or a GeneralizedTime whose text names a moment. The reader
takes all texts that certificates should have, and some others: every moment from 1950 to 2049 can
be written as a UTCTime with seconds and a `Z`, and every moment up to the year 9999 as a
GeneralizedTime.

The module introduces:

* `Moment` — a day of the calendar and a time of day;
* `Time` — a time with a text that the reader takes, of which `Moment.utcTime` and
  `Moment.generalizedTime` are cases;
* `validityElement` — two times as they stand in a certificate.

The main statement is `skipValidity?_encode`.
-/

namespace PatternRouter.Certificate

open Der (Element encode)

/-! ## Times as they are written -/

/-- A time: the text of a UTCTime or of a GeneralizedTime. -/
inductive Time where
  | utc (text : List UInt8) (isTime : isUtcTime text = true)
  | generalized (text : List UInt8) (isTime : isGeneralizedTime text = true)

/-- A time as it is written. -/
def Time.element : Time → Element
  | utc text _ => .primitive Der.tagUtcTime text
  | generalized text _ => .primitive Der.tagGeneralizedTime text

/-- A validity as it is written. -/
def validityElement (notBefore notAfter : Time) : Element :=
  .sequence [notBefore.element, notAfter.element]

theorem skipTime?_encode {time : Time} (h : time.element.Fits) (rest : List UInt8) :
    skipTime? (encode time.element ++ rest) = some rest := by
  cases time with
  | utc text isTime =>
    have hlow : (Time.utc text isTime).element.tag < 31 := show Der.tagUtcTime < 31 by decide
    rw [skipTime?, Der.read?_encode hlow h]
    exact if_pos ⟨rfl, isTime⟩
  | generalized text isTime =>
    have hlow : (Time.generalized text isTime).element.tag < 31 :=
      show Der.tagGeneralizedTime < 31 by decide
    -- The tag of a UTCTime is looked for first.
    have hother : ¬ ((Time.generalized text isTime).element.tag = Der.tagUtcTime ∧
        isUtcTime (Time.generalized text isTime).element.content = true) :=
      fun hutc => absurd hutc.1 (show Der.tagGeneralizedTime ≠ Der.tagUtcTime by decide)
    rw [skipTime?, Der.read?_encode hlow h]
    exact (if_neg hother).trans (if_pos ⟨rfl, isTime⟩)

theorem skipValidity?_encode {notBefore notAfter : Time}
    (h : (validityElement notBefore notAfter).Fits) (rest : List UInt8) :
    skipValidity? (encode (validityElement notBefore notAfter) ++ rest) = some rest := by
  have hbefore : notBefore.element.Fits := h.of_mem rfl (by simp)
  have hafter : notAfter.element.Fits := h.of_mem rfl (by simp)
  rw [validityElement] at h ⊢
  simp only [skipValidity?, Der.expect?_holding (by decide) h, Option.bind_eq_bind,
    Option.bind_some, Element.content_holding, Der.encodeAll_cons, skipTime?_encode hbefore,
    skipTime?_encode hafter, Option.pure_def]

/-! ## Moments -/

/-- A number below 100 in two decimal digits. -/
def digits (n : Nat) : List UInt8 :=
  [UInt8.ofNat (0x30 + n / 10), UInt8.ofNat (0x30 + n % 10)]

theorem takeTwo?_digits {n : Nat} (h : n < 100) (rest : List UInt8) :
    takeTwo? (digits n ++ rest) = some (n, rest) := by
  have hhigh : (UInt8.ofNat (0x30 + n / 10)).toNat = 0x30 + n / 10 := by
    rw [UInt8.toNat_ofNat']
    omega
  have hlow : (UInt8.ofNat (0x30 + n % 10)).toNat = 0x30 + n % 10 := by
    rw [UInt8.toNat_ofNat']
    omega
  have hrange : 0x30 ≤ 0x30 + n / 10 ∧ 0x30 + n / 10 ≤ 0x39 ∧ 0x30 ≤ 0x30 + n % 10 ∧
      0x30 + n % 10 ≤ 0x39 := by
    omega
  have hvalue : (0x30 + n / 10 - 0x30) * 10 + (0x30 + n % 10 - 0x30) = n := by omega
  rw [digits, List.cons_append, List.singleton_append, takeTwo?, twoDigits?, hhigh, hlow,
    if_pos hrange, hvalue]
  rfl

/-- A day of the calendar and a time of day. -/
structure Moment where
  year : Nat
  month : Nat
  day : Nat
  hour : Nat
  minute : Nat
  second : Nat
  isMoment : isMoment year month day hour minute second = true

namespace Moment

variable (moment : Moment)

/-- What stands behind the year: month, day and time of day, and `Z`. -/
def tail : List UInt8 :=
  digits moment.month ++ (digits moment.day ++ (digits moment.hour ++ (digits moment.minute ++
    (digits moment.second ++ [0x5A]))))

theorem bounds : moment.month < 100 ∧ moment.day < 100 ∧ moment.hour < 100 ∧
    moment.minute < 100 ∧ moment.second < 100 := by
  have h := moment.isMoment
  simp only [Certificate.isMoment, Calendar.daysInMonth, List.mem_cons, List.not_mem_nil, or_false,
    Bool.and_eq_true, decide_eq_true_eq] at h
  split_ifs at h <;> omega

/-- A moment from 1950 to 2049 as a UTCTime. -/
theorem isUtcTime_digits (h : 1950 ≤ moment.year ∧ moment.year < 2050) :
    isUtcTime (digits (moment.year % 100) ++ moment.tail) = true := by
  obtain ⟨hmonth, hday, hhour, hminute, hsecond⟩ := moment.bounds
  -- Two digits tell the years of a hundred years apart, half of them in each century.
  have hyear : (if 50 ≤ moment.year % 100 then 1900 + moment.year % 100
      else 2000 + moment.year % 100) = moment.year := by
    split_ifs <;> omega
  simp only [isUtcTime, tail, takeTwo?_digits (Nat.mod_lt moment.year (by decide : 0 < 100)),
    takeTwo?_digits hmonth, takeTwo?_digits hday, takeTwo?_digits hhour, takeTwo?_digits hminute,
    takeTwo?_digits hsecond, Option.bind_eq_bind, Option.bind_some, Option.getD_some, hyear,
    moment.isMoment]
  rfl

/-- A moment as a GeneralizedTime. -/
theorem isGeneralizedTime_digits (h : moment.year < 10000) :
    isGeneralizedTime (digits (moment.year / 100) ++ (digits (moment.year % 100) ++ moment.tail)) =
      true := by
  obtain ⟨hmonth, hday, hhour, hminute, hsecond⟩ := moment.bounds
  have hcentury : moment.year / 100 < 100 := by omega
  have hyear : moment.year / 100 * 100 + moment.year % 100 = moment.year := by omega
  simp only [isGeneralizedTime, tail, takeTwo?_digits hcentury,
    takeTwo?_digits (Nat.mod_lt moment.year (by decide : 0 < 100)), takeTwo?_digits hmonth,
    takeTwo?_digits hday, takeTwo?_digits hhour, takeTwo?_digits hminute, takeTwo?_digits hsecond,
    Option.bind_eq_bind, Option.bind_some, hyear, moment.isMoment]
  rfl

/-- A moment as a certificate before 2050 states it. -/
def utcTime (h : 1950 ≤ moment.year ∧ moment.year < 2050) : Time :=
  .utc _ (moment.isUtcTime_digits h)

/-- A moment as a certificate from 2050 on states it. -/
def generalizedTime (h : moment.year < 10000) : Time :=
  .generalized _ (moment.isGeneralizedTime_digits h)

end Moment

end PatternRouter.Certificate
