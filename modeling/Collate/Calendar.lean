import Collate.Text.Numeral

/-!
# Calendar

Dates of the proleptic Gregorian calendar, times of day to the microsecond,
moments that join the two, and spans of time.

A moment may know its offset from universal time.  Two moments that know it are
compared as instants; two that do not, by what calendar and clock show.  A
moment that knows its offset and one that does not have nothing to compare.

Everything is written most significant part first.
-/

namespace Collate

/-! ## Dates -/

/-- A day of the calendar. -/
structure Date where
  year : Nat
  month : Nat
  day : Nat
  deriving DecidableEq

namespace Date

/-- A number in decimal digits, filled up with zeros to a width. -/
def padded (width n : Nat) : List Char :=
  let digits := (toString n).toList
  List.replicate (width - digits.length) '0' ++ digits

/-- Whether the year has a 29th of February. -/
def isLeap (year : Nat) : Bool := year % 4 == 0 && (year % 100 != 0 || year % 400 == 0)

/-- The days that the months before this one have in a common year. -/
def daysBeforeMonth (month : Nat) : Nat :=
  [0, 31, 59, 90, 120, 151, 181, 212, 243, 273, 304, 334].getD (month - 1) 334

/-- How many days lie before this one, the first day of the year 1 having none. -/
def ordinal (date : Date) : Nat :=
  let years := date.year - 1
  years * 365 + years / 4 - years / 100 + years / 400 + daysBeforeMonth date.month +
    (if 2 < date.month && isLeap date.year then 1 else 0) + (date.day - 1)

/-- Whether the first date comes before the second. -/
def before (a b : Date) : Bool := a.ordinal < b.ordinal

/-- The date as `2024-02-29`. -/
def text (date : Date) : String :=
  String.ofList
    (padded 4 date.year ++ '-' :: padded 2 date.month ++ '-' :: padded 2 date.day)

end Date

/-! ## Times of day -/

/-- A time of day. -/
structure ClockTime where
  hour : Nat
  minute : Nat
  second : Nat
  microsecond : Nat
  deriving DecidableEq

namespace ClockTime

/-- The microseconds since midnight. -/
def microseconds (time : ClockTime) : Nat :=
  ((time.hour * 60 + time.minute) * 60 + time.second) * 1000000 + time.microsecond

/-- Whether the first time comes before the second. -/
def before (a b : ClockTime) : Bool := a.microseconds < b.microseconds

/-- The time as `12:00:00`, with six more digits if it is not a whole second. -/
def text (time : ClockTime) : String :=
  String.ofList
    (Date.padded 2 time.hour ++ ':' :: Date.padded 2 time.minute ++
      ':' :: Date.padded 2 time.second ++
      if time.microsecond = 0 then [] else '.' :: Date.padded 6 time.microsecond)

end ClockTime

/-! ## Spans -/

/-- A span of time in microseconds. -/
structure Span where
  microseconds : Int
  deriving DecidableEq

namespace Span

/-- The microseconds of a day. -/
def dayLength : Int := 86400000000

/-- The span with these parts. -/
def ofParts (days seconds microseconds : Int) : Span :=
  ⟨days * dayLength + seconds * 1000000 + microseconds⟩

/-- The whole days of a span, rounded down. -/
def days (span : Span) : Int := span.microseconds.fdiv dayLength

/-- The whole seconds of a span beyond its days. -/
def seconds (span : Span) : Int := (span.microseconds.fmod dayLength).fdiv 1000000

/-- The microseconds of a span beyond its days and seconds. -/
def restMicroseconds (span : Span) : Int := span.microseconds.fmod 1000000

end Span

/-! ## Moments -/

/-- A time of a day, perhaps with its offset from universal time in seconds. -/
structure Moment where
  date : Date
  time : ClockTime
  offset : Option Int
  deriving DecidableEq

namespace Moment

/-- The microseconds that calendar and clock show. -/
def shownMicroseconds (moment : Moment) : Int :=
  moment.date.ordinal * Span.dayLength + moment.time.microseconds

/-- The microseconds in universal time, if the offset is known. -/
def instant? (moment : Moment) : Option Int :=
  moment.offset.map fun offset => moment.shownMicroseconds - offset * 1000000

/-- The readings of two moments on one common scale, if they have one. -/
def readings? (a b : Moment) : Option (Int × Int) :=
  match a.instant?, b.instant? with
  | some x, some y => some (x, y)
  | none, none => some (a.shownMicroseconds, b.shownMicroseconds)
  | _, _ => none

/-- Whether two moments are the same. -/
def same (a b : Moment) : Bool := (readings? a b).any fun (x, y) => x == y

/-- Whether the first moment comes before the second, if they compare. -/
def before? (a b : Moment) : Option Bool := (readings? a b).map fun (x, y) => x < y

/-- An offset as `+02:00`, with seconds only if it has some. -/
def offsetText (offset : Int) : List Char :=
  let magnitude := offset.natAbs
  (if offset < 0 then '-' else '+') :: Date.padded 2 (magnitude / 3600) ++
    ':' :: Date.padded 2 (magnitude / 60 % 60) ++
    if magnitude % 60 = 0 then [] else ':' :: Date.padded 2 (magnitude % 60)

/-- The moment as `2024-02-29T12:00:00+02:00`. -/
def text (moment : Moment) : String :=
  moment.date.text ++ "T" ++ moment.time.text ++
    String.ofList ((moment.offset.map offsetText).getD [])

end Moment

/-! ## Reading -/

/-- The numbers of a text of digit groups between separators. -/
def digitGroups? (separator : Char) (text : List Char) : Option (List Nat) :=
  ((String.ofList text).splitOn (String.singleton separator)).mapM fun group =>
    (Text.digitValues? group.toList).map Text.ofDigits

/-- A text such as `2024-02-29` as a date. -/
def Date.ofText? (text : List Char) : Option Date :=
  match digitGroups? '-' text with
  | some [year, month, day] => some ⟨year, month, day⟩
  | _ => none

/-- The fraction of a second that these digits after the point write. -/
def microsecondsOf? (digits : List Char) : Option Nat :=
  let six := (digits ++ List.replicate 6 '0').take 6
  (Text.digitValues? six).map Text.ofDigits

/-- A text such as `12:00` or `12:00:00.5` as a time of day. -/
def ClockTime.ofText? (text : List Char) : Option ClockTime := do
  let whole := text.takeWhile (· ≠ '.')
  let fraction := (text.dropWhile (· ≠ '.')).drop 1
  let microsecond ← if fraction = [] then some 0 else microsecondsOf? fraction
  match ← digitGroups? ':' whole with
  | [hour] => some ⟨hour, 0, 0, microsecond⟩
  | [hour, minute] => some ⟨hour, minute, 0, microsecond⟩
  | [hour, minute, second] => some ⟨hour, minute, second, microsecond⟩
  | _ => none

/-- A text such as `02:00` as a number of seconds. -/
def Moment.secondsOf? (text : List Char) : Option Int :=
  (ClockTime.ofText? text).map fun time => (time.microseconds / 1000000 : Nat)

/-- A text such as `2024-02-29T12:00:00+02:00` as a moment. -/
def Moment.ofText? (text : List Char) : Option Moment := do
  let date ← Date.ofText? (text.take 10)
  let rest := text.drop 11
  let clock := rest.takeWhile fun c => c ≠ '+' ∧ c ≠ '-' ∧ c ≠ 'Z'
  let time ← if clock = [] then some ⟨0, 0, 0, 0⟩ else ClockTime.ofText? clock
  match rest.drop clock.length with
  | [] => some ⟨date, time, none⟩
  | 'Z' :: _ => some ⟨date, time, some 0⟩
  | sign :: offset =>
    let seconds ← Moment.secondsOf? offset
    some ⟨date, time, some (if sign = '-' then -seconds else seconds)⟩

end Collate
