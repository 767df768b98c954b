import PostQuery.Number.Digits

/-!
# Dates and times of day

Calendar dates of the years 1 to 9999 and times of day to the microsecond. Two texts are made of
them. The ISO text pads the year to four digits and shows microseconds that are not zero. The
stored text, the one put into query arguments, leaves the year unpadded and drops the
microseconds.
-/

namespace PostQuery

/-- A date of the proleptic Gregorian calendar. -/
structure Date where
  year : Nat
  month : Nat
  day : Nat
  deriving DecidableEq, Inhabited

/-- A time of day. -/
structure Clock where
  hour : Nat
  minute : Nat
  second : Nat
  microsecond : Nat
  deriving DecidableEq, Inhabited

/-- Why fields denote no date or no time of day. -/
inductive CalendarFault where
  | year (n : Nat)
  | month
  | day
  | hour
  | minute
  | second
  deriving DecidableEq

namespace CalendarFault

/-- What is reported for fields out of range. -/
def message : CalendarFault → String
  | .year n => "year " ++ Number.intText n ++ " is out of range"
  | .month => "month must be in 1..12"
  | .day => "day is out of range for month"
  | .hour => "hour must be in 0..23"
  | .minute => "minute must be in 0..59"
  | .second => "second must be in 0..59"

end CalendarFault

/-- A number in decimal, padded with zeros to a width. -/
def padded (width n : Nat) : String :=
  let ds := Number.digits n
  String.ofList (List.replicate (width - ds.length) '0' ++ ds)

/-- A number in decimal. -/
def unpadded (n : Nat) : String := String.ofList (Number.digits n)

namespace Date

/-- The year has a twenty-ninth of February. -/
def isLeap (year : Nat) : Bool := year % 4 == 0 && (year % 100 != 0 || year % 400 == 0)

/-- How many days a month has. -/
def monthLength (year month : Nat) : Nat :=
  if month = 2 then (if isLeap year then 29 else 28)
  else if month = 4 || month = 6 || month = 9 || month = 11 then 30
  else 31

/-- The date with the given fields, looked at from the year down. -/
def make (year month day : Nat) : Except CalendarFault Date :=
  if year < 1 || 9999 < year then .error (.year year)
  else if month < 1 || 12 < month then .error .month
  else if day < 1 || monthLength year month < day then .error .day
  else .ok ⟨year, month, day⟩

/-- The ISO text, ten characters long. -/
def isoText (d : Date) : String :=
  padded 4 d.year ++ "-" ++ padded 2 d.month ++ "-" ++ padded 2 d.day

/-- The stored text; the year has no leading zeros. -/
def storedText (d : Date) : String :=
  unpadded d.year ++ "-" ++ padded 2 d.month ++ "-" ++ padded 2 d.day

end Date

namespace Clock

/-- The time of day with the given fields, looked at from the hour down. -/
def make (hour minute second microsecond : Nat) : Except CalendarFault Clock :=
  if 23 < hour then .error .hour
  else if 59 < minute then .error .minute
  else if 59 < second then .error .second
  else .ok ⟨hour, minute, second, microsecond⟩

/-- Hours, minutes and seconds of two digits each. -/
def storedText (t : Clock) : String :=
  padded 2 t.hour ++ ":" ++ padded 2 t.minute ++ ":" ++ padded 2 t.second

/-- The ISO text: the stored one, with microseconds unless they are zero. -/
def isoText (t : Clock) : String :=
  t.storedText ++ (if t.microsecond = 0 then "" else "." ++ padded 6 t.microsecond)

/-- The fields that are written out: hour and minute always, seconds and microseconds up to the
last one that is not zero. -/
def shownFields (t : Clock) : List Nat :=
  [t.hour, t.minute] ++
    if t.microsecond ≠ 0 then [t.second, t.microsecond]
    else if t.second ≠ 0 then [t.second] else []

end Clock

/-- A duration of whole minutes by its days, rounded down, and the seconds beyond them. -/
def durationText (minutes : Int) : String :=
  let days := minutes.fdiv (24 * 60)
  let seconds := minutes.fmod (24 * 60) * 60
  let parts := (if days = 0 then [] else ["days=" ++ Number.intText days])
    ++ (if seconds = 0 then [] else ["seconds=" ++ Number.intText seconds])
  "datetime.timedelta(" ++ (if parts.isEmpty then "0" else String.intercalate ", " parts) ++ ")"

/-- An offset from universal time, in minutes. -/
abbrev Offset := Int

namespace Offset

/-- The ISO text: sign, hours and minutes. -/
def isoText (o : Offset) : String :=
  (if o < 0 then "-" else "+") ++ padded 2 (o.natAbs / 60) ++ ":" ++ padded 2 (o.natAbs % 60)

/-- The offset as it is written out. -/
def shown (o : Offset) : String :=
  if o = 0 then "datetime.timezone.utc" else "datetime.timezone(" ++ durationText o ++ ")"

end Offset

namespace Date

/-- How many days lie before a year, from the year 1 on. -/
def daysBefore (year : Nat) : Nat :=
  let y := year - 1
  y * 365 + y / 4 - y / 100 + y / 400

/-- The number of a date, the first day of the year 1 being number one. -/
def ordinal (d : Date) : Nat :=
  let months := (List.range (d.month - 1)).map fun m => monthLength d.year (m + 1)
  daysBefore d.year + months.foldr (· + ·) 0 + d.day

end Date

/-- The minutes, seconds and microseconds from a fixed point to a date and time of day in universal
time. -/
def instant (d : Date) (t : Clock) (o : Offset) : List Int :=
  [d.ordinal * (24 * 60) + t.hour * 60 + t.minute - o, t.second, t.microsecond]

end PostQuery
