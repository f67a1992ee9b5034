/-!
# Calendar texts of instants

An instant is a count of milliseconds since the start of 1970.  Its text gives the proleptic
Gregorian date and the time of day in UTC.
-/

namespace DocQuery

namespace Calendar

/-- The year, month and day that lie a number of days after the start of 1970.  The computation
    counts years from March, in eras of 400 years. -/
def dateOfDays (days : Int) : Int × Nat × Nat :=
  let shifted := days + 719468
  let era := shifted.fdiv 146097
  let dayOfEra := (shifted - era * 146097).toNat
  let yearOfEra := (dayOfEra - dayOfEra / 1460 + dayOfEra / 36524 - dayOfEra / 146096) / 365
  let dayOfYear := dayOfEra - (365 * yearOfEra + yearOfEra / 4 - yearOfEra / 100)
  let marchMonth := (5 * dayOfYear + 2) / 153
  let day := dayOfYear - (153 * marchMonth + 2) / 5 + 1
  let month := if marchMonth < 10 then marchMonth + 3 else marchMonth - 9
  (yearOfEra + era * 400 + (if month ≤ 2 then 1 else 0), month, day)

/-- The number of days from the start of 1970 to a date. -/
def daysOfDate (year : Int) (month day : Nat) : Int :=
  let year := if month ≤ 2 then year - 1 else year
  let era := year.fdiv 400
  let yearOfEra := year - era * 400
  let marchMonth : Int := if month > 2 then (month : Int) - 3 else (month : Int) + 9
  let dayOfYear := (153 * marchMonth + 2) / 5 + day - 1
  let dayOfEra := yearOfEra * 365 + yearOfEra / 4 - yearOfEra / 100 + dayOfYear
  era * 146097 + dayOfEra - 719468

/-- Whether a year has a 29th of February. -/
def isLeapYear (year : Int) : Bool :=
  year % 4 == 0 && (year % 100 != 0 || year % 400 == 0)

/-- The number of days of a month. -/
def daysOfMonth (year : Int) (month : Nat) : Nat :=
  if month = 2 then if isLeapYear year then 29 else 28
  else if month = 4 ∨ month = 6 ∨ month = 9 ∨ month = 11 then 30
  else 31

/-- A number with zeros in front up to a width. -/
def padded (width n : Nat) : String :=
  let digits := toString n
  String.ofList (List.replicate (width - digits.length) '0') ++ digits

/-- A year with at least four digits; outside `0 … 9999` it has a sign. -/
def yearText (year : Int) : String :=
  let sign := if year < 0 then "-" else if 9999 < year then "+" else ""
  sign ++ padded 4 year.natAbs

/-- The digits of a fraction of a second without zeros at the end, but at least one. -/
def fractionText (millis : Nat) : String :=
  if millis % 100 = 0 then padded 1 (millis / 100)
  else if millis % 10 = 0 then padded 2 (millis / 10)
  else padded 3 millis

/-- The years that a calendar text can show. -/
def firstYear : Int := -999999

/-- The last year that a calendar text can show. -/
def lastYear : Int := 999999

/-- The text of an instant, such as `1970-01-01 0:00:00.005 +00:00:00`; an instant outside the years
    that can be shown is written as its milliseconds. -/
def text (millis : Int) : String :=
  let days := millis.fdiv 86400000
  let rest := (millis - days * 86400000).toNat
  let (year, month, day) := dateOfDays days
  if firstYear ≤ year ∧ year ≤ lastYear then
    yearText year ++ "-" ++ padded 2 month ++ "-" ++ padded 2 day ++ " " ++
      toString (rest / 3600000) ++ ":" ++ padded 2 (rest / 60000 % 60) ++ ":" ++
      padded 2 (rest / 1000 % 60) ++ "." ++ fractionText (rest % 1000) ++ " +00:00:00"
  else toString millis

end Calendar

end DocQuery
