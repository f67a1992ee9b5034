import DocQuery.Calendar
import DocQuery.Text.Number

/-!
# Reading calendar texts

An instant is read from a date, a time of day and an offset, such as `2024-02-29T12:00:00.5Z`.  Any
one ASCII character may stand between date and time.  A sixtieth second is accepted at the end of a
month in UTC and counts as the last moment of the second before it.
-/

namespace DocQuery

namespace Calendar

/-- The number of the first `width` characters, which have to be digits, and what follows them. -/
def fixed? (width : Nat) (cs : List Char) : Option (Nat × List Char) :=
  let digits := cs.take width
  if digits.length = width then
    (Text.naturalOfDigits? digits).map fun n => (n, cs.drop width)
  else none

/-- What follows an expected first character. -/
def expect? (mark : Char) : List Char → Option (List Char)
  | c :: rest => if c = mark then some rest else none
  | [] => none

/-- What follows one ASCII character. -/
def separator? : List Char → Option (List Char)
  | c :: rest => if c.toNat < 128 then some rest else none
  | [] => none

/-- The nanoseconds of the digits of a fraction of a second; digits past the ninth do not count. -/
def nanosOfDigits (digits : List Char) : Nat :=
  let kept := digits.take 9
  (kept ++ List.replicate (9 - kept.length) '0').foldl
    (fun value c => 10 * value + (c.toNat - '0'.toNat)) 0

/-- The nanoseconds of an optional fraction, and what follows it. -/
def fraction? : List Char → Option (Nat × List Char)
  | '.' :: rest =>
      let (digits, rest) := rest.span Char.isDigit
      if digits.isEmpty then none else some (nanosOfDigits digits, rest)
  | cs => some (0, cs)

/-- The offset from UTC in minutes that a text stands for. -/
def offset? : List Char → Option Int
  | [] => none
  | mark :: rest =>
      if mark = 'Z' ∨ mark = 'z' then if rest.isEmpty then some 0 else none
      else if mark = '+' ∨ mark = '-' then do
        let (hours, rest) ← fixed? 2 rest
        let rest ← expect? ':' rest
        let (minutes, rest) ← fixed? 2 rest
        if hours ≤ 23 ∧ minutes ≤ 59 ∧ rest.isEmpty then
          let offset : Int := hours * 60 + minutes
          some (if mark = '-' then -offset else offset)
        else none
      else none

/-- The last second of a day. -/
def lastSecond : Int := 86399

/-- Whether a second in UTC is the last one of a month. -/
def endsMonth (second : Int) : Bool :=
  let (year, month, day) := dateOfDays (second.fdiv 86400)
  second.fmod 86400 == lastSecond && day == daysOfMonth year month

/-- The instant in milliseconds that a text stands for.  Fractions of a millisecond are cut off. -/
def millisOfString? (s : String) : Option Int := do
  let cs := s.toList
  let (year, cs) ← fixed? 4 cs
  let cs ← expect? '-' cs
  let (month, cs) ← fixed? 2 cs
  let cs ← expect? '-' cs
  let (day, cs) ← fixed? 2 cs
  let cs ← separator? cs
  let (hour, cs) ← fixed? 2 cs
  let cs ← expect? ':' cs
  let (minute, cs) ← fixed? 2 cs
  let cs ← expect? ':' cs
  let (second, cs) ← fixed? 2 cs
  let (nanos, cs) ← fraction? cs
  let offset ← offset? cs
  let isLeap := second = 60
  let (second, nanos) := if isLeap then (59, 999999999) else (second, nanos)
  if 1 ≤ month ∧ month ≤ 12 ∧ 1 ≤ day ∧ day ≤ daysOfMonth year month ∧
      hour ≤ 23 ∧ minute ≤ 59 ∧ second ≤ 59 then
    let total : Int := daysOfDate year month day * 86400 + hour * 3600 + minute * 60 + second -
      offset * 60
    if isLeap && !endsMonth total then none
    else some ((total * 1000000000 + nanos).tdiv 1000000)
  else none

end Calendar

end DocQuery
