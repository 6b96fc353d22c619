import TradeNotes.Text.Basic

namespace TradeNotes.Log

/-- A day of the common calendar. -/
structure Date where
  year : Nat
  month : Nat
  day : Nat
  deriving DecidableEq

/-- The date of a day that is counted from the first of January 1970. Eras of 400 years
    have 146097 days each, and a year is taken to begin in March, so that the leap day is
    its last. -/
def Date.ofDays (days : Nat) : Date :=
  let shifted := days + 719468
  let dayOfEra := shifted % 146097
  let yearOfEra := (dayOfEra - dayOfEra / 1460 + dayOfEra / 36524 - dayOfEra / 146096) / 365
  let dayOfYear := dayOfEra - (365 * yearOfEra + yearOfEra / 4 - yearOfEra / 100)
  let month := (5 * dayOfYear + 2) / 153
  { year := shifted / 146097 * 400 + yearOfEra + (if month < 10 then 0 else 1)
    month := if month < 10 then month + 3 else month - 9
    day := dayOfYear - (153 * month + 2) / 5 + 1 }

/-- A number with so many digits at least. -/
def padded (width n : Nat) : Text :=
  List.leftpad width '0' (Nat.toDigits 10 n)

/-- A time in words of the log: the date and the time of day in universal time, to the
    microsecond. It is given in microseconds since the beginning of 1970. -/
def timeText (microseconds : Nat) : Text :=
  let seconds := microseconds / 1000000
  let date := Date.ofDays (seconds / 86400)
  padded 4 date.year ++ ['-'] ++ padded 2 date.month ++ ['-'] ++ padded 2 date.day ++ ['T']
    ++ padded 2 (seconds / 3600 % 24) ++ [':'] ++ padded 2 (seconds / 60 % 60) ++ [':']
    ++ padded 2 (seconds % 60) ++ ['.'] ++ padded 6 (microseconds % 1000000) ++ ['Z']

example : timeText 1709164800000001 = "2024-02-29T00:00:00.000001Z".toList := by decide +kernel

end TradeNotes.Log
