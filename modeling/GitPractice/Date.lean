import GitPractice.Text.Number
import GitPractice.Text.Join

/-!
# Commit dates

`gitDate` writes a time in milliseconds since 1970 as git writes author dates, in UTC:
`Tue Nov 14 22:13:20 2023 +0000`. Days are turned into a date of the Gregorian calendar by counting
400-year cycles from the first of March of the year 0, so that a leap day ends its year.
-/

namespace GitPractice

open GitPractice.Text (padded)

structure Date where
  year : Nat
  month : Nat
  day : Nat
  deriving DecidableEq, Repr

namespace Date

/-- The date `days` days after the first of January 1970. -/
def ofDays (days : Nat) : Date :=
  let z := days + 719468
  let cycle := z / 146097
  let inCycle := z % 146097
  let yearInCycle := (inCycle - inCycle / 1460 + inCycle / 36524 - inCycle / 146096) / 365
  let dayOfYear := inCycle - (365 * yearInCycle + yearInCycle / 4 - yearInCycle / 100)
  let fromMarch := (5 * dayOfYear + 2) / 153
  let month := if fromMarch < 10 then fromMarch + 3 else fromMarch - 9
  let year := cycle * 400 + yearInCycle + if month ≤ 2 then 1 else 0
  ⟨year, month, dayOfYear - (153 * fromMarch + 2) / 5 + 1⟩

def monthNames : List String :=
  ["Jan", "Feb", "Mar", "Apr", "May", "Jun", "Jul", "Aug", "Sep", "Oct", "Nov", "Dec"]

/-- The days of the week from the first of January 1970 on. -/
def weekdayNames : List String := ["Thu", "Fri", "Sat", "Sun", "Mon", "Tue", "Wed"]

def monthName (d : Date) : String := monthNames.getD (d.month - 1) ""

def weekdayName (days : Nat) : String := weekdayNames.getD (days % 7) ""

/-- Years have four digits; longer ones have a plus sign in front. -/
def yearText (year : Nat) : String :=
  if year < 10000 then padded 4 year else "+" ++ padded 4 year

end Date

/-- The last second that has a date, at the end of the year 262142. -/
def lastSecond : Nat := 8210266876799

/-- The time as git prints it; a time without a date is shown as the first moment of 1970. -/
def gitDate (ms : UInt64) : String :=
  let read := ms.toNat / 1000
  let seconds := if read ≤ lastSecond then read else 0
  let days := seconds / 86400
  let date := Date.ofDays days
  let time := seconds % 86400
  Date.weekdayName days ++ " " ++ date.monthName ++ " " ++ padded 2 date.day ++ " "
    ++ padded 2 (time / 3600) ++ ":" ++ padded 2 (time / 60 % 60) ++ ":" ++ padded 2 (time % 60)
    ++ " " ++ Date.yearText date.year ++ " +0000"

end GitPractice
