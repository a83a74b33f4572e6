import CppTemplates.Toml.Number

/-!
# TOML dates and times

A date has to exist in the Gregorian calendar. A minute may have a leap second.
-/

namespace CppTemplates.Toml

open Reader

/-- Whether a year has a 29th of February. -/
def isLeapYear (year : Nat) : Bool :=
  year % 4 == 0 && (year % 100 != 0 || year % 400 == 0)

/-- The number of days of a month. -/
def daysInMonth (year month : Nat) : Nat :=
  if month = 2 then if isLeapYear year then 29 else 28
  else if month = 4 ∨ month = 6 ∨ month = 9 ∨ month = 11 then 30
  else 31

def twoDigits : Reader Nat := do
  let tens ← satisfying isDecimal
  let ones ← satisfying isDecimal
  return digitsValue 10 [tens, ones]

def date : Reader Date := do
  let century ← twoDigits
  let year := century * 100 + (← twoDigits)
  char '-'
  let month ← twoDigits
  guard (1 ≤ month ∧ month ≤ 12)
  char '-'
  let day ← twoDigits
  guard (1 ≤ day ∧ day ≤ daysInMonth year month)
  return { year, month, day }

def hourAndMinute : Reader (Nat × Nat) := do
  let hour ← twoDigits
  guard (hour ≤ 23)
  char ':'
  let minute ← twoDigits
  guard (minute ≤ 59)
  return (hour, minute)

def time : Reader Time := do
  let (hour, minute) ← hourAndMinute
  char ':'
  let second ← twoDigits
  guard (second ≤ 60)
  let fraction ← optional do
    char '.'
    let first ← satisfying isDecimal
    return first :: (← takeWhile isDecimal)
  return { hour, minute, second, fraction := fraction.getD [] }

/-- The distance from universal time in minutes. -/
def timeOffset : Reader Int :=
  (do let _ ← satisfying fun c => c == 'Z' || c == 'z'; return 0) <|>
  (do
    let mark ← satisfying fun c => c == '+' || c == '-'
    let (hour, minute) ← hourAndMinute
    let minutes : Int := hour * 60 + minute
    return if mark == '-' then -minutes else minutes)

/-- A date, a date with a time of day, or a time of day. Only a date with a time has an offset. -/
def dateTime : Reader DateTime :=
  (do
    let date ← date
    let rest ← optional do
      let _ ← satisfying fun c => c == 'T' || c == 't' || c == ' '
      let time ← time
      return (time, ← optional timeOffset)
    return { date := some date, time := rest.map (·.1), offset := rest.bind (·.2) }) <|>
  (do return { date := none, time := some (← time), offset := none })

end CppTemplates.Toml
