import EnergyMeter.Text.Hex
import EnergyMeter.Toml.Value

/-!
# TOML dates and times

A date has to exist in the calendar. A time may have a fraction of a second and
the sixtieth second; behind a date it may have an offset from universal time.
-/

namespace EnergyMeter.Toml

open Text Scan

/-- Takes a given number of decimal digits and gives their value. -/
def fixedNumber (digits : Nat) : Reader Nat := do
  return valueIn 10 (← count digits (oneOf Char.isDigit))

/-- Takes two digits whose value lies between two numbers. -/
def twoDigits (low high : Nat) : Reader Nat := do
  let n ← fixedNumber 2
  if low ≤ n && n ≤ high then return n else failure

/-- How many days a month has. -/
def daysIn (year month : Nat) : Nat :=
  if month = 2 then
    if year % 4 = 0 && (year % 100 ≠ 0 || year % 400 = 0) then 29 else 28
  else if month = 4 || month = 6 || month = 9 || month = 11 then 30
  else 31

/-- Takes a date. -/
def date : Reader Unit := do
  let year ← fixedNumber 4
  char '-'
  let month ← twoDigits 1 12
  char '-'
  let _ ← twoDigits 1 (daysIn year month)

/-- Takes a time of the day. -/
def time : Reader Unit := do
  let _ ← twoDigits 0 23
  char ':'
  let _ ← twoDigits 0 59
  char ':'
  let _ ← twoDigits 0 60
  let _ ← option (do char '.'; runSome Char.isDigit)

/-- Takes an offset from universal time. -/
def offset : Reader Unit :=
  (do let _ ← oneOf fun c => c = 'Z' || c = 'z')
    <|> (do
      let _ ← oneOf fun c => c = '+' || c = '-'
      let _ ← twoDigits 0 23
      char ':'
      let _ ← twoDigits 0 59)

/-- Takes the time behind a date. -/
def timeBehindDate : Reader Unit := do
  let _ ← oneOf fun c => c = 'T' || c = 't' || c = ' '
  time
  let _ ← option offset

/-- Takes a date, a time, or both. -/
def moment : Reader Value := do
  let start ← get
  (do date; let _ ← option timeBehindDate) <|> time
  let rest ← get
  return .datetime (String.ofList (start.take (start.length - rest.length)))

end EnergyMeter.Toml
