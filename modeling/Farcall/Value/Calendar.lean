import Farcall.Value

/-!
# The calendar

The days there are in the years 1 to 9999 of the proleptic Gregorian calendar, and the moments on
them.
-/

namespace Farcall

namespace Date

def isLeap (year : Nat) : Bool :=
  year % 4 == 0 && (year % 100 != 0 || year % 400 == 0)

def daysIn (year month : Nat) : Nat :=
  if month = 2 then if isLeap year then 29 else 28
  else if month = 4 ∨ month = 6 ∨ month = 9 ∨ month = 11 then 30
  else 31

def ofParts? (year month day : Nat) : Option Date :=
  if 1 ≤ year ∧ year ≤ 9999 ∧ 1 ≤ month ∧ month ≤ 12 ∧ 1 ≤ day ∧ day ≤ daysIn year month then
    some ⟨year, month, day⟩
  else none

end Date

/-- The moment at a time of a day. An offset from universal time is less than a day. -/
def Moment.ofParts? (date : Date) (hour minute second microsecond : Nat) (offset : Option Int) :
    Option Moment :=
  if hour < 24 ∧ minute < 60 ∧ second < 60 ∧ microsecond < 1000000 ∧
      (offset.getD 0).natAbs < 24 * 60 then
    some ⟨date, hour, minute, second, microsecond, offset⟩
  else none

end Farcall
