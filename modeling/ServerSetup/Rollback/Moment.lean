/-!
# Moments

A moment is a day of a year, a time of day, and an offset from universal time. The parts of an
offset have one sign.
-/

namespace ServerSetup

/-- A date, a time of day and an offset. -/
structure Moment where
  year : Int
  /-- The day of the year, from 1. -/
  day : Int
  hour : Int
  minute : Int
  second : Int
  nanosecond : Int
  offsetHours : Int
  offsetMinutes : Int
  offsetSeconds : Int
deriving DecidableEq

namespace Moment

/-- The first moment of 1970. -/
def epoch : Moment := ⟨1970, 1, 0, 0, 0, 0, 0, 0, 0⟩

/-- A leap year of the Gregorian calendar. -/
def isLeapYear (year : Int) : Bool := year % 4 == 0 && (year % 100 != 0 || year % 400 == 0)

/-- The number of days in a year. -/
def daysIn (year : Int) : Int := if isLeapYear year then 366 else 365

/-- A number with the sign of another one, unless that is zero. -/
def withSignOf (n lead : Int) : Int :=
  if 0 < lead then n.natAbs else if lead < 0 then -n.natAbs else n

/-- The numbers of a moment, in order. -/
def parts (m : Moment) : List Int :=
  [m.year, m.day, m.hour, m.minute, m.second, m.nanosecond, m.offsetHours, m.offsetMinutes,
    m.offsetSeconds]

/-- Whether every part is in its range. -/
def inRange (m : Moment) : Bool :=
  -9999 ≤ m.year && m.year ≤ 9999 && 1 ≤ m.day && m.day ≤ daysIn m.year &&
    0 ≤ m.hour && m.hour ≤ 23 && 0 ≤ m.minute && m.minute ≤ 59 &&
    0 ≤ m.second && m.second ≤ 59 && 0 ≤ m.nanosecond && m.nanosecond ≤ 999999999 &&
    m.offsetHours.natAbs ≤ 25 && m.offsetMinutes.natAbs ≤ 59 && m.offsetSeconds.natAbs ≤ 59

/-- Gives the parts of the offset the sign of the first one that is not zero. -/
def alignOffset (m : Moment) : Moment :=
  { m with
    offsetMinutes := withSignOf m.offsetMinutes m.offsetHours
    offsetSeconds := withSignOf m.offsetSeconds
      (if m.offsetHours = 0 then m.offsetMinutes else m.offsetHours) }

/-- The moment with given numbers. -/
def ofParts? : List Int → Option Moment
  | [year, day, hour, minute, second, nanosecond, oh, om, os] =>
    let m : Moment := ⟨year, day, hour, minute, second, nanosecond, oh, om, os⟩
    if m.inRange then some m.alignOffset else none
  | _ => none

/-- Every part is in its range, and the offset has one sign. -/
def Valid (m : Moment) : Prop := m.inRange = true ∧ m.alignOffset = m

instance (m : Moment) : Decidable m.Valid := inferInstanceAs (Decidable (_ ∧ _))

/-- A moment is made of its parts again. -/
theorem ofParts?_parts {m : Moment} (h : m.Valid) : ofParts? m.parts = some m := by
  obtain ⟨hr, ha⟩ := h
  simp only [ofParts?, parts, hr, if_true, ha]

end Moment

end ServerSetup
