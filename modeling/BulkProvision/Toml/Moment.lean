import BulkProvision.Text.Digits

/-!
# Dates and times

The dates and times of a TOML document: a day, a time of day, or both, the latter perhaps with its
distance from universal time.  `Moment.text` is the one way to write a moment: a `T` between day
and time, a capital `Z` for universal time, and no zeros at the end of a fraction.
-/

namespace BulkProvision

open Text

namespace Toml

/-- A day of the calendar. -/
structure Day where
  year : Nat
  month : Nat
  day : Nat
  deriving DecidableEq

/-- A time of day. -/
structure Clock where
  hour : Nat
  minute : Nat
  second : Nat
  nanosecond : Nat
  deriving DecidableEq

/-- The distance from universal time. -/
inductive Offset where
  | universal
  | minutes (count : Int)
  deriving DecidableEq

/-- A day, a time of day, or both. -/
inductive Moment where
  | day (day : Day)
  | clock (clock : Clock)
  | both (day : Day) (clock : Clock) (offset : Option Offset)
  deriving DecidableEq

/-- The number of days of a month. -/
def daysIn (year month : Nat) : Nat :=
  if month = 2 then
    if year % 4 = 0 ∧ (year % 100 ≠ 0 ∨ year % 400 = 0) then 29 else 28
  else if month = 4 ∨ month = 6 ∨ month = 9 ∨ month = 11 then 30
  else 31

/-- The number of nanoseconds that the digits of a fraction of a second stand for; digits behind
the ninth are dropped. -/
def nanoseconds (fraction : List Char) : Nat :=
  ofDigits 10 (fraction.take 9) * Nat.pow 10 (9 - fraction.length)

/-- The text of a day. -/
def Day.text (d : Day) : List Char :=
  fixedWidth 4 d.year ++ '-' :: fixedWidth 2 d.month ++ '-' :: fixedWidth 2 d.day

/-- The text of a time of day. -/
def Clock.text (c : Clock) : List Char :=
  let whole := fixedWidth 2 c.hour ++ ':' :: fixedWidth 2 c.minute ++ ':' :: fixedWidth 2 c.second
  if c.nanosecond = 0 then whole else whole ++ '.' :: trimZeros (fixedWidth 9 c.nanosecond)

/-- The text of a distance from universal time. -/
def Offset.text : Offset → List Char
  | universal => ['Z']
  | minutes count =>
    let distance := count.natAbs
    (if count < 0 then '-' else '+') ::
      fixedWidth 2 (distance / 60) ++ ':' :: fixedWidth 2 (distance % 60)

/-- The text of a moment. -/
def Moment.text : Moment → String
  | day d => String.ofList d.text
  | clock c => String.ofList c.text
  | both d c offset =>
    String.ofList (d.text ++ 'T' :: c.text ++ (offset.map Offset.text).getD [])

end Toml

end BulkProvision
