import DavCourier.Calendar.Date
import DavCourier.Text.Numeral

/-!
# Instants

An instant is a number of seconds from the start of 1970 and a part of a second, which
goes on past one whole second in a leap second. `Instant.httpDate` writes an instant as
headers do.
-/

namespace DavCourier.Calendar

/-- A point in time. -/
structure Instant where
  seconds : Int
  /-- The billionths of a second, from 10^9 on in a leap second. -/
  nanos : Nat
  deriving DecidableEq, Repr

namespace Instant

/-- Whether one instant is not after another. -/
def isUpTo (a b : Instant) : Bool :=
  a.seconds < b.seconds || (a.seconds == b.seconds && a.nanos ≤ b.nanos)

/-- The seconds of a day. -/
def daySeconds : Int := 86400

/-- The day, counted from the start of 1970. -/
def days (t : Instant) : Int :=
  t.seconds / daySeconds

/-- The seconds from the start of the day. -/
def secondOfDay (t : Instant) : Nat :=
  (t.seconds % daySeconds).toNat

/-- A year in four digits. Years outside 0 to 9999 have a sign. -/
def yearText (year : Int) : List Char :=
  if year < 0 then '-' :: Numeral.padded 4 (-year).toNat
  else if 9999 < year then '+' :: Numeral.padded 4 year.toNat
  else Numeral.padded 4 year.toNat

/-- The second of the minute, which is 60 in a leap second. -/
def shownSecond (t : Instant) : Nat :=
  t.secondOfDay % 60 + (if 1000000000 ≤ t.nanos then 1 else 0)

/-- The instant as headers write it. -/
def httpDate (t : Instant) : String :=
  let date := Date.ofDays t.days
  String.ofList <|
    ((weekdayNames[weekday t.days]?).getD "").toList ++ ", ".toList
      ++ Numeral.padded 2 date.day.toNat ++ [' ']
      ++ ((monthNames[(date.month - 1).toNat]?).getD "").toList ++ [' ']
      ++ yearText date.year ++ [' ']
      ++ Numeral.padded 2 (t.secondOfDay / 3600) ++ [':']
      ++ Numeral.padded 2 (t.secondOfDay / 60 % 60) ++ [':']
      ++ Numeral.padded 2 t.shownSecond ++ " GMT".toList

end Instant

end DavCourier.Calendar
