import TraceMining.Text.Quoted

/-
  This file defines the calendar date and the time of day of
  a count of seconds since the start of 1970.  Years are
  counted from the first of March, so that a leap day is the
  last of its year.

  Key definitions include:
    * `Calendar.Date`
    * `Calendar.Date.ofDays`
    * `Calendar.Date.ofSeconds`
    * `Calendar.day`
    * `Calendar.instant`
-/

------------------------------------------------------------
-- Dates
------------------------------------------------------------

namespace TraceMining

namespace Calendar

/- A date of the proleptic calendar now in use. -/
structure Date where
  year : Int
  month : Nat
  day : Nat
  deriving DecidableEq, Repr

/- The date some days after the start of 1970. -/
def Date.ofDays
    (days : Int) : Date :=
  let z := days + 719468
  let era := z / 146097
  let ofEra := (z % 146097).toNat
  let year :=
    (ofEra - ofEra / 1460 + ofEra / 36524 - ofEra / 146096) /
      365
  let ofYear := ofEra - (365 * year + year / 4 - year / 100)
  let shifted := (5 * ofYear + 2) / 153
  let month := if shifted < 10 then shifted + 3 else shifted - 9
  { year :=
      Int.ofNat year + era * 400 + (if month ≤ 2 then 1 else 0)
    month := month
    day := ofYear - (153 * shifted + 2) / 5 + 1 }

/- The date at a count of seconds. -/
def Date.ofSeconds
    (now : Int) : Date :=
  Date.ofDays (now / 86400)

end Calendar

end TraceMining

------------------------------------------------------------
-- Text
------------------------------------------------------------

namespace TraceMining

namespace Calendar

/- A number with zeros in front. -/
def padded
    (width : Nat)
    (n : Nat) : String :=
  let ds := Nat.toDigits 10 n
  String.ofList (List.replicate (width - ds.length) '0' ++ ds)

/- Month and day behind a year. -/
def Date.suffix
    (d : Date) : String :=
  "-" ++ padded 2 d.month ++ "-" ++ padded 2 d.day

/- The day of an instant; the year is not filled up. -/
def day
    (now : Int) : String :=
  let d := Date.ofSeconds now
  toString d.year ++ d.suffix

/- An instant to the second, at longitude zero. -/
def instant
    (now : Int) : String :=
  let d := Date.ofSeconds now
  let s := (now % 86400).toNat
  padded 4 d.year.toNat ++ d.suffix ++ "T" ++
    padded 2 (s / 3600) ++ ":" ++
    padded 2 (s / 60 % 60) ++ ":" ++
    padded 2 (s % 60) ++ "Z"

end Calendar

end TraceMining
