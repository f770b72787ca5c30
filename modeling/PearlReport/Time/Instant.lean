/-! The proleptic Gregorian calendar with astronomical years, days counted from 1970-01-01, and
instants of universal time. A leap second is the last second of its minute with a billion or more
nanoseconds. -/

namespace PearlReport.Time

structure Date where
  year : Int
  month : Nat
  day : Nat
deriving DecidableEq, Repr

def isLeap (year : Int) : Bool :=
  (year % 4 == 0 && year % 100 != 0) || year % 400 == 0

def daysInMonth (year : Int) (month : Nat) : Nat :=
  if month = 2 then (if isLeap year then 29 else 28)
  else if month = 4 ∨ month = 6 ∨ month = 9 ∨ month = 11 then 30
  else 31

def Date.Valid (d : Date) : Prop :=
  1 ≤ d.month ∧ d.month ≤ 12 ∧ 1 ≤ d.day ∧ d.day ≤ daysInMonth d.year d.month

instance (d : Date) : Decidable d.Valid := inferInstanceAs (Decidable (_ ∧ _))

/-- Days from 1970-01-01. Years are counted from March, in eras of 400 years that have 146097 days;
the leap day then ends its year. -/
def Date.toDays (d : Date) : Int :=
  let y := if d.month ≤ 2 then d.year - 1 else d.year
  let era := y / 400
  let yearOfEra := y % 400
  let month : Int := if 2 < d.month then (d.month : Int) - 3 else (d.month : Int) + 9
  let dayOfYear := (153 * month + 2) / 5 + d.day - 1
  let dayOfEra := yearOfEra * 365 + yearOfEra / 4 - yearOfEra / 100 + dayOfYear
  era * 146097 + dayOfEra - 719468

def Date.ofDays (days : Int) : Date :=
  let z := days + 719468
  let era := z / 146097
  let dayOfEra := z % 146097
  let yearOfEra := (dayOfEra - dayOfEra / 1460 + dayOfEra / 36524 - dayOfEra / 146096) / 365
  let dayOfYear := dayOfEra - (365 * yearOfEra + yearOfEra / 4 - yearOfEra / 100)
  let shifted := (5 * dayOfYear + 2) / 153
  let day := dayOfYear - (153 * shifted + 2) / 5 + 1
  let month := if shifted < 10 then shifted + 3 else shifted - 9
  let year := yearOfEra + era * 400
  ⟨if month ≤ 2 then year + 1 else year, month.toNat, day.toNat⟩

def firstSecond : Int := -8334601228800

def lastSecond : Int := 8210266876799

structure Instant where
  secs : Int
  nanos : Nat
  inRange : firstSecond ≤ secs ∧ secs ≤ lastSecond
  nanos_lt : nanos < 2000000000
  leap : 1000000000 ≤ nanos → secs % 60 = 59
deriving DecidableEq

namespace Instant

def ofUnix? (secs : Int) (nanos : Nat) : Option Instant :=
  if h : (firstSecond ≤ secs ∧ secs ≤ lastSecond) ∧ nanos < 2000000000 ∧
      (1000000000 ≤ nanos → secs % 60 = 59) then
    some ⟨secs, nanos, h.1, h.2.1, h.2.2⟩
  else none

def date (t : Instant) : Date := Date.ofDays (t.secs / 86400)

def secondOfDay (t : Instant) : Nat := (t.secs % 86400).toNat

def hour (t : Instant) : Nat := t.secondOfDay / 3600

def minute (t : Instant) : Nat := t.secondOfDay / 60 % 60

/-- 60 in a leap second. -/
def second (t : Instant) : Nat := t.secondOfDay % 60 + t.nanos / 1000000000

def millis (t : Instant) : Nat := t.nanos % 1000000000 / 1000000

/-- The order of time; a leap second lies before the next minute. -/
def compare (a b : Instant) : Ordering :=
  if a.secs < b.secs then .lt
  else if b.secs < a.secs then .gt
  else if a.nanos < b.nanos then .lt
  else if b.nanos < a.nanos then .gt
  else .eq

def sort (ts : List Instant) : List Instant :=
  ts.mergeSort fun a b => a.compare b != .gt

end Instant

structure Clock where
  hour : Nat
  minute : Nat
  second : Nat
  nanos : Nat
deriving DecidableEq, Repr

def Instant.ofLocal? (d : Date) (c : Clock) (offset : Int) : Option Instant :=
  if d.Valid ∧ c.hour < 24 ∧ c.minute < 60 ∧ c.second ≤ 60 ∧ c.nanos < 1000000000 then
    let leap : Nat := if c.second = 60 then 1 else 0
    let ofDay : Nat := c.hour * 3600 + c.minute * 60 + c.second - leap
    Instant.ofUnix? (d.toDays * 86400 + ofDay - offset) (c.nanos + leap * 1000000000)
  else none

inductive Flaw where
  | outOfRange
  | invalid
  | tooShort
  | tooLong
deriving DecidableEq, Repr

def Flaw.message : Flaw → String
  | .outOfRange => "input is out of range"
  | .invalid => "input contains invalid characters"
  | .tooShort => "premature end of input"
  | .tooLong => "trailing input"

end PearlReport.Time
