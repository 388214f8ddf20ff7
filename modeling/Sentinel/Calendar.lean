import Sentinel.Text.Numeral
/-!
# Instants and their dates

An instant is a whole number of milliseconds since the start of 1970 in the Gregorian calendar,
within the years that dates are written for. Its date and time of day are written in the way of
RFC 3339, and as a row of path segments.
-/

namespace Sentinel

/-- A moment in whole milliseconds since the start of 1970, UTC, from the start of the year
-262143 to the end of the year 262142. -/
structure Instant where
  millis : Int
  inRange : -8334601228800000 ≤ millis ∧ millis ≤ 8210266876799999
deriving DecidableEq

namespace Instant

/-- The instant of a number of milliseconds, absent outside the years of the calendar. -/
def ofMillis? (millis : Int) : Option Instant :=
  if h : -8334601228800000 ≤ millis ∧ millis ≤ 8210266876799999 then some ⟨millis, h⟩ else none

/-- The start of 1970. -/
def epoch : Instant := ⟨0, by decide⟩

instance : Inhabited Instant := ⟨epoch⟩

theorem ofMillis?_millis (t : Instant) : ofMillis? t.millis = some t := by
  simp [ofMillis?, t.inRange]

theorem ofMillis?_eq_some_iff {m : Int} {t : Instant} : ofMillis? m = some t ↔ t.millis = m := by
  constructor
  · intro h
    unfold ofMillis? at h
    split at h
    · cases h; rfl
    · exact absurd h (by simp)
  · rintro rfl
    exact ofMillis?_millis t

end Instant

structure CivilTime where
  year : Int
  month : Nat
  day : Nat
  hour : Nat
  minute : Nat
  second : Nat
  milli : Nat
deriving DecidableEq, Repr

namespace CivilTime

def millisPerDay : Int := 86400000

/-- The year, month and day of a day counted from the start of 1970. Years are taken to begin in
March, so that a leap day is the last day of its year, and 400 of them have 146097 days. -/
def dateOfDay (days : Int) : Int × Nat × Nat :=
  let z := days + 719468
  let era := z / 146097
  let dayOfEra := (z % 146097).toNat
  let yearOfEra := (dayOfEra - dayOfEra / 1460 + dayOfEra / 36524 - dayOfEra / 146096) / 365
  let dayOfYear := dayOfEra - (365 * yearOfEra + yearOfEra / 4 - yearOfEra / 100)
  let monthFromMarch := (5 * dayOfYear + 2) / 153
  let day := dayOfYear - (153 * monthFromMarch + 2) / 5 + 1
  let month := if monthFromMarch < 10 then monthFromMarch + 3 else monthFromMarch - 9
  let year := (yearOfEra : Int) + era * 400
  (if month ≤ 2 then year + 1 else year, month, day)

def ofInstant (t : Instant) : CivilTime :=
  let (year, month, day) := dateOfDay (t.millis / millisPerDay)
  let ms := (t.millis % millisPerDay).toNat
  { year, month, day
    hour := ms / 3600000
    minute := ms / 60000 % 60
    second := ms / 1000 % 60
    milli := ms % 1000 }

/-- A year: four digits from 0 to 9999, a sign and at least four digits otherwise. -/
def yearChars (year : Int) : List Char :=
  if 0 ≤ year ∧ year ≤ 9999 then Text.padded 4 year.toNat
  else (if year < 0 then '-' else '+') :: Text.padded 4 year.natAbs

/-- The date and the time of day down to seconds, as RFC 3339 writes them. -/
def secondsChars (c : CivilTime) : List Char :=
  yearChars c.year ++ '-' :: (Text.padded 2 c.month ++ '-' :: (Text.padded 2 c.day ++ 'T' ::
    (Text.padded 2 c.hour ++ ':' :: (Text.padded 2 c.minute ++ ':' :: Text.padded 2 c.second))))

end CivilTime

namespace Instant

/-- RFC 3339 with three digits of the second's fraction. -/
def withMillis (t : Instant) : String :=
  let c := CivilTime.ofInstant t
  String.ofList (c.secondsChars ++ '.' :: (Text.padded 3 c.milli ++ ['Z']))

/-- RFC 3339 with the second's fraction only where it is not zero. -/
def brief (t : Instant) : String :=
  let c := CivilTime.ofInstant t
  let fraction := if c.milli = 0 then [] else '.' :: Text.padded 3 c.milli
  String.ofList (c.secondsChars ++ fraction ++ ['Z'])

/-- The six path segments of the date and the time of day, from the year to the second. -/
def pathSegments (t : Instant) : List String :=
  let c := CivilTime.ofInstant t
  [CivilTime.yearChars c.year, Text.padded 2 c.month, Text.padded 2 c.day, Text.padded 2 c.hour,
    Text.padded 2 c.minute, Text.padded 2 c.second].map String.ofList

end Instant

end Sentinel
