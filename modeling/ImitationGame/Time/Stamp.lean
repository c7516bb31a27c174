namespace ImitationGame

/-- Nanoseconds since the beginning of 1970. -/
abbrev Instant := Int

/-- An instant together with the distance, in seconds, of the clock that shows it. -/
structure Stamp where
  instant : Instant
  offset : Int
deriving DecidableEq, Repr

structure Date where
  year : Int
  month : Int
  day : Int
deriving DecidableEq, Repr

namespace Instant

def perSecond : Int := 1000000000

def ofParts (seconds : Int) (nanos : Int) : Instant := seconds * perSecond + nanos

def seconds (n : Int) : Int := n * perSecond

/-- The calendar ends with the year 9999, on both sides of year 0. -/
def earliest : Instant := seconds (-377705116800)

def latest : Instant := seconds 253402300800 - 1

def isOnCalendar (t : Instant) : Bool := earliest ≤ t && t ≤ latest

end Instant

/-- The day with a number counted from 1 January 1970, by eras of 400 years that begin in March. -/
def Date.ofDay (n : Int) : Date :=
  let z := n + 719468
  let era := z / 146097
  let doe := z % 146097
  let yoe := (doe - doe / 1460 + doe / 36524 - doe / 146096) / 365
  let doy := doe - (365 * yoe + yoe / 4 - yoe / 100)
  let mp := (5 * doy + 2) / 153
  let month := if mp < 10 then mp + 3 else mp - 9
  { year := yoe + era * 400 + (if month ≤ 2 then 1 else 0)
    month
    day := doy - (153 * mp + 2) / 5 + 1 }

def Date.toDay (d : Date) : Int :=
  let y := if d.month ≤ 2 then d.year - 1 else d.year
  let era := y / 400
  let yoe := y - era * 400
  let doy := (153 * (d.month + (if d.month ≤ 2 then 9 else -3)) + 2) / 5 + d.day - 1
  era * 146097 + (yoe * 365 + yoe / 4 - yoe / 100 + doy) - 719468

def Date.isValid (d : Date) : Bool :=
  1 ≤ d.month && d.month ≤ 12 && 1 ≤ d.day && Date.ofDay d.toDay == d

inductive TimeFault where
  | year | offsetHour | offsetSecond
deriving DecidableEq, Repr

def TimeFault.message (f : TimeFault) : String :=
  let component := match f with
    | year => "year"
    | offsetHour => "offset_hour"
    | offsetSecond => "offset_second"
  "The " ++ component ++ " component cannot be formatted into the requested format."

namespace Stamp

def utc (i : Instant) : Stamp := ⟨i, 0⟩

def isShown (s : Stamp) : Bool := (s.instant + Instant.seconds s.offset).isOnCalendar

def padded (width : Nat) (n : Int) : List Char :=
  let digits := Nat.toDigits 10 n.toNat
  List.replicate (width - digits.length) '0' ++ digits

def fraction (nanos : Int) : List Char :=
  if nanos = 0 then [] else '.' :: ((padded 9 nanos).reverse.dropWhile (· == '0')).reverse

def offsetText (offset : Int) : List Char :=
  if offset = 0 then ['Z']
  else
    let n := offset.natAbs
    (if offset < 0 then '-' else '+') :: padded 2 (n / 3600 : Nat) ++ ':' ::
      padded 2 (n % 3600 / 60 : Nat)

def written (s : Stamp) : Except TimeFault (List Char) :=
  let total := s.instant / Instant.perSecond + s.offset
  let date := Date.ofDay (total / 86400)
  let second := total % 86400
  if date.year < 0 ∨ 9999 < date.year then .error .year
  else if 86400 ≤ s.offset.natAbs then .error .offsetHour
  else if s.offset.natAbs % 60 ≠ 0 then .error .offsetSecond
  else .ok (padded 4 date.year ++ '-' :: padded 2 date.month ++ '-' :: padded 2 date.day ++
    'T' :: padded 2 (second / 3600) ++ ':' :: padded 2 (second % 3600 / 60) ++
    ':' :: padded 2 (second % 60) ++ fraction (s.instant % Instant.perSecond) ++
    offsetText s.offset)

def rfc3339 (s : Stamp) : Except TimeFault String := s.written.map String.ofList

end Stamp

end ImitationGame
