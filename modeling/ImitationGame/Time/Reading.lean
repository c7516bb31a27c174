import ImitationGame.Time.Stamp

/-! Reading written times: RFC 3339 first, then looser forms, with or without an offset. A time
without an offset is one of UTC. -/

namespace ImitationGame.Stamp

namespace Scan

abbrev Scanner (α : Type) := List Char → Option (α × List Char)

def digits (count : Nat) : Scanner Int := fun cs =>
  let ds := cs.take count
  if ds.length = count && ds.all Char.isDigit then
    some (ds.foldl (fun n c => n * 10 + (c.toNat - '0'.toNat : Nat)) 0, cs.drop count)
  else none

def pair (largest : Int) : Scanner Int := fun cs =>
  (digits 2 cs).filter fun (n, _) => n ≤ largest

def mark (c : Char) : Scanner Unit
  | d :: cs => if d = c then some ((), cs) else none
  | [] => none

def pass (c : Char) (cs : List Char) : List Char := if cs.head? = some c then cs.drop 1 else cs

def sign? : Scanner Int
  | '+' :: cs => some (1, cs)
  | '-' :: cs => some (-1, cs)
  | _ => none

def maybe {α : Type} (scan : Scanner α) (cs : List Char) : Option α × List Char :=
  match scan cs with
  | some (a, cs) => (some a, cs)
  | none => (none, cs)

def nanos : Scanner Int := fun cs =>
  let ds := cs.takeWhile Char.isDigit
  if ds.isEmpty then none
  else (digits 9 (ds ++ List.replicate 9 '0')).map fun (n, _) => (n, cs.drop ds.length)

def day (sign : Int) : Scanner Int := fun cs => do
  let (year, cs) ← digits 4 cs
  let ((), cs) ← mark '-' cs
  let (month, cs) ← digits 2 cs
  let ((), cs) ← mark '-' cs
  let (day, cs) ← digits 2 cs
  let date : Date := ⟨sign * year, month, day⟩
  if date.isValid then some (date.toDay, cs) else none

def signedDay : Scanner Int := fun cs =>
  let (sign, cs) := maybe sign? cs
  day (sign.getD 1) cs

def ofParts (day : Int) (time : Instant) (offset : Int) : Stamp :=
  ⟨.seconds (day * 86400 - offset) + time, offset⟩

def zone : Scanner Int
  | 'Z' :: cs | 'z' :: cs => some (0, cs)
  | cs => do
    let (sign, cs) ← sign? cs
    let (hour, cs) ← pair 23 cs
    let ((), cs) ← mark ':' cs
    let (minute, cs) ← pair 59 cs
    return (sign * (hour * 3600 + minute * 60), cs)

/-- The last moment of a month of UTC, for which a leap second is taken. -/
def endsMonth (i : Instant) : Bool :=
  let next := i + 1
  next % Instant.seconds 86400 = 0 && (Date.ofDay (next / Instant.seconds 86400)).day = 1

def rfc3339? (cs : List Char) : Option Stamp := do
  let (day, cs) ← day 1 cs
  let separator ← cs.head?
  let (hour, cs) ← pair 23 (cs.drop 1)
  let ((), cs) ← mark ':' cs
  let (minute, cs) ← pair 59 cs
  let ((), cs) ← mark ':' cs
  let (second, cs) ← pair 60 cs
  let (fraction, cs) ← if cs.head? = some '.' then nanos (cs.drop 1) else some (0, cs)
  let (offset, cs) ← zone cs
  let time (second nanos : Int) :=
    ofParts day (.ofParts (hour * 3600 + minute * 60 + second) nanos) offset
  if !cs.isEmpty || 0x80 ≤ separator.toNat then none
  else if second < 60 then some (time second fraction)
  else if endsMonth (time 59 999999999).instant then some (time 59 999999999)
  else none

def longestFraction : Nat := 32

def dayTime : Scanner Instant := fun cs => do
  let (hour, cs) ← pair 23 cs
  let ((), cs) ← mark ':' cs
  let (minute, cs) ← pair 59 cs
  let (second, cs) := maybe (pair 59) (pass ':' cs)
  let cs := pass '.' cs
  let (fraction, rest) := maybe nanos cs
  if second.isNone && fraction.isSome || longestFraction < cs.length - rest.length then none
  else some (.ofParts (hour * 3600 + minute * 60 + second.getD 0) (fraction.getD 0), rest)

def withOffset? (cs : List Char) : Option Stamp := do
  let (day, cs) ← signedDay cs
  let (time, cs) ← dayTime (pass 'T' (pass ' ' cs))
  let (sign, cs) := maybe sign? cs
  let (hour, cs) ← pair 25 cs
  let (minute, cs) := maybe (pair 59) (pass ':' cs)
  if cs.isEmpty then
    some (ofParts day time (sign.getD 1 * (hour * 3600 + minute.getD 0 * 60)))
  else none

def withoutOffset? (cs : List Char) : Option Stamp := do
  let (day, cs) ← signedDay cs
  let separator ← cs.head?
  let (time, cs) ← dayTime (cs.drop 1)
  if (separator = ' ' || separator = 'T') && (pass 'Z' cs).isEmpty then some (ofParts day time 0)
  else none

end Scan

def ofText? (text : String) : Option Stamp :=
  let cs := text.toList
  ((Scan.rfc3339? cs).or (Scan.withOffset? cs)).or (Scan.withoutOffset? cs)

end ImitationGame.Stamp
