/-! UTF-8 read leniently: every longest beginning of a character that the next byte does not
continue becomes one replacement character. -/

namespace ImitationGame.Text.Utf8

structure Pending where
  value : Nat
  missing : Nat
  low : UInt8 := 0x80
  high : UInt8 := 0xBF

def replacement : Char := '\uFFFD'

def begin (b : UInt8) : List Char × Option Pending :=
  let n := b.toNat
  if n < 0x80 then ([Char.ofNat n], none)
  else if n < 0xC2 then ([replacement], none)
  else if n < 0xE0 then ([], some { value := n - 0xC0, missing := 1 })
  else if n = 0xE0 then ([], some { value := 0, missing := 2, low := 0xA0 })
  else if n = 0xED then ([], some { value := 0xD, missing := 2, high := 0x9F })
  else if n < 0xF0 then ([], some { value := n - 0xE0, missing := 2 })
  else if n = 0xF0 then ([], some { value := 0, missing := 3, low := 0x90 })
  else if n < 0xF4 then ([], some { value := n - 0xF0, missing := 3 })
  else if n = 0xF4 then ([], some { value := 4, missing := 3, high := 0x8F })
  else ([replacement], none)

def step : Option Pending → UInt8 → List Char × Option Pending
  | none, b => begin b
  | some p, b =>
    if p.low ≤ b && b ≤ p.high then
      let value := p.value * 64 + (b.toNat - 0x80)
      if p.missing ≤ 1 then ([Char.ofNat value], none)
      else ([], some { value, missing := p.missing - 1 })
    else
      let (out, next) := begin b
      (replacement :: out, next)

def decodeFrom : Option Pending → List UInt8 → List Char
  | none, [] => []
  | some _, [] => [replacement]
  | p, b :: r => (step p b).1 ++ decodeFrom (step p b).2 r

def decode (bytes : List UInt8) : String := String.ofList (decodeFrom none bytes)

end ImitationGame.Text.Utf8
