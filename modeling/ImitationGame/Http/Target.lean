import ImitationGame.Json.Reader

namespace ImitationGame.Http.Target

open Json.Byte

abbrev percent : UInt8 := 0x25
abbrev slash : UInt8 := 0x2F
abbrev queryMark : UInt8 := 0x3F
abbrev fragmentMark : UInt8 := 0x23
abbrev atSign : UInt8 := 0x40

def longest : Nat := 65534

def longestScheme : Nat := 64

def isLetter (b : UInt8) : Bool := (0x41 ≤ b && b ≤ 0x5A) || (0x61 ≤ b && b ≤ 0x7A)

def isSchemeByte (b : UInt8) : Bool :=
  isLetter b || isDigit b || b == 0x2B || b == minus || b == point

def isAuthorityByte (b : UInt8) : Bool :=
  isLetter b || b == 0x21 || (0x23 ≤ b && b ≤ 0x3B) || b == 0x3D || b == queryMark || b == atSign ||
    b == openList || b == closeList || b == 0x5F || b == 0x7E

def isPathByte (b : UInt8) : Bool :=
  b == 0x21 || b == quote || (0x24 ≤ b && b ≤ 0x3B) || b == 0x3D || (0x40 ≤ b && b ≤ 0x5F) ||
    (0x61 ≤ b && b ≤ 0x7E)

def isQueryByte (b : UInt8) : Bool :=
  b == 0x21 || (0x24 ≤ b && b ≤ 0x3B) || b == 0x3D || (0x3F ≤ b && b ≤ 0x7E)

/-- What has been seen of an authority since its last at-sign or bracket. -/
structure Seen where
  colons : Nat := 0
  escape : Bool := false
  opened : Bool := false
  closed : Bool := false
  ended : Bool := false

def Seen.next? (s : Seen) (b : UInt8) : Option Seen :=
  let s := { s with ended := false }
  if !isAuthorityByte b then none
  else if b = colon then if 8 ≤ s.colons then none else some { s with colons := s.colons + 1 }
  else if b = openList then
    if s.escape || s.opened then none else some { s with opened := true }
  else if b = closeList then
    if !s.opened || s.closed then none
    else some { s with closed := true, colons := 0, escape := false }
  else if b = atSign then some { s with colons := 0, escape := false, ended := true }
  else some { s with escape := s.escape || b == percent }

def isAuthority (bytes : List UInt8) : Bool :=
  (bytes.foldlM Seen.next? {}).any fun s =>
    s.opened == s.closed && s.colons ≤ 1 && !s.ended && !s.escape

def endsAuthority (b : UInt8) : Bool := b == slash || b == queryMark || b == fragmentMark

def localPath? (bytes : List UInt8) : Option (List UInt8) :=
  let bytes := bytes.takeWhile (· != fragmentMark)
  let path := bytes.takeWhile (· != queryMark)
  if path.all isPathByte && (bytes.drop (path.length + 1)).all isQueryByte then some path else none

def afterScheme? (bytes : List UInt8) : Option (Nat × List UInt8) :=
  let scheme := bytes.takeWhile isSchemeByte
  match bytes.drop scheme.length with
  | 0x3A :: 0x2F :: 0x2F :: r => some (scheme.length, r)
  | _ => none

/-- The path that a target names, if the target is well formed. A whole address without path names
the root; an authority alone names no path. -/
def path? (bytes : List UInt8) : Option (List UInt8) :=
  if longest < bytes.length then none
  else if bytes = [0x2A] then some bytes
  else if bytes.head? = some slash then localPath? bytes
  else
    match afterScheme? bytes with
    | some (scheme, r) =>
      let authority := r.takeWhile (!endsAuthority ·)
      if longestScheme < scheme || authority.isEmpty || !isAuthority authority then none
      else (localPath? (r.drop authority.length)).map fun p => if p.isEmpty then [slash] else p
    | none =>
      if !bytes.isEmpty && !bytes.any endsAuthority && isAuthority bytes then some [] else none

end ImitationGame.Http.Target
