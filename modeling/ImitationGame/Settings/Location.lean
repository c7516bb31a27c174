import ImitationGame.Text.Numeral
import ImitationGame.Text.Percent
import ImitationGame.Text.Search
import ImitationGame.Text.Segments

namespace ImitationGame

inductive Location where
  | server (url : String)
  | memory
  | file (name : String)
deriving DecidableEq, Repr

namespace Location

open Text

def scheme : List Char := "sqlite:".toList

def slashes : List Char := "//".toList

def isHostChar (c : Char) : Bool :=
  !(" <>@[\\]^|".toList.contains c || c.toNat = 0)

def isAuthority (cs : List Char) : Bool :=
  let place := (cs.reverse.takeWhile (· != '@')).reverse
  let host := place.takeWhile (· != ':')
  let port := place.drop (host.length + 1)
  host.all isHostChar && (cs.isEmpty || !host.isEmpty) && port.all Char.isDigit &&
    (port.isEmpty || (Numeral.word? 16 port).isSome)

def endsAuthority (c : Char) : Bool := c == '/' || c == '?' || c == '#'

def isAddress (cs : List Char) : Bool :=
  (Search.after? slashes cs).all fun r => isAuthority (r.takeWhile (!endsAuthority ·))

def ofName (name : String) : Location :=
  if name = "" ∨ name = ":memory:" then memory else file name

def ofFileName? (name : String) : Option Location :=
  match Search.after? "file:".toList name.toList with
  | none => some (ofName name)
  | some r =>
    let path? := match Search.after? slashes r with
      | none => some r
      | some r =>
        let host := String.ofList (r.takeWhile (· != '/'))
        if host = "" ∨ host = "localhost" then some (r.dropWhile (· != '/')) else none
    path?.bind fun path =>
      (Percent.decode? (String.ofList (path.takeWhile fun c => c != '?' && c != '#'))).map ofName

def query : List Char := "?mode=rwc".toList

def ofUrl? (url : String) : Option Location :=
  match Search.after? scheme url.toList with
  | none => some (server url)
  | some rest =>
    let cs := url.toList
    let cs := Search.dropAll (scheme ++ slashes) cs.length cs
    let cs := Search.dropAll scheme cs.length cs
    let name := cs.takeWhile (· != '?')
    let asked := cs.drop name.length
    if isAddress rest && (asked.isEmpty || asked == query) && !cs.contains '\x00' then
      (Percent.decode? (String.ofList name)).bind fun name =>
        if name.toList.contains '\x00' then none else ofFileName? name
    else none

def path (home : List String) (name : String) : List String :=
  Segments.follow (if name.toList.head? = some '/' then [] else home) (Segments.split name.toList)

end Location

end ImitationGame
