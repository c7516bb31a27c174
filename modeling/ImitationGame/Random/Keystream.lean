import ImitationGame.Random.Stream

/-! The stream of a 64-bit seed: a key drawn from the seed, and ChaCha with eight rounds. -/

namespace ImitationGame.Random

namespace Key

def advance (s : UInt64) : UInt64 := s * 6364136223846793005 + 11634580027462260723

def rotateRight (x : UInt32) (n : UInt32) : UInt32 := (x >>> n) ||| (x <<< (32 - n))

def output (s : UInt64) : UInt32 :=
  rotateRight (((s >>> 18) ^^^ s) >>> 27).toUInt32 (s >>> 59).toUInt32

def words : Nat → UInt64 → List UInt32
  | 0, _ => []
  | n + 1, s => output (advance s) :: words n (advance s)

end Key

namespace Block

def rotateLeft (x : UInt32) (n : UInt32) : UInt32 := (x <<< n) ||| (x >>> (32 - n))

abbrev State := Array UInt32

def quarter (s : State) (a b c d : Nat) : State :=
  let s := s.set! a (s[a]! + s[b]!)
  let s := s.set! d (rotateLeft (s[d]! ^^^ s[a]!) 16)
  let s := s.set! c (s[c]! + s[d]!)
  let s := s.set! b (rotateLeft (s[b]! ^^^ s[c]!) 12)
  let s := s.set! a (s[a]! + s[b]!)
  let s := s.set! d (rotateLeft (s[d]! ^^^ s[a]!) 8)
  let s := s.set! c (s[c]! + s[d]!)
  s.set! b (rotateLeft (s[b]! ^^^ s[c]!) 7)

def doubleRound (s : State) : State :=
  let s := quarter s 0 4 8 12
  let s := quarter s 1 5 9 13
  let s := quarter s 2 6 10 14
  let s := quarter s 3 7 11 15
  let s := quarter s 0 5 10 15
  let s := quarter s 1 6 11 12
  let s := quarter s 2 7 8 13
  quarter s 3 4 9 14

def initial (key : List UInt32) (number : Nat) : State :=
  ([0x61707865, 0x3320646E, 0x79622D32, 0x6B206574] ++ key ++
    [UInt32.ofNat number, UInt32.ofNat (number / Nat.pow 2 32), 0, 0]).toArray

def output (key : List UInt32) (number : Nat) : State :=
  let start := initial key number
  let mixed := doubleRound (doubleRound (doubleRound (doubleRound start)))
  Array.zipWith (· + ·) mixed start

end Block

def Stream.ofSeed (seed : UInt64) : Stream :=
  let key := Key.words 8 seed
  ⟨fun i => (Block.output key (i / 16))[i % 16]!, 0⟩

def gameSeed (base : UInt64) (game : Int) : UInt64 :=
  base + UInt64.ofInt game * 0x9E3779B97F4A7C15 + 3

def Stream.ofGame (base : UInt64) (game : Int) : Stream := .ofSeed (gameSeed base game)

/-- Where the draws for a game come from: from outside, or from a base seed. -/
inductive SeedSource where
  | entropy (stream : Stream)
  | fixed (base : UInt64)

instance : Coe UInt64 SeedSource := ⟨.fixed⟩

def SeedSource.stream : SeedSource → Int → Stream
  | entropy stream, _ => stream
  | fixed base, game => .ofGame base game

end ImitationGame.Random
