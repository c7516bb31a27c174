import ImitationGame.Random.Shuffle

namespace ImitationGame.Names

def pool : List String :=
  ["Alder", "Bramble", "Cinder", "Dorian", "Echo", "Fennel", "Garnet", "Hollis", "Indigo",
    "Juniper", "Kestrel", "Linden", "Marlow", "Nettle", "Onyx", "Piper", "Quill", "Rowan", "Sable",
    "Thistle", "Umber", "Vesper", "Wren", "Yarrow"]

def pick (count : Nat) (s : Random.Stream) : List String × Random.Stream :=
  let (names, s) := Random.Shuffle.upwards pool s
  (names.take count, s)

end ImitationGame.Names
