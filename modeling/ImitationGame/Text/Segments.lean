namespace ImitationGame.Text.Segments

def split : List Char → List (List Char)
  | [] => [[]]
  | '/' :: r => [] :: split r
  | c :: r =>
    match split r with
    | s :: ss => (c :: s) :: ss
    | [] => [[c]]

def follow (place : List String) : List (List Char) → List String
  | [] => place
  | [] :: ss | ['.'] :: ss => follow place ss
  | ['.', '.'] :: ss => follow place.dropLast ss
  | s :: ss => follow (place ++ [String.ofList s]) ss

end ImitationGame.Text.Segments
