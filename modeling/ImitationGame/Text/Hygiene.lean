import ImitationGame.Game.Refusal
import ImitationGame.Text.Blank

namespace ImitationGame.Text

open Blank

def acceptMessage (raw : String) : Except Refusal String :=
  let cs := trim raw.toList
  if cs = [] then .error .emptyText
  else if maxMessageLength < cs.length then .error (.textTooLong cs.length)
  else .ok (String.ofList cs)

def acceptName (raw : String) : Except Refusal String :=
  let cs := trim raw.toList
  if cs = [] ∨ maxNameLength < cs.length then .error .badDisplayName
  else .ok (String.ofList cs)

def quotePairs : List (Char × Char) := [('"', '"'), ('\'', '\''), ('\u201c', '\u201d')]

def unwrap (cs : List Char) (pair : Char × Char) : List Char :=
  match cs with
  | c :: d :: rest =>
    if c = pair.1 ∧ (d :: rest).getLast? = some pair.2 then trim (d :: rest).dropLast else cs
  | _ => cs

def cleanChars (cs : List Char) : Option (List Char) :=
  match quotePairs.foldl unwrap (trim cs) with
  | [] => none
  | c :: rest => some ((c :: rest).take maxMessageLength)

def clean (raw : String) : Option String := (cleanChars raw.toList).map String.ofList

end ImitationGame.Text
