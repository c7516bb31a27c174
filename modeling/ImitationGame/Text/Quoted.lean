import ImitationGame.Text.Unshown

namespace ImitationGame.Text.Quoted

def hex (n : Nat) : String := String.ofList (Nat.toDigits 16 n)

def escape (c : Char) : String :=
  if c = '"' then "\\\""
  else if c = '\\' then "\\\\"
  else if c = '\n' then "\\n"
  else if c = '\t' then "\\t"
  else if c = '\r' then "\\r"
  else if c = '\x00' then "\\0"
  else if Unshown.isUnshown c then "\\u\x7b" ++ hex c.toNat ++ "\x7d"
  else c.toString

def quote (s : String) : String :=
  s.toList.foldl (fun out c => out ++ escape c) "\"" ++ "\""

end ImitationGame.Text.Quoted
