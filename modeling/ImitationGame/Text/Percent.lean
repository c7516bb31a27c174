import ImitationGame.Json.Reader

namespace ImitationGame.Text.Percent

@[match_pattern] abbrev mark : UInt8 := 0x25

/-- Resolve the escapes of all bytes but the kept ones. A mark that begins no escape stays. -/
def unescape (kept : UInt8 → Bool) : List UInt8 → List UInt8
  | mark :: a :: b :: r =>
    match Json.Byte.hexDigit? a, Json.Byte.hexDigit? b with
    | some x, some y =>
      let byte := UInt8.ofNat (x * 16 + y)
      if kept byte then mark :: a :: b :: unescape kept r else byte :: unescape kept r
    | _, _ => mark :: unescape kept (a :: b :: r)
  | b :: r => b :: unescape kept r
  | [] => []

def decode? (s : String) : Option String :=
  String.fromUTF8? ⟨(unescape (fun _ => false) s.toUTF8.data.toList).toArray⟩

end ImitationGame.Text.Percent
