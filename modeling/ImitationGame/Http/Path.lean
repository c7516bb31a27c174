import ImitationGame.Http.Target
import ImitationGame.Text.Percent
import ImitationGame.Text.Segments
import ImitationGame.Text.Utf8

namespace ImitationGame.Http.Path

abbrev plus : UInt8 := 0x2B

def isProtected (b : UInt8) : Bool := b == Text.Percent.mark || b == Target.slash || b == plus

def ofTarget? (target : String) : Option String :=
  (Target.path? target.toUTF8.data.toList).map fun path =>
    Text.Utf8.decode (Text.Percent.unescape isProtected path)

def segments (path : String) : Option (List String) :=
  match Text.Segments.split path.toList with
  | [] :: ss => some (ss.map String.ofList)
  | _ => none

end ImitationGame.Http.Path
