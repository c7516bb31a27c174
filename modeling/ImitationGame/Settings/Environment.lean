import ImitationGame.Error.Problem
import ImitationGame.Text.Blank
import ImitationGame.Text.Numeral

namespace ImitationGame

inductive SettingFault where
  | unreadable (name raw : String)
  | missing (name : String)
  | zero (name : String)
  | pacingReversed (shortest longest : Nat)
  | unknownEngine (text : String)
  | noDatabase
deriving DecidableEq, Repr

namespace SettingFault

def message : SettingFault → String
  | unreadable name raw => s!"Environment variable '{name}' has invalid value '{raw}'"
  | missing name => s!"Required environment variable '{name}' is not set"
  | zero name => s!"{name} must be at least 1"
  | pacingReversed a b => s!"AI_PACING_MIN_MS ({a}) exceeds AI_PACING_MAX_MS ({b})"
  | unknownEngine t =>
    s!"Unknown TURING_DB_KIND '{t}'; expected postgres, sqlite-memory or sqlite-file"
  | noDatabase => "No database configured for AppState"

def problem (f : SettingFault) : Problem := .configuration f.message

end SettingFault

structure Environment where
  bindings : List (String × String)

namespace Environment

open Text

def isSettable (e : Environment) : Bool :=
  e.bindings.all fun (name, value) =>
    name ≠ "" && !name.toList.contains '=' && !(name ++ value).toList.contains '\x00'

def value? (e : Environment) (name : String) : Option String := e.bindings.lookup name

def require (e : Environment) (name : String) : Except SettingFault String :=
  match e.value? name with
  | some v => .ok v
  | none => .error (.missing name)

def readOr {α : Type} (e : Environment) (read : List Char → Option α) (name : String)
    (fallback : α) : Except SettingFault α :=
  match e.value? name with
  | none => .ok fallback
  | some raw =>
    match read (Blank.trim raw.toList) with
    | some a => .ok a
    | none => .error (.unreadable name raw)

def textOr (e : Environment) (name fallback : String) : String :=
  ((e.value? name).map Blank.trimmed).getD fallback

def wordOr (e : Environment) (bits : Nat) : String → Nat → Except SettingFault Nat :=
  e.readOr (Numeral.word? bits)

def longOr (e : Environment) : String → Int → Except SettingFault Int :=
  e.readOr Numeral.long?

def positiveOr (e : Environment) (name : String) (fallback : Nat) : Except SettingFault Nat := do
  let n ← e.wordOr 64 name fallback
  if n = 0 then throw (.zero name)
  return n

end Environment

end ImitationGame
