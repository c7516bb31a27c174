import ImitationGame.Settings.Environment
import ImitationGame.Settings.Location
import ImitationGame.Store.Database

namespace ImitationGame

inductive Engine where
  | postgres | sqliteMemory | sqliteFile
deriving DecidableEq, Repr

namespace Engine

def name : Engine → String
  | postgres => "postgres"
  | sqliteMemory => "sqlite_memory"
  | sqliteFile => "sqlite_file"

def ofText? (s : String) : Option Engine :=
  if s = "postgres" ∨ s = "pg" then some postgres
  else if s = "sqlite-memory" ∨ s = "memory" then some sqliteMemory
  else if s = "sqlite-file" ∨ s = "sqlite" then some sqliteFile
  else none

def ofEnvironment (e : Environment) : Except SettingFault Engine :=
  match e.value? "TURING_DB_KIND" with
  | none => .ok postgres
  | some raw =>
    let s := (Text.Blank.trimmed raw).map Char.toLower
    match ofText? s with
    | some k => .ok k
    | none => .error (.unknownEngine s)

def url (e : Environment) : Engine → Except SettingFault String
  | postgres => do
    let host := (e.value? "POSTGRES_HOST").getD "localhost"
    let port := (e.value? "POSTGRES_PORT").getD "5432"
    let database ← e.require "TURING_DB"
    let user ← e.require "APP_DB_USER"
    let password ← e.require "APP_DB_PASSWORD"
    return "postgresql://" ++ user ++ ":" ++ password ++ "@" ++ host ++ ":" ++ port ++ "/" ++
      database
  | sqliteMemory => .ok "sqlite::memory:"
  | sqliteFile => do return "sqlite://" ++ (← e.require "TURING_SQLITE_PATH") ++ "?mode=rwc"

def bootstrap (e : Environment) (opens : Location → Bool) : Option Engine → Except Problem Database
  | none => .error SettingFault.noDatabase.problem
  | some engine =>
    match engine.url e with
    | .error f => .error f.problem
    | .ok url =>
      if (Location.ofUrl? url).any opens then .ok .created else .error .unavailable

end Engine

end ImitationGame
