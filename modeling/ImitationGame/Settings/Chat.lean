import ImitationGame.Settings.Environment

namespace ImitationGame

structure ChatSettings where
  baseUrl : String := "https://api.openai.com/v1"
  key : Option String := none
  model : String := "gpt-4o-mini"
  timeout : Nat := 10000
deriving DecidableEq, Repr

def withoutSlashes (url : String) : String :=
  String.ofList (url.toList.reverse.dropWhile (· == '/')).reverse

namespace ChatSettings

def standard : ChatSettings := {}

def ofEnvironment (e : Environment) : Except SettingFault ChatSettings := do
  let timeout ← e.wordOr 64 "AI_TIMEOUT_MS" standard.timeout
  return {
    baseUrl := withoutSlashes (e.textOr "AI_API_BASE_URL" standard.baseUrl)
    key := ((e.value? "AI_API_KEY").map Text.Blank.trimmed).filter (· ≠ "")
    model := e.textOr "AI_MODEL" standard.model
    timeout }

end ChatSettings

end ImitationGame
