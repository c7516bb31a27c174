import ImitationGame.Game.Basic

namespace ImitationGame

def MessageKind.canned : MessageKind → String
  | question => "What is something you did today that surprised you?"
  | answer => "Honestly, I'd have to think about that one for a while."

namespace Prompt

def historyLimit : Nat := 20

def nameOf (g : Game) (bot : Int) : String := ((g.find? bot).map Bot.name).getD "someone"

def line (g : Game) (m : Message) : String :=
  match m.kind with
  | .question => s!"{nameOf g m.source} asked {nameOf g m.target}: {m.text}\n"
  | .answer => s!"{nameOf g m.source} answered: {m.text}\n"

def history (g : Game) (messages : List Message) : String :=
  match messages.drop (messages.length - historyLimit) with
  | [] => "No one has spoken yet.\n"
  | recent => recent.foldl (fun out m => out ++ line g m) "Conversation so far:\n"

def preamble (me : Bot) : String :=
  s!"You are {me.name}, one of five players in a chat game. Some players are people and some " ++
    "are AIs; people win by spotting the AIs. Sound like a relaxed person texting: short, " ++
    "casual, no emojis, never mention being an AI.\n"

def question (g : Game) (me target : Bot) (messages : List Message) : String :=
  preamble me ++ history g messages ++
    s!"Write one short question for {target.name}. Reply with the question only.\n"

def answer (g : Game) (me : Bot) (asked : String) (messages : List Message) : String :=
  preamble me ++ history g messages ++
    s!"You were asked: \"{asked}\". Reply with your answer only, one or two sentences.\n"

def help (g : Game) (me : Bot) (kind : MessageKind) (messages : List Message) : String :=
  s!"You are coaching {me.name}, a person in a chat game who must seem human and spot the AIs.\n" ++
    history g messages ++
    match kind, g.question with
    | .answer, some q => s!"Suggest a natural answer to \"{q}\". Reply with the answer only.\n"
    | _, _ => "Suggest one question likely to expose an AI. Reply with the question only.\n"

end Prompt

end ImitationGame
