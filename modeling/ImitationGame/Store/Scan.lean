import ImitationGame.Store.Basic

namespace ImitationGame

namespace Instant

def onCalendar (t : Instant) : Except Fault Instant :=
  if t.isOnCalendar then .ok t else .error (.refused (.crash .timeOutOfRange))

def before (now : Instant) (span : Int) : Except Fault Instant := onCalendar (now - seconds span)

def stored (t : Instant) : Except Fault Timestamp :=
  if t.isStorable then .ok (.instant t) else .error .unwritable

end Instant

namespace Store

def ascending (ids : List Int) : List Int := Sorted.sort (fun a b => a ≤ b) ids

def pending (s : Store) (stage : Stage) : List Int :=
  ascending ((s.games.rows.filter fun r =>
    r.stage == some stage && r.handled == .ofFlag false).map GameRow.id)

def createdBy (s : Store) (cutoff : Timestamp) : List Int :=
  ascending ((s.games.rows.filter fun r => r.createdAt.upTo cutoff).map GameRow.id)

def expired (s : Store) (now : Instant) (age : Int) : Except Fault (List Int) := do
  let cutoff ← now.before age
  return if cutoff.isStorable then s.createdBy (.instant cutoff) else []

end Store

end ImitationGame
