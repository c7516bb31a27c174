import ImitationGame.Store.Basic

/-! The database: the store behind transactions, or no tables at all. A transaction that faults is
rolled back; what an operation refuses for its input alone it refuses without looking at a table. -/

namespace ImitationGame

def Refusal.aboutInput : Refusal → Bool
  | .emptyText | .textTooLong _ | .badDisplayName | .noNames | .turnDoesNotFit _ | .crash _ => true
  | _ => false

def Fault.withoutTables : Fault → Fault
  | .refused r => if r.aboutInput then .refused r else .noTables
  | .storage _ => .noTables

structure Database where
  store? : Option Store

namespace Database

def created : Database := ⟨some .empty⟩

def dropped : Database := ⟨none⟩

def ask {α : Type} (db : Database) (query : Store → Except Fault α) : Except Fault α :=
  match db.store? with
  | some s => query s
  | none =>
    match query .empty with
    | .error f => .error f.withoutTables
    | .ok _ => .error .noTables

def run {α : Type} (db : Database) (t : Transaction α) : Except Fault α × Database :=
  match db.ask t with
  | .ok (a, s) => (.ok a, ⟨some s⟩)
  | .error f => (.error f, db)

def applied (db : Database) : Nat := if db.store?.isSome then 1 else 0

theorem run_created {α : Type} (s : Store) (t : Transaction α) :
    run ⟨some s⟩ t = match t s with
      | .ok (a, s') => (.ok a, ⟨some s'⟩)
      | .error f => (.error f, ⟨some s⟩) := rfl

end Database

inductive Migration where
  | up | down | fresh | status
deriving DecidableEq, Repr

def Migration.apply (m : Migration) (db : Database) : Database :=
  match m with
  | .up => if db.store?.isSome then db else .created
  | .down => .dropped
  | .fresh => .created
  | .status => db

end ImitationGame
