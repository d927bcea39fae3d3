import SpritexPay.Api
import SpritexPay.Resumption.Beside

/-! The audit log. A recorder and the reader of the activity feed are all there
is to it: the log stands beside the tables that the operations write. -/

set_option autoImplicit false

namespace SpritexPay

open Resumption

structure Activity where
  id : Nat
  entity : String
  entityId : String
  action : String
  actor : String
  detail : Option String
  createdAt : Timestamp
  deriving DecidableEq

namespace Activity

/-- The identifier that an INTEGER PRIMARY KEY mints. -/
def nextId (log : List Activity) : Nat := (log.map (·.id)).foldr max 0 + 1

def record (entity entityId action : String) (actor detail : Option String) (now : Timestamp)
    (log : List Activity) : List Activity :=
  log ++ [⟨nextId log, entity, entityId, action, actor.getD "admin", detail, now⟩]

/-- The newest first. A negative limit is none to SQLite. -/
def list (limit : Int) (log : List Activity) : List Activity :=
  let newest := log.mergeSort fun left right => decide (right.id ≤ left.id)
  if limit < 0 then newest else newest.take limit.toNat

/-- The row is about the transaction, or about the charge that it settled. -/
def Identifies (row : Activity) (txn : LedgerTransaction) : Prop :=
  (row.entity = "charge" ∧ row.entityId = txn.reference) ∨ row.entityId = txn.id

end Activity

/-- The database together with its audit log. -/
abbrev Journal := Db × List Activity

/-- Every ledger transaction has a row in the audit log. -/
def Audited (journal : Journal) : Prop :=
  ∀ txn ∈ journal.1.ledgerTransactions, ∃ row ∈ journal.2, row.Identifies txn

def audited : Machine signature Env Journal := sqlite.beside (List Activity)

/-- The requests against a database that was just migrated. -/
def Service.audit {Thread : Type} (service : Service) (requests : Thread → Request) :
    Config signature Journal Thread Response :=
  ⟨(Db.empty, []), fun thread => (requests thread).program service⟩

end SpritexPay
