import SpritexPay.ApiProperties
import SpritexPay.Resumption.Protocol
import Mathlib.Data.Multiset.Count
import Mathlib.Data.Multiset.Basic

/-! The protocol that ingested messages follow against each other. Every
message holds a flight that says how far it has come: it records an event, posts
a ledger transaction and flips the status, and each of these steps is paid for
by the flight being in the stage before it. -/

set_option autoImplicit false

namespace SpritexPay

open Relational Resumption

inductive Stage where
  | waiting
  | recorded (chargeId : String) (gateway : Gateway) (txnId : String)
  | posted (chargeId : String) (gateway : Gateway) (txnId : String)
  | settled (chargeId : String) (gateway : Gateway) (txnId : String)
  deriving DecidableEq

/-- A message, by the ledger identifier it has drawn, and its stage. -/
structure Flight where
  ledgerId : String
  stage : Stage
  deriving DecidableEq

namespace Stage

/-- The message has recorded an event for the charge and not posted it. -/
@[simp] def credits (chargeId : String) : Stage → Bool
  | recorded charge _ _ => charge == chargeId
  | _ => false

/-- The message is on its way to flip the status of the charge. -/
@[simp] def settles (chargeId : String) : Stage → Bool
  | recorded charge _ _ | posted charge _ _ => charge == chargeId
  | _ => false

/-- The message has recorded an event for the charge. -/
@[simp] def concerns (chargeId : String) : Stage → Bool
  | waiting => false
  | recorded charge _ _ | posted charge _ _ | settled charge _ _ => charge == chargeId

@[simp] def carries (gateway : Gateway) (txnId : String) : Stage → Bool
  | waiting => false
  | recorded _ event id | posted _ event id | settled _ event id => event == gateway && id == txnId

@[simp] def hasPosted : Stage → Bool
  | waiting | recorded _ _ _ => false
  | posted _ _ _ | settled _ _ _ => true

end Stage

def flightsAt (property : Stage → Bool) (flights : Multiset Flight) : Nat :=
  flights.countP fun flight => property flight.stage = true

section Counting

variable {property : Stage → Bool}

@[simp] theorem flightsAt_add (left right : Multiset Flight) :
    flightsAt property (left + right) = flightsAt property left + flightsAt property right :=
  Multiset.countP_add _ _ _

@[simp] theorem flightsAt_zero : flightsAt property 0 = 0 := rfl

@[simp] theorem flightsAt_singleton (flight : Flight) :
    flightsAt property {flight} = if property flight.stage then 1 else 0 := by
  rw [← Multiset.cons_zero, flightsAt, Multiset.countP_cons, Multiset.countP_zero, zero_add]

/-- A flight that moves on is counted where both its stages are. -/
theorem flightsAt_moved (stage : Stage) {ledgerId : String} {later : Stage}
    {frame : Multiset Flight} (same : property later = property stage) :
    flightsAt property ({⟨ledgerId, later⟩} + frame) =
      flightsAt property ({⟨ledgerId, stage⟩} + frame) := by
  rw [flightsAt_add, flightsAt_add, flightsAt_singleton, flightsAt_singleton, same]

end Counting

/-! ## The invariant of the pool -/

/-- What ties the database to the flights of the pool that started from `start`.
`fresh` says that the ledger identifiers drawn are distinct and new. -/
structure Holds (start : Db) (fresh : Prop) (db : Db) (flights : Multiset Flight) : Prop where
  sound : start.Sound → db.Sound
  /-- A posting uses up a recorded event, and so does a flight about to post. -/
  credited : ∀ chargeId, db.postings chargeId + flightsAt (Stage.credits chargeId) flights +
    start.settlements chargeId ≤ db.settlements chargeId + start.postings chargeId
  /-- A flight past its recording has its own row under the unique index. -/
  recorded : ∀ gateway txnId, flightsAt (Stage.carries gateway txnId) flights +
    start.recordings gateway txnId ≤ db.recordings gateway txnId
  /-- And its own matched event of the charge. -/
  concerned : ∀ chargeId, flightsAt (Stage.concerns chargeId) flights +
    start.settlements chargeId ≤ db.settlements chargeId
  /-- An event recorded for a charge is followed by its status, or by a flight. -/
  covered : ∀ chargeId, start.settlements chargeId < db.settlements chargeId →
    db.isPaid chargeId ∨ 0 < flightsAt (Stage.settles chargeId) flights
  distinct : fresh → (flights.map Flight.ledgerId).Nodup
  unused : fresh → ∀ flight ∈ flights, ∀ txn ∈ db.ledgerTransactions,
    txn.id = flight.ledgerId → flight.stage.hasPosted = true

namespace Holds

variable {start db after : Db} {fresh : Prop} {flights frame : Multiset Flight} {ledgerId : String}
  {now : Timestamp}

theorem quiet (holds : Holds start fresh db flights) (evolved : db.Evolves after)
    (quiet : db.Quiet after) : Holds start fresh after flights where
  sound := fun sound => (holds.sound sound).quiet (fun _ => evolved.charges.mem) quiet
  credited := fun chargeId => by
    rw [quiet.postings, quiet.settlements]
    exact holds.credited chargeId
  recorded := fun gateway txnId => by
    rw [quiet.recordings]
    exact holds.recorded gateway txnId
  concerned := fun chargeId => by
    rw [quiet.settlements]
    exact holds.concerned chargeId
  covered := fun chargeId more => by
    rw [quiet.settlements] at more
    rcases holds.covered chargeId more with paid | settling
    · exact .inl (evolved.isPaid paid)
    · exact .inr settling
  distinct := holds.distinct
  unused := fun isFresh => by
    rw [quiet.ledgerTransactions]
    exact holds.unused isFresh

section Record

variable {row : SmsEvent} {smsEvents : Table SmsEvent} {stage : Stage}

theorem record (holds : Holds start fresh db ({⟨ledgerId, .waiting⟩} + frame))
    (stored : db.smsEvents.insert? row = some smsEvents) {charge : Charge}
    (member : charge ∈ db.charges) (reference : row.chargeId = some charge.id)
    (isMatched : row.matched = true) (amount : row.amountMinor = charge.amountMinor) :
    Holds start fresh { db with smsEvents }
      ({⟨ledgerId, .recorded charge.id row.gateway row.txnId⟩} + frame) where
  sound := fun sound => (holds.sound sound).record stored fun _ =>
    ⟨charge, member, reference, amount⟩
  credited := fun chargeId => by
    have before := holds.credited chargeId
    rw [Db.settlements_record stored]
    simp only [flightsAt_add, flightsAt_singleton, Stage.credits, Db.settles, reference, isMatched,
      Bool.and_true] at before ⊢
    change db.postings chargeId + _ + _ ≤ _
    by_cases same : charge.id = chargeId <;> simp [same] at before ⊢ <;> omega
  recorded := fun gateway txnId => by
    have before := holds.recorded gateway txnId
    rw [Db.recordings_record stored]
    simp only [flightsAt_add, flightsAt_singleton, Stage.carries] at before ⊢
    by_cases same : (row.gateway == gateway && row.txnId == txnId) = true <;>
      simp only [same, if_true, Bool.false_eq_true, if_false] at before ⊢ <;> omega
  concerned := fun chargeId => by
    have before := holds.concerned chargeId
    rw [Db.settlements_record stored]
    simp only [flightsAt_add, flightsAt_singleton, Stage.concerns, Db.settles, reference, isMatched,
      Bool.and_true] at before ⊢
    by_cases same : charge.id = chargeId <;> simp [same] at before ⊢ <;> omega
  covered := fun chargeId more => by
    rw [Db.settlements_record stored] at more
    simp only [flightsAt_add, flightsAt_singleton, Stage.settles]
    by_cases same : charge.id = chargeId
    · exact .inr (by simp [same])
    · have earlier : start.settlements chargeId < db.settlements chargeId := by
        simpa [Db.settles, reference, same] using more
      rcases holds.covered chargeId earlier with paid | settling
      · exact .inl paid
      · simp only [flightsAt_add, flightsAt_singleton, Stage.settles] at settling
        exact .inr (by simpa [same] using settling)
  distinct := fun isFresh => by simpa using holds.distinct isFresh
  unused := fun isFresh flight member txn txnMember same => by
    rcases Multiset.mem_add.mp member with own | other
    · obtain rfl := Multiset.mem_singleton.mp own
      have posted := holds.unused isFresh ⟨ledgerId, .waiting⟩ (by simp) txn txnMember same
      cases posted
    · exact holds.unused isFresh flight (by simp [other]) txn txnMember same

theorem recordUnmatched (holds : Holds start fresh db flights)
    (stored : db.smsEvents.insert? row = some smsEvents) (unmatched : row.matched = false) :
    Holds start fresh { db with smsEvents } flights where
  sound := fun sound => (holds.sound sound).record stored (by simp [unmatched])
  credited := fun chargeId => by
    rw [Db.settlements_record stored]
    change db.postings chargeId + _ + _ ≤ _
    simpa [Db.settles, unmatched] using holds.credited chargeId
  recorded := fun gateway txnId => by
    rw [Db.recordings_record stored]
    exact (holds.recorded gateway txnId).trans (Nat.le_add_right _ _)
  concerned := fun chargeId => by
    rw [Db.settlements_record stored]
    exact (holds.concerned chargeId).trans (Nat.le_add_right _ _)
  covered := fun chargeId more => by
    rw [Db.settlements_record stored] at more
    exact holds.covered chargeId (by simpa [Db.settles, unmatched] using more)
  distinct := holds.distinct
  unused := holds.unused

end Record

section Post

variable {charge : Charge} {gateway : Gateway} {txnId memo : String}
  {ledgerTransactions : Table LedgerTransaction}

theorem post (holds :
      Holds start fresh db ({⟨ledgerId, .recorded charge.id gateway txnId⟩} + frame))
    (member : charge ∈ db.charges) (stored :
      db.ledgerTransactions.insert? ⟨ledgerId, charge.id, memo, now⟩ = some ledgerTransactions) :
    Holds start fresh { db with
        ledgerTransactions
        ledgerEntries :=
          db.ledgerEntries ++ (Charge.settlementEntries charge).map (·.row ledgerId now) }
      ({⟨ledgerId, .posted charge.id gateway txnId⟩} + frame) where
  sound := fun sound => (holds.sound sound).post member stored
  credited := fun chargeId => by
    have before := holds.credited chargeId
    rw [Db.postings_post stored]
    change _ ≤ db.settlements chargeId + _
    simp only [flightsAt_add, flightsAt_singleton, Stage.credits] at before ⊢
    by_cases same : (charge.id == chargeId) = true <;>
      simp only [same, if_true, Bool.false_eq_true, if_false] at before ⊢ <;> omega
  recorded := fun event id => by
    rw [flightsAt_moved (.recorded charge.id gateway txnId)]
    · exact holds.recorded event id
    · rfl
  concerned := fun chargeId => by
    rw [flightsAt_moved (.recorded charge.id gateway txnId)]
    · exact holds.concerned chargeId
    · rfl
  covered := fun chargeId more => by
    rw [flightsAt_moved (.recorded charge.id gateway txnId)]
    · exact holds.covered chargeId more
    · rfl
  distinct := fun isFresh => by simpa using holds.distinct isFresh
  unused := fun isFresh flight member txn txnMember same => by
    rcases Multiset.mem_add.mp member with own | other
    · obtain rfl := Multiset.mem_singleton.mp own
      rfl
    · rcases (Table.mem_insert? stored).mp txnMember with old | rfl
      · exact holds.unused isFresh flight (by simp [other]) txn old same
      · have distinct := holds.distinct isFresh
        have apart : ∀ flight ∈ frame, flight.ledgerId ≠ ledgerId := by
          simp only [Multiset.singleton_add, Multiset.map_cons, Multiset.nodup_cons,
            Multiset.mem_map, not_exists, not_and] at distinct
          exact distinct.1
        exact absurd same.symm (apart flight other)

/-- A fresh identifier is not in the ledger while its flight has not posted. -/
theorem postable (holds :
      Holds start fresh db ({⟨ledgerId, .recorded charge.id gateway txnId⟩} + frame))
    (isFresh : fresh) (memo : String) (now : Timestamp) :
    ∃ ledgerTransactions,
      db.ledgerTransactions.insert? ⟨ledgerId, charge.id, memo, now⟩ = some ledgerTransactions := by
  cases stored : db.ledgerTransactions.insert? ⟨ledgerId, charge.id, memo, now⟩ with
  | some ledgerTransactions => exact ⟨ledgerTransactions, rfl⟩
  | none =>
      obtain ⟨txn, member, same⟩ := Table.insert?_eq_none_iff.mp stored
      have used := holds.unused isFresh ⟨ledgerId, .recorded charge.id gateway txnId⟩ (by simp)
        txn member (by simpa [key, clash] using same)
      cases used

theorem pay (holds :
      Holds start fresh db ({⟨ledgerId, .posted charge.id gateway txnId⟩} + frame))
    (member : charge ∈ db.charges) (posted : 0 < db.postings charge.id) :
    Holds start fresh (db.setChargePaid now charge.id)
      ({⟨ledgerId, .settled charge.id gateway txnId⟩} + frame) where
  sound := fun sound => (holds.sound sound).pay posted
  credited := fun chargeId => by
    rw [flightsAt_moved (.posted charge.id gateway txnId)]
    · exact holds.credited chargeId
    · rfl
  recorded := fun event id => by
    rw [flightsAt_moved (.posted charge.id gateway txnId)]
    · exact holds.recorded event id
    · rfl
  concerned := fun chargeId => by
    rw [flightsAt_moved (.posted charge.id gateway txnId)]
    · exact holds.concerned chargeId
    · rfl
  covered := fun chargeId more => by
    by_cases same : charge.id = chargeId
    · exact .inl (Db.isPaid_setChargePaid.mpr (.inr ⟨same, charge, member, rfl⟩))
    · rcases holds.covered chargeId more with paid | settling
      · exact .inl (Db.isPaid_setChargePaid.mpr (.inl paid))
      · simp only [flightsAt_add, flightsAt_singleton, Stage.settles] at settling ⊢
        exact .inr (by simpa [same] using settling)
  distinct := fun isFresh => by simpa using holds.distinct isFresh
  unused := fun isFresh flight member txn txnMember same => by
    rcases Multiset.mem_add.mp member with own | other
    · obtain rfl := Multiset.mem_singleton.mp own
      rfl
    · exact holds.unused isFresh flight (by simp [other]) txn txnMember same

end Post

end Holds

/-! ## What a request knows -/

def postedRows (act : Act signature Db) : Nat :=
  act.after.ledgerTransactions.rows.length - act.before.ledgerTransactions.rows.length

def RecordedFor (chargeId : String) (log : List (Act signature Db)) : Prop :=
  ∃ columns before after, ⟨.insertSmsEvent columns, .ok (), before, after⟩ ∈ log ∧
    columns.chargeId = some chargeId ∧ columns.matched = true

def SawPending (chargeId : String) (log : List (Act signature Db)) : Prop :=
  ∃ act ∈ log, ∃ charge ∈ act.after.charges, charge.id = chargeId ∧ charge.status = .pending

/-- A request is in `markPaid` or has been there. -/
def ReachedMarkPaid (point : Point signature Response) (log : List (Act signature Db)) : Prop :=
  (∃ id, point = .running (.chargeById id)) ∨ ∃ act ∈ log, ∃ id, act.op = .chargeById id

def Statement.settles (chargeId : String) : Statement → Prop
  | .chargeById id | .setChargePaid id => id = chargeId
  | .ledgerTransaction (.insertTransaction _ reference _ :: _) => reference = chargeId
  | _ => False

def SettlesNext (chargeId : String) (point : Point signature Response) : Prop :=
  ∃ op, point = .running op ∧ op.settles chargeId

def Request.key (service : Service) : Request → Option (Gateway × String)
  | .ingest _ replies gw rawBody =>
      (Sms.transaction service.crates replies gw rawBody).map fun parsed =>
        (parsed.gateway, parsed.txnId)
  | _ => none

structure Owns (service : Service) (faults : Bool) (fresh : Prop) (request : Request)
    (point : Point signature Response) (log : List (Act signature Db))
    (share : Multiset Flight) : Prop where
  pays : ∀ id, point = .running (.setChargePaid id) →
    request.isIngest = true ∧ RecordedFor id log ∧ SawPending id log
  reaches : ∀ gateway txnId, request.key service = some (gateway, txnId) →
    ReachedMarkPaid point log → 0 < flightsAt (Stage.carries gateway txnId) share
  posts : ∀ gateway txnId, request.key service = some (gateway, txnId) →
    (log.map postedRows).sum ≤ flightsAt (Stage.carries gateway txnId) share
  /-- Without failures a flight that has recorded an event is never left behind. -/
  flies : faults = false → fresh → ∀ chargeId, 0 < flightsAt (Stage.settles chargeId) share →
    SettlesNext chargeId point
  flown : request.isIngest = true → ∀ chargeId, SettlesNext chargeId point →
    0 < flightsAt (Stage.concerns chargeId) share
  refuses : point = .finished (.ingested (.error .duplicate)) →
    ∀ act ∈ log, act.before.SameMoney act.after

end SpritexPay
