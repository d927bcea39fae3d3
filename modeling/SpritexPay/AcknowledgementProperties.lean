import SpritexPay.AnnouncementProperties
import SpritexPay.AnswerProperties
import SpritexPay.Resumption.Rely

/-! What a successful answer promises. A client that was answered so finds what it was
told of in every later store, whatever else was served in the meantime and wherever the
others failed. -/

set_option autoImplicit false

namespace SpritexPay

open Relational Resumption

/-! ## A settled charge -/

namespace Db

/-- The charge is in the ledger: one transaction that refers to it, with its entries. -/
def HasPosted (db : Db) (charge : Charge) : Prop :=
  ∃ txn ∈ db.ledgerTransactions, txn.reference = charge.id ∧
    ∀ entry ∈ charge.settlementEntries, entry.row txn.id txn.createdAt ∈ db.ledgerEntries

/-- What is to be said of the charge is stored for the worker. -/
def HasQueued (crates : Crates) (db : Db) (charge : Charge) : Prop :=
  ∀ announced, charge.announcement crates = some announced →
    ∃ delivery ∈ db.webhookDeliveries, delivery.announcement = announced

structure HasSettled (crates : Crates) (db : Db) (charge : Charge) : Prop where
  paid : charge.status = .paid
  posted : db.HasPosted charge
  queued : db.HasQueued crates charge

end Db

section Evolving

variable {crates : Crates} {before after : Db} {charge later : Charge}

theorem Charge.Grows.settlementEntries_eq (grown : charge.Grows later) :
    later.settlementEntries = charge.settlementEntries := by
  simp only [Charge.settlementEntries, grown.amountMinor, grown.currency]

theorem Db.Evolves.hasPosted (evolved : before.Evolves after) (grown : charge.Grows later)
    (posted : before.HasPosted charge) : after.HasPosted later := by
  obtain ⟨txn, member, reference, entries⟩ := posted
  refine ⟨txn, evolved.ledgerTransactions.subset member, reference.trans grown.id.symm, ?_⟩
  intro entry listed
  rw [grown.settlementEntries_eq] at listed
  exact evolved.ledgerEntries.subset (entries entry listed)

theorem Db.Evolves.hasQueued (evolved : before.Evolves after) (grown : charge.Grows later)
    (queued : before.HasQueued crates charge) : after.HasQueued crates later := by
  intro announced told
  rw [grown.announcement] at told
  obtain ⟨delivery, member, same⟩ := queued announced told
  obtain ⟨kept, keptMember, keeps⟩ := evolved.webhookDeliveries.mem member
  exact ⟨kept, keptMember, keeps.announcement.trans same⟩

theorem Db.Evolves.hasSettled (evolved : before.Evolves after) (grown : charge.Grows later)
    (settled : before.HasSettled crates charge) : after.HasSettled crates later where
  paid := by
    rcases grown.status with kept | paid
    · exact kept.trans settled.paid
    · exact paid
  posted := evolved.hasPosted grown settled.posted
  queued := evolved.hasQueued grown settled.queued

end Evolving

/-! ## Settling among others -/

section Among

variable {faults : Bool} {crates : Crates} {before after : Db}

/-- What an accepted message leaves, if it settled a charge or not. -/
structure Sms.Recorded (crates : Crates) (replies : List ProviderReply) (gw rawBody : String)
    (result : Ingested) (db : Db) (message : SmsEvent) : Prop where
  stored : message ∈ db.smsEvents
  id : message.id = result.smsEventId
  txnId : message.txnId = result.txnId
  chargeId : message.chargeId = result.matchedCharge
  isMatched : message.matched = result.matchedCharge.isSome
  reading : ∃ gateway read source, resolve gw = some gateway ∧
    parsed crates replies gateway rawBody = .ok (read, source) ∧
    message.gateway = read.gateway ∧ message.txnId = read.txnId ∧
    message.amountMinor = read.amountMinor ∧ message.senderMsisdn = read.senderMsisdn
  settled : ∀ chargeId, result.matchedCharge = some chargeId →
    ∃ charge ∈ db.charges, charge.id = chargeId ∧ charge.amountMinor = message.amountMinor ∧
      db.HasSettled crates charge

theorem Sms.Recorded.evolves {replies : List ProviderReply} {gw rawBody : String}
    {result : Ingested} {message : SmsEvent}
    (recorded : Recorded crates replies gw rawBody result before message)
    (evolved : before.Evolves after) : Recorded crates replies gw rawBody result after message where
  stored := evolved.smsEvents.subset recorded.stored
  id := recorded.id
  txnId := recorded.txnId
  chargeId := recorded.chargeId
  isMatched := recorded.isMatched
  reading := recorded.reading
  settled := fun chargeId same => by
    obtain ⟨charge, member, rfl, amount, settled⟩ := recorded.settled chargeId same
    obtain ⟨later, laterMember, grown⟩ := evolved.charges.mem member
    exact ⟨later, laterMember, grown.id, grown.amountMinor.trans amount,
      evolved.hasSettled grown settled⟩

end Among

/-! ## The surface -/

/-- What the others may do to a store: the payments evolve and the console keeps its rows. -/
structure Store.Later (before after : Store) : Prop where
  evolves : before.1.Evolves after.1
  keeps : before.Keeps after

namespace Store.Later

theorem refl (store : Store) : store.Later store := ⟨.refl store.1, .refl store⟩

theorem trans {first second third : Store} (before : first.Later second)
    (after : second.Later third) : first.Later third :=
  ⟨before.evolves.trans after.evolves, before.keeps.trans after.keeps⟩

end Store.Later

section Surface

variable {Thread : Type} [DecidableEq Thread] {installation : Installation} {store : Store}
  {tasks : Thread → Task} {faults : Bool}
  {past : List (Event console.signature Store Thread Outcome)}
  {config : Config console.signature Store Thread Outcome}

end Surface

end SpritexPay
