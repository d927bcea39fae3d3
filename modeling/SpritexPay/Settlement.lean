import SpritexPay.Charge
import SpritexPay.Evolution

/-! The money a database accounts for: recorded messages, postings and paid
charges, the invariant that ties them together, and the statements that can
change any of it. -/

set_option autoImplicit false

namespace SpritexPay

open Relational Resumption

namespace Db

def postings (db : Db) (chargeId : String) : Nat :=
  db.ledgerTransactions.count (·.reference == chargeId)

def settlements (db : Db) (chargeId : String) : Nat := db.smsEvents.count (settles chargeId)

def recordings (db : Db) (gateway : Gateway) (txnId : String) : Nat :=
  db.smsEvents.count fun event => event.gateway == gateway && event.txnId == txnId

def notifications (db : Db) (chargeId : String) : Nat :=
  db.webhookDeliveries.count fun delivery =>
    delivery.chargeId == chargeId && delivery.event == "charge.paid"

def isPaid (db : Db) (chargeId : String) : Prop :=
  ∃ charge ∈ db.charges, charge.id = chargeId ∧ charge.status = .paid

instance (db : Db) (chargeId : String) : Decidable (db.isPaid chargeId) :=
  inferInstanceAs (Decidable (∃ charge ∈ db.charges, charge.id = chargeId ∧ charge.status = .paid))

/-- The entries of a ledger transaction, in the order they were written. -/
def entriesOf (db : Db) (txnId : String) : List Entry :=
  (db.ledgerEntries.filter (·.txnId == txnId)).map fun entry =>
    ⟨entry.account, entry.amountMinor, entry.currency⟩

/-- Money moves only with a recorded message behind it. -/
structure Sound (db : Db) : Prop where
  matchedCharge : ∀ event ∈ db.smsEvents, event.matched = true →
    ∃ charge ∈ db.charges, event.chargeId = some charge.id ∧
      event.amountMinor = charge.amountMinor
  posted : ∀ txn ∈ db.ledgerTransactions, ∃ charge ∈ db.charges,
    txn.reference = charge.id ∧ db.entriesOf txn.id = Charge.settlementEntries charge
  entryTxn : ∀ entry ∈ db.ledgerEntries, ∃ txn ∈ db.ledgerTransactions, entry.txnId = txn.id
  paid : ∀ chargeId, db.isPaid chargeId → 0 < db.postings chargeId

/-- The two databases hold the same rows in the tables that settling writes. -/
structure SameMoney (before after : Db) : Prop where
  smsEvents : after.smsEvents = before.smsEvents
  charges : after.charges = before.charges
  ledgerTransactions : after.ledgerTransactions = before.ledgerTransactions
  ledgerEntries : after.ledgerEntries = before.ledgerEntries
  invoices : after.invoices = before.invoices
  webhookDeliveries : after.webhookDeliveries = before.webhookDeliveries

/-- No message was recorded, nothing was posted and no charge became paid. -/
structure Quiet (before after : Db) : Prop where
  smsEvents : after.smsEvents = before.smsEvents
  ledgerTransactions : after.ledgerTransactions = before.ledgerTransactions
  ledgerEntries : after.ledgerEntries = before.ledgerEntries
  isPaid : ∀ chargeId, after.isPaid chargeId → before.isPaid chargeId

theorem SameMoney.refl (db : Db) : db.SameMoney db := ⟨rfl, rfl, rfl, rfl, rfl, rfl⟩

theorem Quiet.refl (db : Db) : db.Quiet db := ⟨rfl, rfl, rfl, fun _ paid => paid⟩

theorem SameMoney.quiet {before after : Db} (same : before.SameMoney after) :
    before.Quiet after where
  smsEvents := same.smsEvents
  ledgerTransactions := same.ledgerTransactions
  ledgerEntries := same.ledgerEntries
  isPaid := fun chargeId paid => by
    unfold Db.isPaid at paid ⊢
    rwa [same.charges] at paid

theorem sound_empty : Db.empty.Sound where
  matchedCharge := by simp [Db.empty]
  posted := by simp [Db.empty]
  entryTxn := by simp [Db.empty]
  paid := by simp [Db.isPaid, Db.empty]

end Db

/-! ## Quiet statements -/

/-- The statements that can record, post or flip a charge to paid. -/
def Statement.crediting : Statement → Bool
  | .insertSmsEvent _ | .ledgerTransaction _ | .setChargePaid _ => true
  | _ => false

/-- The statements only an ingested message issues. -/
def Statement.settling : Statement → Bool
  | .insertSmsEvent _ | .ledgerTransaction _ | .setChargePaid _ | .settleInvoices _
  | .insertWebhook _ => true
  | _ => false

theorem Statement.crediting_of_settling {op : Statement} (outside : op.settling = false) :
    op.crediting = false := by
  cases op <;> first | rfl | cases outside

def Relation.ofMoney : Relation → Bool
  | .charges | .ledger | .smsEvents | .webhookDeliveries | .invoices => true
  | .invoiceItems | .paymentLinks | .allowedDomains | .aiParseLog => false

namespace Db

variable {before after : Db}

theorem DiffersAt.sameMoney {relation : Option Relation} (differs : before.DiffersAt after relation)
    (outside : ∀ written, relation = some written → written.ofMoney = false) :
    before.SameMoney after := by
  cases relation with
  | none =>
      have same : after = before := differs
      rw [same]
      exact .refl before
  | some written =>
      have apart := outside written rfl
      cases written with
      | charges | ledger | smsEvents | webhookDeliveries | invoices => cases apart
      | invoiceItems | paymentLinks | allowedDomains | aiParseLog =>
          obtain ⟨_, rfl⟩ := differs
          exact ⟨rfl, rfl, rfl, rfl, rfl, rfl⟩

theorem quiet_update {choose : Charge → Bool} {set : Charge → Charge}
    {kept : ∀ charge, key (set charge) = key charge}
    (id : ∀ charge, (set charge).id = charge.id)
    (status : ∀ charge, (set charge).status = charge.status) :
    before.Quiet { before with charges := before.charges.update choose set kept } where
  smsEvents := rfl
  ledgerTransactions := rfl
  ledgerEntries := rfl
  isPaid := by
    rintro chargeId ⟨charge, member, rfl, paid⟩
    obtain ⟨old, oldMember, rfl⟩ := (Table.mem_update kept).mp member
    refine ⟨old, oldMember, ?_, ?_⟩
    · split
      · exact (id old).symm
      · rfl
    · by_cases chosen : choose old = true
      · simpa [chosen, status] using paid
      · simpa [chosen] using paid

end Db

theorem quiet_reply {faults : Bool} {op : Statement} {before after : Db}
    {reply : signature.Reply op} (quiet : op.crediting = false)
    (replied : sqlite.Replies faults op before reply after) : before.Quiet after := by
  rcases reply_cases replied with ⟨env, answer, executed, _⟩ | ⟨error, _, rfl⟩
  · cases op with
    | insertSmsEvent | ledgerTransaction | setChargePaid => cases quiet
    | insertCharge columns =>
        obtain ⟨positive, charges, stored, rfl⟩ :=
          Db.insertCharge_ok (Statement.stored_ok executed)
        refine ⟨rfl, rfl, rfl, ?_⟩
        rintro chargeId ⟨charge, member, id, paid⟩
        rcases (Table.mem_insert? stored).mp member with old | rfl
        · exact ⟨charge, old, id, paid⟩
        · cases paid
    | setChargeGateway payRef gateway =>
        cases executed
        exact Db.quiet_update (fun _ => rfl) fun _ => rfl
    | setChargeClaim payRef trxId sender =>
        cases executed
        exact Db.quiet_update (fun _ => rfl) fun _ => rfl
    | insertWebhook | webhookDelivered | webhookFailed | webhookRetry | insertInvoice
    | linkInvoice | settleInvoices | insertInvoiceItem | insertAiParse | insertPaymentLink
    | takeLinkUse | insertDomain | deleteDomain =>
        obtain ⟨_, rfl⟩ := Statement.exec_differsAt executed
        exact ⟨rfl, rfl, rfl, fun _ paid => paid⟩
    | _ =>
        rw [Statement.exec_reads rfl executed]
        exact .refl before
  · exact .refl after

theorem sameMoney_reply {faults : Bool} {op : Statement} {before after : Db}
    {reply : signature.Reply op}
    (outside : ∀ written, op.writes = some written → written.ofMoney = false)
    (replied : sqlite.Replies faults op before reply after) : before.SameMoney after :=
  (reply_differsAt replied).sameMoney outside

end SpritexPay
