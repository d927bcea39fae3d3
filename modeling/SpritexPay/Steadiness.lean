import SpritexPay.ApiProperties

/-! What a request that is not a message leaves alone: no message is recorded,
nothing is posted or queued, every charge keeps its status, and the charges that
are new are pending. -/

set_option autoImplicit false

namespace SpritexPay

open Relational Resumption

structure Charge.Keeps (old new : Charge) : Prop where
  grown : old.Grows new
  status : new.status = old.status

def Charge.isPending (charge : Charge) : Prop := charge.status = .pending

theorem Charge.Keeps.refl (charge : Charge) : charge.Keeps charge := ⟨.refl charge, rfl⟩

theorem Charge.Keeps.trans {first second third : Charge} (before : first.Keeps second)
    (after : second.Keeps third) : first.Keeps third :=
  ⟨before.grown.trans after.grown, after.status.trans before.status⟩

theorem Charge.Keeps.isPending {old new : Charge} (kept : old.Keeps new)
    (pending : old.isPending) : new.isPending := kept.status.trans pending

namespace Db

structure Steady (before after : Db) : Prop where
  smsEvents : after.smsEvents = before.smsEvents
  ledgerTransactions : after.ledgerTransactions = before.ledgerTransactions
  ledgerEntries : after.ledgerEntries = before.ledgerEntries
  charges : Extends Charge.Keeps Charge.isPending before.charges.rows after.charges.rows
  webhookDeliveries : Extends WebhookDelivery.Grows (fun _ => False)
    before.webhookDeliveries.rows after.webhookDeliveries.rows

namespace Steady

theorem refl (db : Db) : db.Steady db :=
  ⟨rfl, rfl, rfl, .refl Charge.Keeps.refl _, .refl WebhookDelivery.Grows.refl _⟩

theorem trans {first second third : Db} (before : first.Steady second)
    (after : second.Steady third) : first.Steady third where
  smsEvents := after.smsEvents.trans before.smsEvents
  ledgerTransactions := after.ledgerTransactions.trans before.ledgerTransactions
  ledgerEntries := after.ledgerEntries.trans before.ledgerEntries
  charges := before.charges.trans Charge.Keeps.trans (fun _ _ => Charge.Keeps.isPending)
    after.charges
  webhookDeliveries := before.webhookDeliveries.trans WebhookDelivery.Grows.trans
    (fun _ _ _ => id) after.webhookDeliveries

theorem ofCharges {db : Db} {charges : Table Charge}
    (kept : Extends Charge.Keeps Charge.isPending db.charges.rows charges.rows) :
    db.Steady { db with charges } := { Steady.refl db with charges := kept }

theorem ofWebhooks {db : Db} {webhookDeliveries : Table WebhookDelivery}
    (kept : Extends WebhookDelivery.Grows (fun _ => False) db.webhookDeliveries.rows
      webhookDeliveries.rows) : db.Steady { db with webhookDeliveries } :=
  { Steady.refl db with webhookDeliveries := kept }

end Steady

end Db

theorem steady_reply {faults : Bool} {op : Statement} {before after : Db}
    {reply : signature.Reply op} (aside : op.aside)
    (replied : sqlite.Replies faults op before reply after) : before.Steady after := by
  rcases reply_cases replied with ⟨env, answer, executed, _⟩ | ⟨error, _, rfl⟩
  · cases op with
    | insertSmsEvent | ledgerTransaction | setChargePaid | settleInvoices | insertWebhook =>
        cases aside
    | insertCharge columns =>
        obtain ⟨_, _, stored, rfl⟩ := Db.insertCharge_ok (Statement.stored_ok executed)
        refine .ofCharges (Table.extends_insert? Charge.Keeps.refl ?_ stored)
        rfl
    | setChargeGateway payRef gateway =>
        cases executed
        exact .ofCharges (Table.extends_update Charge.Keeps.refl fun _ =>
          ⟨⟨rfl, .inl rfl⟩, rfl⟩)
    | setChargeClaim payRef trxId sender =>
        cases executed
        exact .ofCharges (Table.extends_update Charge.Keeps.refl fun _ =>
          ⟨⟨rfl, .inl rfl⟩, rfl⟩)
    | webhookDelivered | webhookFailed | webhookRetry =>
        cases executed
        exact .ofWebhooks (Table.extends_update WebhookDelivery.Grows.refl fun _ =>
          ⟨rfl⟩)
    | insertInvoice | linkInvoice | insertInvoiceItem | insertAiParse | insertPaymentLink
    | takeLinkUse | insertDomain | deleteDomain =>
        obtain ⟨_, rfl⟩ := Statement.exec_differsAt executed
        exact { Db.Steady.refl before with }
    | _ =>
        rw [Statement.exec_reads rfl executed]
        exact .refl before
  · exact .refl after

theorem steady_served {service : Service} {request : Request} {before after : Db}
    {response : Response} (other : request.isIngest = false)
    (served : sqlite.Runs (request.program service) before response after) :
    before.Steady after := by
  refine (served.relates (request.uses_program service other) Db.Steady.refl Db.Steady.trans
    ?_).2
  intro env op db aside
  exact steady_reply aside (.commit env : sqlite.Replies false op db _ _)

end SpritexPay
