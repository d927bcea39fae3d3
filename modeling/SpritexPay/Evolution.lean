import SpritexPay.Resumption.Pool
import SpritexPay.StatementProperties

/-! What no statement can undo: rows stay, recorded messages and postings are
never touched again, and the terms of a charge, an invoice or a link are fixed
when it is inserted. -/

set_option autoImplicit false

namespace SpritexPay

open Relational Resumption

/-- Only the status, the choice and the claim of a charge are rewritten, and only to paid. -/
structure Charge.Grows (old new : Charge) : Prop where
  columns : new = { old with
    status := new.status, updatedAt := new.updatedAt, gateway := new.gateway,
    claimedTrxId := new.claimedTrxId, claimedSender := new.claimedSender }
  status : new.status = old.status ∨ new.status = .paid

/-- Only the status of an invoice and the checkout that collects it are rewritten. -/
structure Invoice.Grows (old new : Invoice) : Prop where
  columns : new = { old with
    status := new.status, chargeId := new.chargeId, payRef := new.payRef,
    updatedAt := new.updatedAt }
  status : new.status = old.status ∨ new.status = .paid

/-- Only the uses of a link are rewritten, and they only get fewer. -/
structure PaymentLink.Grows (old new : PaymentLink) : Prop where
  columns : ∃ uses : Nat, new = { old with quantity := old.quantity.map (· - (uses : Int)) }

structure WebhookDelivery.Grows (old new : WebhookDelivery) : Prop where
  columns : new = { old with
    status := new.status, attempts := new.attempts, nextAttemptAt := new.nextAttemptAt,
    lastError := new.lastError, updatedAt := new.updatedAt }

namespace Charge.Grows

variable {old new : Charge}

theorem id (grown : old.Grows new) : new.id = old.id := by
  rw [grown.columns]

theorem orderId (grown : old.Grows new) : new.orderId = old.orderId := by
  rw [grown.columns]

theorem amountMinor (grown : old.Grows new) : new.amountMinor = old.amountMinor := by
  rw [grown.columns]

theorem currency (grown : old.Grows new) : new.currency = old.currency := by
  rw [grown.columns]

theorem customerMsisdn (grown : old.Grows new) : new.customerMsisdn = old.customerMsisdn := by
  rw [grown.columns]

theorem callbackUrl (grown : old.Grows new) : new.callbackUrl = old.callbackUrl := by
  rw [grown.columns]

theorem payRef (grown : old.Grows new) : new.payRef = old.payRef := by
  rw [grown.columns]

theorem refl (charge : Charge) : charge.Grows charge := ⟨rfl, .inl rfl⟩

theorem trans {first second third : Charge} (before : first.Grows second)
    (after : second.Grows third) : first.Grows third where
  columns := by
    have last := after.columns
    rw [before.columns] at last
    exact last
  status := by
    rcases after.status with same | paid
    · rw [same]
      exact before.status
    · exact .inr paid

end Charge.Grows

namespace Invoice.Grows

variable {old new : Invoice}

theorem id (grown : old.Grows new) : new.id = old.id := by
  rw [grown.columns]

theorem amountMinor (grown : old.Grows new) : new.amountMinor = old.amountMinor := by
  rw [grown.columns]

theorem currency (grown : old.Grows new) : new.currency = old.currency := by
  rw [grown.columns]

theorem refl (invoice : Invoice) : invoice.Grows invoice := ⟨rfl, .inl rfl⟩

theorem trans {first second third : Invoice} (before : first.Grows second)
    (after : second.Grows third) : first.Grows third where
  columns := by
    have last := after.columns
    rw [before.columns] at last
    exact last
  status := by
    rcases after.status with same | paid
    · rw [same]
      exact before.status
    · exact .inr paid

end Invoice.Grows

namespace PaymentLink.Grows

variable {old new : PaymentLink}

theorem ref (grown : old.Grows new) : new.ref = old.ref := by
  obtain ⟨_, rfl⟩ := grown.columns
  rfl

theorem amountMinor (grown : old.Grows new) : new.amountMinor = old.amountMinor := by
  obtain ⟨_, rfl⟩ := grown.columns
  rfl

theorem currency (grown : old.Grows new) : new.currency = old.currency := by
  obtain ⟨_, rfl⟩ := grown.columns
  rfl

theorem status (grown : old.Grows new) : new.status = old.status := by
  obtain ⟨_, rfl⟩ := grown.columns
  rfl

theorem refl (link : PaymentLink) : link.Grows link := by
  refine ⟨0, ?_⟩
  cases link with
  | mk id ref productName amountMinor currency quantity status createdAt =>
      cases quantity <;> simp

theorem trans {first second third : PaymentLink} (before : first.Grows second)
    (after : second.Grows third) : first.Grows third := by
  obtain ⟨uses, rfl⟩ := before.columns
  obtain ⟨more, rfl⟩ := after.columns
  refine ⟨uses + more, ?_⟩
  cases first with
  | mk id ref productName amountMinor currency quantity status createdAt =>
      cases quantity <;> simp [Int.sub_sub]

end PaymentLink.Grows

namespace WebhookDelivery.Grows

variable {old new : WebhookDelivery}

theorem id (grown : old.Grows new) : new.id = old.id := by
  rw [grown.columns]

theorem chargeId (grown : old.Grows new) : new.chargeId = old.chargeId := by
  rw [grown.columns]

theorem url (grown : old.Grows new) : new.url = old.url := by
  rw [grown.columns]

theorem payload (grown : old.Grows new) : new.payload = old.payload := by
  rw [grown.columns]

theorem event (grown : old.Grows new) : new.event = old.event := by
  rw [grown.columns]

theorem refl (delivery : WebhookDelivery) : delivery.Grows delivery := ⟨rfl⟩

theorem trans {first second third : WebhookDelivery} (before : first.Grows second)
    (after : second.Grows third) : first.Grows third where
  columns := by
    have last := after.columns
    rw [before.columns] at last
    exact last

end WebhookDelivery.Grows

/-- Nothing is said of the rows that are new. -/
def anyRow {Row : Type} : Row → Prop := fun _ => True

theorem unstated {Row : Type} {same : Row → Row → Prop} (old new : Row) :
    same old new → anyRow old → anyRow new := fun _ => id

namespace Db

structure Evolves (before after : Db) : Prop where
  charges : Extends Charge.Grows anyRow before.charges.rows after.charges.rows
  ledgerTransactions : before.ledgerTransactions.rows <+: after.ledgerTransactions.rows
  ledgerEntries : before.ledgerEntries <+: after.ledgerEntries
  smsEvents : before.smsEvents.rows <+: after.smsEvents.rows
  webhookDeliveries :
    Extends WebhookDelivery.Grows anyRow before.webhookDeliveries.rows after.webhookDeliveries.rows
  invoices : Extends Invoice.Grows anyRow before.invoices.rows after.invoices.rows
  invoiceItems : before.invoiceItems.rows <+: after.invoiceItems.rows
  paymentLinks : Extends PaymentLink.Grows anyRow before.paymentLinks.rows after.paymentLinks.rows

namespace Evolves

theorem refl (db : Db) : db.Evolves db where
  charges := .refl Charge.Grows.refl _
  ledgerTransactions := List.prefix_rfl
  ledgerEntries := List.prefix_rfl
  smsEvents := List.prefix_rfl
  webhookDeliveries := .refl WebhookDelivery.Grows.refl _
  invoices := .refl Invoice.Grows.refl _
  invoiceItems := List.prefix_rfl
  paymentLinks := .refl PaymentLink.Grows.refl _

theorem trans {first second third : Db} (before : first.Evolves second)
    (after : second.Evolves third) : first.Evolves third where
  charges := before.charges.trans Charge.Grows.trans unstated after.charges
  ledgerTransactions := before.ledgerTransactions.trans after.ledgerTransactions
  ledgerEntries := before.ledgerEntries.trans after.ledgerEntries
  smsEvents := before.smsEvents.trans after.smsEvents
  webhookDeliveries := before.webhookDeliveries.trans WebhookDelivery.Grows.trans unstated
    after.webhookDeliveries
  invoices := before.invoices.trans Invoice.Grows.trans unstated after.invoices
  invoiceItems := before.invoiceItems.trans after.invoiceItems
  paymentLinks := before.paymentLinks.trans PaymentLink.Grows.trans unstated after.paymentLinks

end Evolves

/-! ## Every statement -/

variable {db after : Db} {now : Timestamp}

theorem evolves_charges {charges : Table Charge}
    (grown : Extends Charge.Grows anyRow db.charges.rows charges.rows) :
    db.Evolves { db with charges } := { Evolves.refl db with charges := grown }

theorem evolves_smsEvents {smsEvents : Table SmsEvent}
    (grown : db.smsEvents.rows <+: smsEvents.rows) : db.Evolves { db with smsEvents } :=
  { Evolves.refl db with smsEvents := grown }

theorem evolves_webhookDeliveries {webhookDeliveries : Table WebhookDelivery}
    (grown : Extends WebhookDelivery.Grows anyRow db.webhookDeliveries.rows
      webhookDeliveries.rows) :
    db.Evolves { db with webhookDeliveries } :=
  { Evolves.refl db with webhookDeliveries := grown }

theorem evolves_invoices {invoices : Table Invoice}
    (grown : Extends Invoice.Grows anyRow db.invoices.rows invoices.rows) :
    db.Evolves { db with invoices } := { Evolves.refl db with invoices := grown }

theorem evolves_paymentLinks {paymentLinks : Table PaymentLink}
    (grown : Extends PaymentLink.Grows anyRow db.paymentLinks.rows paymentLinks.rows) :
    db.Evolves { db with paymentLinks } := { Evolves.refl db with paymentLinks := grown }

theorem evolves_ledgerWrite {write : LedgerWrite} (written : ledgerWrite now db write = .ok after) :
    db.Evolves after := by
  cases write with
  | insertTransaction id reference memo =>
      simp only [ledgerWrite] at written
      split at written
      · rename_i ledgerTransactions stored
        cases written
        have grown : db.ledgerTransactions.rows <+: ledgerTransactions.rows := by
          rw [Table.rows_insert? stored]
          exact List.prefix_append _ _
        exact { Evolves.refl db with ledgerTransactions := grown }
      · cases written
  | insertEntry txnId entry =>
      simp only [ledgerWrite] at written
      split at written
      · cases written
        exact { Evolves.refl db with ledgerEntries := List.prefix_append _ _ }
      · cases written

theorem evolves_ledgerWrites {writes : List LedgerWrite}
    (written : writes.foldlM (ledgerWrite now) db = .ok after) : db.Evolves after :=
  ledgerWrites_relates Evolves.refl Evolves.trans evolves_ledgerWrite written

end Db

namespace Statement

variable {env : Env} {op : Statement} {answer : op.Answer} {db after : Db}

theorem exec_evolves (executed : op.exec env db = .ok (answer, after)) : db.Evolves after := by
  cases op with
  | insertCharge columns =>
      obtain ⟨_, charges, stored, rfl⟩ := Db.insertCharge_ok (stored_ok executed)
      exact Db.evolves_charges (Table.extends_insert? Charge.Grows.refl trivial stored)
  | setChargePaid id =>
      cases executed
      exact Db.evolves_charges (Table.extends_update Charge.Grows.refl fun charge =>
        ⟨rfl, .inr rfl⟩)
  | setChargeGateway payRef gateway =>
      cases executed
      exact Db.evolves_charges (Table.extends_update Charge.Grows.refl fun charge =>
        ⟨rfl, .inl rfl⟩)
  | setChargeClaim payRef trxId sender =>
      cases executed
      exact Db.evolves_charges (Table.extends_update Charge.Grows.refl fun charge =>
        ⟨rfl, .inl rfl⟩)
  | ledgerTransaction writes => exact Db.evolves_ledgerWrites (stored_ok executed)
  | insertSmsEvent columns =>
      obtain ⟨smsEvents, stored, _, rfl⟩ := Db.insertSmsEvent_ok (stored_ok executed)
      refine Db.evolves_smsEvents ?_
      rw [Table.rows_insert? stored]
      exact List.prefix_append _ _
  | insertWebhook columns =>
      obtain ⟨webhookDeliveries, stored, _, rfl⟩ := Db.insertWebhook_ok (stored_ok executed)
      exact Db.evolves_webhookDeliveries
        (Table.extends_insert? WebhookDelivery.Grows.refl trivial stored)
  | webhookDelivered id attempts =>
      cases executed
      exact Db.evolves_webhookDeliveries
        (Table.extends_update WebhookDelivery.Grows.refl fun _ => ⟨rfl⟩)
  | webhookFailed id attempts lastError =>
      cases executed
      exact Db.evolves_webhookDeliveries
        (Table.extends_update WebhookDelivery.Grows.refl fun _ => ⟨rfl⟩)
  | webhookRetry id attempts lastError delay =>
      cases executed
      exact Db.evolves_webhookDeliveries
        (Table.extends_update WebhookDelivery.Grows.refl fun _ => ⟨rfl⟩)
  | insertInvoice columns =>
      obtain ⟨_, invoices, stored, rfl⟩ := Db.insertInvoice_ok (stored_ok executed)
      exact Db.evolves_invoices (Table.extends_insert? Invoice.Grows.refl trivial stored)
  | linkInvoice id payRef chargeId =>
      cases executed
      exact Db.evolves_invoices (Table.extends_update Invoice.Grows.refl fun _ =>
        ⟨rfl, .inl rfl⟩)
  | settleInvoices chargeId =>
      cases executed
      exact Db.evolves_invoices (Table.extends_update Invoice.Grows.refl fun _ =>
        ⟨rfl, .inr rfl⟩)
  | insertPaymentLink columns =>
      obtain ⟨paymentLinks, stored, rfl⟩ := Db.insertPaymentLink_ok (stored_ok executed)
      exact Db.evolves_paymentLinks (Table.extends_insert? PaymentLink.Grows.refl trivial stored)
  | takeLinkUse ref =>
      cases executed
      exact Db.evolves_paymentLinks (Table.extends_update PaymentLink.Grows.refl fun _ =>
        ⟨1, rfl⟩)
  | insertInvoiceItem columns =>
      obtain ⟨invoiceItems, stored, rfl⟩ := Db.insertInvoiceItem_ok (stored_ok executed)
      have grown : db.invoiceItems.rows <+: invoiceItems.rows := by
        rw [Table.rows_insert? stored]
        exact List.prefix_append _ _
      exact { Db.Evolves.refl db with invoiceItems := grown }
  | insertAiParse | insertDomain | deleteDomain =>
      obtain ⟨_, rfl⟩ := exec_differsAt executed
      exact { Db.Evolves.refl db with }
  | _ =>
      rw [exec_reads rfl executed]
      exact .refl db

end Statement

/-! ## Replies -/

/-- A statement is executed, or refused without effect. -/
theorem reply_cases {faults : Bool} {op : Statement} {before after : Db}
    {reply : signature.Reply op} (replied : sqlite.Replies faults op before reply after) :
    (∃ env answer, op.exec env before = .ok (answer, after) ∧ reply = .ok answer) ∨
      ∃ error, reply = .error error ∧ after = before := by
  cases replied with
  | commit env =>
      cases executed : sqlite.exec env op before with
      | ok result =>
          obtain ⟨answer, db⟩ := result
          have applied := Machine.apply_ok executed
          refine .inl ⟨env, answer, ?_, congrArg Prod.fst applied⟩
          rw [congrArg Prod.snd applied]
          exact executed
      | error error =>
          have applied := Machine.apply_error executed
          exact .inr ⟨error, congrArg Prod.fst applied, congrArg Prod.snd applied⟩
  | fault => exact .inr ⟨_, rfl, rfl⟩

theorem reply_differsAt {faults : Bool} {op : Statement} {before after : Db}
    {reply : signature.Reply op} (replied : sqlite.Replies faults op before reply after) :
    before.DiffersAt after op.writes := by
  rcases reply_cases replied with ⟨env, answer, executed, _⟩ | ⟨error, _, rfl⟩
  · exact Statement.exec_differsAt executed
  · exact .refl after op.writes

theorem evolves_reply {faults : Bool} {op : Statement} {before after : Db}
    {reply : signature.Reply op} (replied : sqlite.Replies faults op before reply after) :
    before.Evolves after := by
  rcases reply_cases replied with ⟨env, answer, executed, _⟩ | ⟨error, _, rfl⟩
  · exact Statement.exec_evolves executed
  · exact .refl after

theorem evolves_apply (env : Env) (op : Statement) (db : Db) :
    db.Evolves (sqlite.apply env op db).2 :=
  evolves_reply (.commit env : sqlite.Replies false op db _ _)

end SpritexPay
