import SpritexPay.Evolution

/-! The database without what customers type in. No statement but the two that
write these columns depends on them, so erasing them commutes with executing a
statement. -/

set_option autoImplicit false

namespace SpritexPay

open Relational Resumption

def Charge.redact (charge : Charge) : Charge :=
  { charge with gateway := none, claimedTrxId := none, claimedSender := none }

namespace Db

def redact (db : Db) : Db :=
  { db with charges := db.charges.update (fun _ => true) Charge.redact }

/-- The databases are the same in every column that no customer writes. -/
def Agree (left right : Db) : Prop := left.redact = right.redact

theorem Agree.trans {first second third : Db} (before : first.Agree second)
    (after : second.Agree third) : first.Agree third := Eq.trans before after

end Db

namespace Statement

/-- The statements of the hosted page, which store what a customer typed in. -/
def ofCustomer : Statement → Bool
  | .setChargeGateway _ _ | .setChargeClaim _ _ _ => true
  | _ => false

/-- The answers that hold a charge. -/
def redact : (op : Statement) → op.Answer → op.Answer
  | .chargeById _, found => found.map Charge.redact
  | .chargeByPayRef _, found => found.map Charge.redact
  | _, answer => answer

def Alike (op : Statement) (left right : op.Answer) : Prop := op.redact left = op.redact right

end Statement

namespace Db

variable {db : Db} {now : Timestamp}

@[simp] theorem rows_redact (db : Db) :
    db.redact.charges.rows = db.charges.rows.map Charge.redact := rfl

@[simp] theorem ledgerTransactions_redact : db.redact.ledgerTransactions = db.ledgerTransactions :=
  rfl

@[simp] theorem smsEvents_redact : db.redact.smsEvents = db.smsEvents := rfl

@[simp] theorem webhookDeliveries_redact : db.redact.webhookDeliveries = db.webhookDeliveries := rfl

@[simp] theorem invoices_redact : db.redact.invoices = db.invoices := rfl

@[simp] theorem invoiceItems_redact : db.redact.invoiceItems = db.invoiceItems := rfl

@[simp] theorem paymentLinks_redact : db.redact.paymentLinks = db.paymentLinks := rfl

@[simp] theorem allowedDomains_redact : db.redact.allowedDomains = db.allowedDomains := rfl

theorem find?_redact (db : Db) (choose : Charge → Bool)
    (blind : ∀ charge : Charge, choose charge.redact = choose charge) :
    db.redact.charges.find? choose = (db.charges.find? choose).map Charge.redact := by
  have same : choose ∘ Charge.redact = choose := funext blind
  rw [Table.find?, rows_redact, List.find?_map, same]
  rfl

theorem count_redact (db : Db) (choose : Charge → Bool)
    (blind : ∀ charge : Charge, choose charge.redact = choose charge) :
    db.redact.charges.count choose = db.charges.count choose := by
  have same : choose ∘ Charge.redact = choose := funext blind
  rw [Table.count, rows_redact, List.countP_map, same]
  rfl

theorem hasCharge_redact (id : String) : db.redact.hasCharge id = db.hasCharge id := by
  simp [hasCharge, List.any_map, Function.comp_def, Charge.redact]

theorem pendingByAmount_redact (amountMinor : Int64) :
    db.redact.pendingByAmount amountMinor = db.pendingByAmount amountMinor := by
  simp [pendingByAmount, List.filter_map, Function.comp_def, Charge.redact]

theorem insertCharge_redact (columns : NewCharge) :
    db.redact.insertCharge now columns = (db.insertCharge now columns).map redact := by
  unfold insertCharge
  split
  · rename_i positive
    have inserted : db.redact.charges.insert? (columns.row now positive) =
        (db.charges.insert? (columns.row now positive)).map fun charges =>
          charges.update (fun _ => true) Charge.redact := Table.insert?_update rfl
    rw [inserted]
    cases db.charges.insert? (columns.row now positive) <;> rfl
  · rfl

theorem setChargePaid_redact (id : String) :
    db.redact.setChargePaid now id = (db.setChargePaid now id).redact := by
  have same : (db.redact.setChargePaid now id).charges =
      (db.setChargePaid now id).redact.charges := by
    refine Table.ext ?_
    simp only [setChargePaid, Table.rows_update, rows_redact, List.map_map]
    refine List.map_congr_left fun charge _ => ?_
    by_cases chosen : charge.id = id <;> simp [Charge.redact, chosen]
  exact congrArg (fun charges => { db with charges }) same

theorem ledgerWrite_redact (write : LedgerWrite) :
    ledgerWrite now db.redact write = (ledgerWrite now db write).map redact := by
  cases write with
  | insertTransaction id reference memo =>
      simp only [ledgerWrite, ledgerTransactions_redact]
      cases db.ledgerTransactions.insert? ⟨id, reference, memo, now⟩ <;> rfl
  | insertEntry txnId entry =>
      simp only [ledgerWrite]
      change (if db.ledgerTransactions.rows.any (·.id == txnId) then _ else _) = _
      split <;> rfl

theorem ledgerWrites_redact (writes : List LedgerWrite) :
    writes.foldlM (ledgerWrite now) db.redact =
      (writes.foldlM (ledgerWrite now) db).map redact := by
  induction writes generalizing db with
  | nil => rfl
  | cons write writes ih =>
      simp only [List.foldlM_cons, ledgerWrite_redact]
      cases ledgerWrite now db write with
      | error error => rfl
      | ok after => exact ih

theorem insertSmsEvent_redact (columns : NewSmsEvent) :
    db.redact.insertSmsEvent now columns = (db.insertSmsEvent now columns).map redact := by
  have known : columns.chargeId.all db.redact.hasCharge = columns.chargeId.all db.hasCharge :=
    congrArg columns.chargeId.all (funext hasCharge_redact)
  simp only [insertSmsEvent, known, smsEvents_redact]
  cases db.smsEvents.insert? (columns.row now) with
  | none => rfl
  | some smsEvents =>
      simp only
      split <;> rfl

theorem insertWebhook_redact (columns : NewWebhook) :
    db.redact.insertWebhook now columns = (db.insertWebhook now columns).map redact := by
  simp only [insertWebhook, hasCharge_redact, webhookDeliveries_redact]
  cases db.webhookDeliveries.insert? (columns.row now) with
  | none => rfl
  | some webhookDeliveries =>
      simp only
      split <;> rfl

theorem insertInvoice_redact (columns : NewInvoice) :
    db.redact.insertInvoice now columns = (db.insertInvoice now columns).map redact := by
  unfold insertInvoice
  split
  · rename_i positive
    rw [invoices_redact]
    cases db.invoices.insert? (columns.row now positive) <;> rfl
  · rfl

theorem insertInvoiceItem_redact (columns : NewInvoiceItem) :
    db.redact.insertInvoiceItem now columns = (db.insertInvoiceItem now columns).map redact := by
  simp only [insertInvoiceItem, invoiceItems_redact]
  generalize db.invoiceItems.insert? _ = inserted
  cases inserted with
  | none => rfl
  | some invoiceItems =>
      change (if db.invoices.rows.any (·.id == columns.invoiceId) then _ else _) = _
      simp only
      split <;> rfl

theorem insertPaymentLink_redact (columns : NewPaymentLink) :
    db.redact.insertPaymentLink now columns = (db.insertPaymentLink now columns).map redact := by
  unfold insertPaymentLink
  rw [paymentLinks_redact]
  cases db.paymentLinks.insert? (columns.row now) <;> rfl

theorem redact_setChargeGateway (payRef gateway : String) :
    (db.setChargeGateway payRef gateway).redact = db.redact := by
  have same : (db.setChargeGateway payRef gateway).redact.charges = db.redact.charges := by
    refine Table.ext ?_
    simp only [setChargeGateway, Table.rows_update, rows_redact, List.map_map]
    refine List.map_congr_left fun charge _ => ?_
    simp only [Function.comp_apply]
    split <;> rfl
  exact congrArg (fun charges => { db with charges }) same

theorem redact_setChargeClaim (payRef trxId : String) (sender : Option String) :
    (db.setChargeClaim payRef trxId sender).redact = db.redact := by
  have same : (db.setChargeClaim payRef trxId sender).redact.charges = db.redact.charges := by
    refine Table.ext ?_
    simp only [setChargeClaim, Table.rows_update, rows_redact, List.map_map]
    refine List.map_congr_left fun charge _ => ?_
    simp only [Function.comp_apply]
    split <;> rfl
  exact congrArg (fun charges => { db with charges }) same

end Db

namespace Statement

theorem stored_redact {stored redacted : Except SqlError Db}
    (same : redacted = stored.map Db.redact) :
    (do return ((), ← redacted) : Except SqlError (Unit × Db)) =
      (do return ((), ← stored) : Except SqlError (Unit × Db)).map fun result =>
        (result.1, result.2.redact) := by
  subst same
  cases stored <;> rfl

theorem exec_redact {op : Statement} (other : op.ofCustomer = false) (env : Env) (db : Db) :
    op.exec env db.redact =
      (op.exec env db).map fun result => (op.redact result.1, result.2.redact) := by
  cases op with
  | setChargeGateway | setChargeClaim => cases other
  | insertCharge columns => exact stored_redact (Db.insertCharge_redact columns)
  | ledgerTransaction writes => exact stored_redact (Db.ledgerWrites_redact writes)
  | insertSmsEvent columns => exact stored_redact (Db.insertSmsEvent_redact columns)
  | insertWebhook columns => exact stored_redact (Db.insertWebhook_redact columns)
  | insertInvoice columns => exact stored_redact (Db.insertInvoice_redact columns)
  | insertInvoiceItem columns => exact stored_redact (Db.insertInvoiceItem_redact columns)
  | insertPaymentLink columns => exact stored_redact (Db.insertPaymentLink_redact columns)
  | chargeById id =>
      have found := Db.find?_redact db (·.id == id) fun _ => rfl
      exact congrArg (fun answer => Except.ok (answer, db.redact)) found
  | chargeByPayRef payRef =>
      have found := Db.find?_redact db (·.payRef == some payRef) fun _ => rfl
      exact congrArg (fun answer => Except.ok (answer, db.redact)) found
  | chargeIdByPayRef payRef =>
      have found := Db.find?_redact db (·.payRef == some payRef) fun _ => rfl
      simp only [exec, found]
      cases db.charges.find? (·.payRef == some payRef) <;> rfl
  | pendingByAmount amountMinor =>
      exact congrArg (fun answer => Except.ok (answer, db.redact))
        (Db.pendingByAmount_redact amountMinor)
  | pendingCount =>
      have counted := Db.count_redact db (·.status == .pending) fun _ => rfl
      exact congrArg (fun answer => Except.ok (answer, db.redact)) counted
  | setChargePaid id =>
      exact congrArg (fun after => Except.ok ((), after)) (Db.setChargePaid_redact id)
  | accountBalance account =>
      simp only [exec]
      change (do return (← sumMinor ((db.ledgerEntries.filter _).map _), _)) = _
      cases sumMinor ((db.ledgerEntries.filter (·.account == account)).map (·.amountMinor)) <;> rfl
  | settledTotals gateway =>
      simp only [exec]
      change (do return ((← sumMinor ((db.smsEvents.rows.filter _).map _), _), _)) = _
      cases sumMinor ((db.smsEvents.rows.filter (Db.isSettled gateway)).map (·.amountMinor)) <;> rfl
  | insertDomain id domain =>
      simp only [exec, Db.allowedDomains_redact]
      cases db.allowedDomains.insert? ⟨id, domain, env.now⟩ <;> rfl
  | settlingTrx | insertAiParse | dueWebhooks | postWebhook | webhookDelivered | webhookFailed
  | webhookRetry | invoiceById | linkInvoice | settleInvoices | linkByRef | takeLinkUse
  | deleteDomain | domainCount | domainNamed => rfl

end Statement

end SpritexPay
