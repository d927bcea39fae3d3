import Mathlib.Algebra.Ring.Int.Defs
import SpritexPay.Schema
import SpritexPay.Resumption.Failing

/-! The SQL statements the engine executes, and what each one does to the
database. A statement is atomic: it either has its whole effect or none. The
only statement that is not SQL is the POST of the webhook worker. -/

set_option autoImplicit false

namespace SpritexPay

open Relational Resumption

inductive SqlError where
  | uniqueViolation
  | checkViolation
  | foreignKeyViolation
  | integerOverflow
  | protocol (message : String)
  /-- The statement failed for a reason that is not in the data. -/
  | unavailable
  deriving DecidableEq, Repr

inductive PostOutcome where
  | status (code : Nat)
  | transport (error : String)
  deriving DecidableEq, Repr

/-- What a statement meets when it is executed: the clock it reads and, for a
POST, the answer of the other side. -/
structure Env where
  now : Timestamp
  post : PostOutcome

/-! ## Written columns -/

/-- The columns of `INSERT INTO charges`. The direct API leaves the hosted
checkout columns NULL. -/
structure NewCharge where
  id : String
  orderId : String
  amountMinor : Int64
  currency : String
  customerName : Option String
  customerMsisdn : Option String
  callbackUrl : Option String
  payRef : Option String := none
  customerEmail : Option String := none
  returnUrl : Option String := none
  webhookUrl : Option String := none
  metadata : Option String := none
  deriving DecidableEq

def NewCharge.row (columns : NewCharge) (now : Timestamp)
    (positive : 0 < columns.amountMinor) : Charge where
  id := columns.id
  orderId := columns.orderId
  amountMinor := columns.amountMinor
  amountPositive := positive
  currency := columns.currency
  customerName := columns.customerName
  customerMsisdn := columns.customerMsisdn
  callbackUrl := columns.callbackUrl
  status := .pending
  createdAt := now
  updatedAt := now
  payRef := columns.payRef
  customerEmail := columns.customerEmail
  returnUrl := columns.returnUrl
  webhookUrl := columns.webhookUrl
  metadata := columns.metadata
  gateway := none
  claimedTrxId := none
  claimedSender := none

/-- `ledger::Entry` -/
structure Entry where
  account : String
  amountMinor : Int64
  currency : String
  deriving DecidableEq

/-- The statements inside the transaction of `ledger::post`. -/
inductive LedgerWrite where
  | insertTransaction (id reference memo : String)
  | insertEntry (txnId : String) (entry : Entry)
  deriving DecidableEq

structure NewSmsEvent where
  id : String
  gateway : Gateway
  txnId : String
  amountMinor : Int64
  senderMsisdn : Option String
  chargeId : Option String
  rawSha256 : String
  matched : Bool
  parseSource : ParseSource
  deriving DecidableEq

def NewSmsEvent.row (columns : NewSmsEvent) (now : Timestamp) : SmsEvent where
  id := columns.id
  gateway := columns.gateway
  txnId := columns.txnId
  amountMinor := columns.amountMinor
  senderMsisdn := columns.senderMsisdn
  chargeId := columns.chargeId
  rawSha256 := columns.rawSha256
  matched := columns.matched
  receivedAt := now
  parseSource := columns.parseSource

structure NewAiParse where
  gateway : Gateway
  rawSha256 : String
  rawBody : String
  provider : String
  success : Bool
  txnId : Option String
  amountMinor : Option Int64
  senderMsisdn : Option String
  deriving DecidableEq

structure NewWebhook where
  id : String
  chargeId : String
  url : String
  payload : String
  event : String
  deriving DecidableEq

def NewWebhook.row (columns : NewWebhook) (now : Timestamp) : WebhookDelivery where
  id := columns.id
  chargeId := columns.chargeId
  url := columns.url
  payload := columns.payload
  event := columns.event
  status := .pending
  attempts := 0
  maxAttempts := 8
  nextAttemptAt := now
  lastError := none
  createdAt := now
  updatedAt := now

structure NewInvoice where
  id : String
  number : String
  customerId : Option String
  amountMinor : Int64
  currency : String
  deriving DecidableEq

def NewInvoice.row (columns : NewInvoice) (now : Timestamp)
    (positive : 0 < columns.amountMinor) : Invoice where
  id := columns.id
  number := columns.number
  customerId := columns.customerId
  amountMinor := columns.amountMinor
  amountPositive := positive
  currency := columns.currency
  status := .unpaid
  chargeId := none
  payRef := none
  createdAt := now
  updatedAt := now

structure NewInvoiceItem where
  id : String
  invoiceId : String
  description : String
  quantity : Int64
  unitMinor : Int64
  deriving DecidableEq

def NewInvoiceItem.row (columns : NewInvoiceItem) (now : Timestamp) : InvoiceItem where
  id := columns.id
  invoiceId := columns.invoiceId
  description := columns.description
  quantity := columns.quantity
  unitMinor := columns.unitMinor
  createdAt := now

structure NewPaymentLink where
  id : String
  ref : String
  productName : String
  amountMinor : Option Int64
  currency : String
  quantity : Option Int
  deriving DecidableEq

def NewPaymentLink.row (columns : NewPaymentLink) (now : Timestamp) : PaymentLink where
  id := columns.id
  ref := columns.ref
  productName := columns.productName
  amountMinor := columns.amountMinor
  currency := columns.currency
  quantity := columns.quantity
  status := .active
  createdAt := now

/-- The columns `drain_due` reads. -/
structure Due where
  id : String
  url : String
  payload : String
  attempts : Int
  maxAttempts : Int
  deriving DecidableEq

/-! ## Statements -/

inductive Statement where
  | insertCharge (columns : NewCharge)
  | chargeById (id : String)
  | chargeByPayRef (payRef : String)
  | chargeIdByPayRef (payRef : String)
  | pendingByAmount (amountMinor : Int64)
  | pendingCount
  | setChargePaid (id : String)
  | setChargeGateway (payRef gateway : String)
  | setChargeClaim (payRef trxId : String) (sender : Option String)
  | ledgerTransaction (writes : List LedgerWrite)
  | accountBalance (account : String)
  | insertSmsEvent (columns : NewSmsEvent)
  | settlingTrx (chargeId : String)
  | settledTotals (gateway : Option String)
  | insertAiParse (columns : NewAiParse)
  | insertWebhook (columns : NewWebhook)
  | dueWebhooks
  | postWebhook (delivery : Due) (signature : String)
  | webhookDelivered (id : String) (attempts : Int)
  | webhookFailed (id : String) (attempts : Int) (lastError : String)
  | webhookRetry (id : String) (attempts : Int) (lastError : String) (delay : Int)
  | insertInvoice (columns : NewInvoice)
  | insertInvoiceItem (columns : NewInvoiceItem)
  | invoiceById (id : String)
  | linkInvoice (id payRef : String) (chargeId : Option String)
  | settleInvoices (chargeId : String)
  | insertPaymentLink (columns : NewPaymentLink)
  | linkByRef (ref : String)
  | takeLinkUse (ref : String)
  | insertDomain (id domain : String)
  | deleteDomain (id : String)
  | domainCount
  | domainNamed (host : String)
  deriving DecidableEq

@[reducible] def Statement.Answer : Statement → Type
  | .chargeById _ | .chargeByPayRef _ => Option Charge
  | .chargeIdByPayRef _ => Option String
  | .pendingByAmount _ => List (String × Option String)
  | .pendingCount | .domainCount => Nat
  | .setChargeGateway _ _ | .setChargeClaim _ _ _ | .deleteDomain _ => Nat
  | .accountBalance _ => Int64
  | .settlingTrx _ => Option String
  | .settledTotals _ => Int64 × Nat
  | .dueWebhooks => List Due
  | .postWebhook _ _ => PostOutcome
  | .invoiceById _ => Option Invoice
  | .linkByRef _ => Option PaymentLink
  | .domainNamed _ => Option String
  | _ => Unit

@[reducible] def signature : Signature where
  Op := Statement
  Answer := Statement.Answer
  Error := SqlError

/-! ## Effects -/

/-- `COALESCE(SUM(amount_minor), 0)`, an error when the sum leaves the 64-bit range. SQLite
also reports one when a partial sum does. -/
def sumMinor (amounts : List Int64) : Except SqlError Int64 :=
  let total := (amounts.map Int64.toInt).sum
  if Int64.minValue.toInt ≤ total ∧ total ≤ Int64.maxValue.toInt then .ok (Int64.ofInt total)
  else .error .integerOverflow

namespace Db

def hasCharge (db : Db) (id : String) : Bool := db.charges.rows.any (·.id == id)

def insertCharge (db : Db) (now : Timestamp) (columns : NewCharge) : Except SqlError Db :=
  if positive : 0 < columns.amountMinor then
    match db.charges.insert? (columns.row now positive) with
    | some charges => .ok { db with charges }
    | none => .error .uniqueViolation
  else .error .checkViolation

def setChargePaid (db : Db) (now : Timestamp) (id : String) : Db :=
  { db with charges := db.charges.update (·.id == id) fun charge =>
      { charge with status := .paid, updatedAt := now } }

/-- `WHERE pay_ref = ? AND status = 'pending'` -/
def isOpenCheckout (payRef : String) (charge : Charge) : Bool :=
  charge.payRef == some payRef && charge.status == .pending

def setChargeGateway (db : Db) (payRef gateway : String) : Db :=
  { db with charges := db.charges.update (isOpenCheckout payRef) fun charge =>
      { charge with gateway := some gateway } }

def setChargeClaim (db : Db) (payRef trxId : String) (sender : Option String) : Db :=
  { db with charges := db.charges.update (isOpenCheckout payRef) fun charge =>
      { charge with claimedTrxId := some trxId, claimedSender := sender } }

def pendingByAmount (db : Db) (amountMinor : Int64) : List (String × Option String) :=
  (db.charges.rows.filter fun charge =>
    charge.amountMinor == amountMinor && charge.status == .pending).map fun charge =>
      (charge.id, charge.customerMsisdn)

def ledgerWrite (now : Timestamp) (db : Db) : LedgerWrite → Except SqlError Db
  | .insertTransaction id reference memo =>
      match db.ledgerTransactions.insert? ⟨id, reference, memo, now⟩ with
      | some ledgerTransactions => .ok { db with ledgerTransactions }
      | none => .error .uniqueViolation
  | .insertEntry txnId entry =>
      if db.ledgerTransactions.rows.any (·.id == txnId) then
        .ok { db with ledgerEntries := db.ledgerEntries ++
          [⟨txnId, entry.account, entry.amountMinor, entry.currency, now⟩] }
      else .error .foreignKeyViolation

def insertSmsEvent (db : Db) (now : Timestamp) (columns : NewSmsEvent) : Except SqlError Db :=
  match db.smsEvents.insert? (columns.row now) with
  | none => .error .uniqueViolation
  | some smsEvents =>
      if columns.chargeId.all db.hasCharge then .ok { db with smsEvents }
      else .error .foreignKeyViolation

def settles (chargeId : String) (event : SmsEvent) : Bool :=
  event.chargeId == some chargeId && event.matched

/-- The events `reconcile` sums, of one gateway or of all. -/
def isSettled (gateway : Option String) (event : SmsEvent) : Bool :=
  event.matched && gateway.all (· == event.gateway.id)

def insertWebhook (db : Db) (now : Timestamp) (columns : NewWebhook) : Except SqlError Db :=
  match db.webhookDeliveries.insert? (columns.row now) with
  | none => .error .uniqueViolation
  | some webhookDeliveries =>
      if db.hasCharge columns.chargeId then .ok { db with webhookDeliveries }
      else .error .foreignKeyViolation

def dueWebhooks (db : Db) (now : Timestamp) : List Due :=
  let due := db.webhookDeliveries.rows.filter fun delivery =>
    delivery.status == .pending && decide (delivery.nextAttemptAt ≤ now)
  let sorted := due.mergeSort fun left right => decide (left.nextAttemptAt ≤ right.nextAttemptAt)
  (sorted.take 20).map fun delivery =>
    ⟨delivery.id, delivery.url, delivery.payload, delivery.attempts, delivery.maxAttempts⟩

def setWebhook (db : Db) (id : String) (set : WebhookDelivery → WebhookDelivery)
    (kept : ∀ delivery, key (set delivery) = key delivery) : Db :=
  { db with webhookDeliveries := db.webhookDeliveries.update (·.id == id) set kept }

def insertInvoice (db : Db) (now : Timestamp) (columns : NewInvoice) : Except SqlError Db :=
  if positive : 0 < columns.amountMinor then
    match db.invoices.insert? (columns.row now positive) with
    | some invoices => .ok { db with invoices }
    | none => .error .uniqueViolation
  else .error .checkViolation

def insertInvoiceItem (db : Db) (now : Timestamp) (columns : NewInvoiceItem) :
    Except SqlError Db :=
  match db.invoiceItems.insert? (columns.row now) with
  | none => .error .uniqueViolation
  | some invoiceItems =>
      if db.invoices.rows.any (·.id == columns.invoiceId) then .ok { db with invoiceItems }
      else .error .foreignKeyViolation

def linkInvoice (db : Db) (now : Timestamp) (id payRef : String) (chargeId : Option String) :
    Db :=
  { db with invoices := db.invoices.update (·.id == id) fun invoice =>
      { invoice with payRef := some payRef, chargeId, updatedAt := now } }

/-- `WHERE charge_id = ? AND status = 'unpaid'` -/
def collects (chargeId : String) (invoice : Invoice) : Bool :=
  invoice.chargeId == some chargeId && invoice.status == .unpaid

def settleInvoices (db : Db) (now : Timestamp) (chargeId : String) : Db :=
  { db with invoices := db.invoices.update (collects chargeId) fun invoice =>
      { invoice with status := .paid, updatedAt := now } }

def insertPaymentLink (db : Db) (now : Timestamp) (columns : NewPaymentLink) :
    Except SqlError Db :=
  match db.paymentLinks.insert? (columns.row now) with
  | some paymentLinks => .ok { db with paymentLinks }
  | none => .error .uniqueViolation

/-- `quantity - 1`, which is NULL where the quantity is. -/
def takeLinkUse (db : Db) (ref : String) : Db :=
  { db with paymentLinks := db.paymentLinks.update (·.ref == ref) fun link =>
      { link with quantity := link.quantity.map (· - 1) } }

end Db

/-- Execute one statement. A statement that writes nothing returns the database
it was given. -/
def Statement.exec (env : Env) : (op : Statement) → Db → Except SqlError (op.Answer × Db)
  | .insertCharge columns, db => do return ((), ← db.insertCharge env.now columns)
  | .chargeById id, db => .ok (db.charges.find? (·.id == id), db)
  | .chargeByPayRef payRef, db => .ok (db.charges.find? (·.payRef == some payRef), db)
  | .chargeIdByPayRef payRef, db =>
      .ok ((db.charges.find? (·.payRef == some payRef)).map (·.id), db)
  | .pendingByAmount amountMinor, db => .ok (db.pendingByAmount amountMinor, db)
  | .pendingCount, db => .ok (db.charges.count (·.status == .pending), db)
  | .setChargePaid id, db => .ok ((), db.setChargePaid env.now id)
  | .setChargeGateway payRef gateway, db =>
      .ok (db.charges.count (Db.isOpenCheckout payRef), db.setChargeGateway payRef gateway)
  | .setChargeClaim payRef trxId sender, db =>
      .ok (db.charges.count (Db.isOpenCheckout payRef), db.setChargeClaim payRef trxId sender)
  | .ledgerTransaction writes, db => do return ((), ← writes.foldlM (Db.ledgerWrite env.now) db)
  | .accountBalance account, db => do
      let balance ← sumMinor ((db.ledgerEntries.filter (·.account == account)).map (·.amountMinor))
      return (balance, db)
  | .insertSmsEvent columns, db => do return ((), ← db.insertSmsEvent env.now columns)
  | .settlingTrx chargeId, db =>
      .ok (((db.smsEvents.rows.filter (Db.settles chargeId)).argmax (·.receivedAt)).map (·.txnId),
        db)
  | .settledTotals gateway, db => do
      let settled := db.smsEvents.rows.filter (Db.isSettled gateway)
      let total ← sumMinor (settled.map (·.amountMinor))
      return ((total, settled.length), db)
  | .insertAiParse columns, db =>
      .ok ((), { db with aiParseLog := db.aiParseLog ++
        [{ gateway := columns.gateway, rawSha256 := columns.rawSha256,
           rawBody := columns.rawBody, provider := columns.provider,
           success := columns.success, txnId := columns.txnId,
           amountMinor := columns.amountMinor, senderMsisdn := columns.senderMsisdn,
           createdAt := env.now }] })
  | .insertWebhook columns, db => do return ((), ← db.insertWebhook env.now columns)
  | .dueWebhooks, db => .ok (db.dueWebhooks env.now, db)
  | .postWebhook _ _, db => .ok (env.post, db)
  | .webhookDelivered id attempts, db =>
      .ok ((), db.setWebhook id (fun delivery =>
        { delivery with status := .delivered, attempts, updatedAt := env.now }) fun _ => rfl)
  | .webhookFailed id attempts lastError, db =>
      .ok ((), db.setWebhook id (fun delivery =>
        { delivery with status := .failed, attempts, lastError := some lastError,
                        updatedAt := env.now }) fun _ => rfl)
  | .webhookRetry id attempts lastError delay, db =>
      .ok ((), db.setWebhook id (fun delivery =>
        { delivery with attempts, lastError := some lastError,
                        nextAttemptAt := env.now + delay.toNat * 1000,
                        updatedAt := env.now }) fun _ => rfl)
  | .insertInvoice columns, db => do return ((), ← db.insertInvoice env.now columns)
  | .insertInvoiceItem columns, db => do return ((), ← db.insertInvoiceItem env.now columns)
  | .invoiceById id, db => .ok (db.invoices.find? (·.id == id), db)
  | .linkInvoice id payRef chargeId, db => .ok ((), db.linkInvoice env.now id payRef chargeId)
  | .settleInvoices chargeId, db => .ok ((), db.settleInvoices env.now chargeId)
  | .insertPaymentLink columns, db => do return ((), ← db.insertPaymentLink env.now columns)
  | .linkByRef ref, db => .ok (db.paymentLinks.find? (·.ref == ref), db)
  | .takeLinkUse ref, db => .ok ((), db.takeLinkUse ref)
  | .insertDomain id domain, db =>
      match db.allowedDomains.insert? ⟨id, domain, env.now⟩ with
      | some allowedDomains => .ok ((), { db with allowedDomains })
      | none => .error .uniqueViolation
  | .deleteDomain id, db =>
      .ok (db.allowedDomains.count (·.id == id),
        { db with allowedDomains := db.allowedDomains.delete (·.id == id) })
  | .domainCount, db => .ok (db.allowedDomains.rows.length, db)
  | .domainNamed host, db =>
      .ok ((db.allowedDomains.find? (·.domain == host)).map (·.domain), db)

def sqlite : Machine signature Env Db where
  exec env op db := Statement.exec env op db
  fault := .unavailable

abbrev Query (Failure Value : Type) : Type := ExceptT Failure (Program signature) Value

abbrev sql {Failure : Type} [FromError SqlError Failure] (op : Statement) :
    Query Failure op.Answer := @query signature Failure _ op

abbrev trySql {Failure : Type} (op : Statement) : Query Failure (signature.Reply op) :=
  @attempt signature Failure op

end SpritexPay
