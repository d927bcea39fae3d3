import SpritexPay.Relational.Table
import Mathlib.Data.List.MinMax

/-! The tables of the engine, as the migrations declare them. Unique indexes
are part of the table types and `CHECK (amount_minor > 0)` is a field of the
rows it constrains. Timestamps are instants in milliseconds. -/

set_option autoImplicit false

namespace SpritexPay

open Relational

abbrev Timestamp := Nat

/-- The gateways `gateway::resolve` knows. -/
inductive Gateway where
  | bkash
  | nagad
  deriving DecidableEq, Repr

def Gateway.id : Gateway → String
  | .bkash => "bkash"
  | .nagad => "nagad"

inductive ChargeStatus where
  | pending
  | paid
  | failed
  | expired
  deriving DecidableEq, Repr

structure Charge where
  id : String
  orderId : String
  amountMinor : Int64
  amountPositive : 0 < amountMinor
  currency : String
  customerName : Option String
  customerMsisdn : Option String
  callbackUrl : Option String
  status : ChargeStatus
  createdAt : Timestamp
  updatedAt : Timestamp
  payRef : Option String
  customerEmail : Option String
  returnUrl : Option String
  webhookUrl : Option String
  metadata : Option String
  gateway : Option String
  claimedTrxId : Option String
  claimedSender : Option String
  deriving DecidableEq

instance : Indexed Charge := .both Charge.id Charge.orderId

theorem Charge.toInt_pos (charge : Charge) : 0 < charge.amountMinor.toInt :=
  Int64.lt_iff_toInt_lt.mp charge.amountPositive

structure LedgerTransaction where
  id : String
  reference : String
  memo : String
  createdAt : Timestamp
  deriving DecidableEq

instance : Indexed LedgerTransaction := .single LedgerTransaction.id

structure LedgerEntry where
  txnId : String
  account : String
  amountMinor : Int64
  currency : String
  createdAt : Timestamp
  deriving DecidableEq

inductive ParseSource where
  | regex
  | ai
  deriving DecidableEq, Repr

structure SmsEvent where
  id : String
  gateway : Gateway
  txnId : String
  amountMinor : Int64
  senderMsisdn : Option String
  chargeId : Option String
  rawSha256 : String
  matched : Bool
  receivedAt : Timestamp
  parseSource : ParseSource
  deriving DecidableEq

instance : Indexed SmsEvent := .both SmsEvent.id fun event => (event.gateway, event.txnId)

inductive DeliveryStatus where
  | pending
  | delivered
  | failed
  deriving DecidableEq, Repr

structure WebhookDelivery where
  id : String
  chargeId : String
  url : String
  payload : String
  event : String
  status : DeliveryStatus
  attempts : Int
  maxAttempts : Int
  nextAttemptAt : Timestamp
  lastError : Option String
  createdAt : Timestamp
  updatedAt : Timestamp
  deriving DecidableEq

instance : Indexed WebhookDelivery := .single WebhookDelivery.id

inductive InvoiceStatus where
  | unpaid
  | paid
  | refunded
  | canceled
  deriving DecidableEq, Repr

structure Invoice where
  id : String
  number : String
  customerId : Option String
  amountMinor : Int64
  amountPositive : 0 < amountMinor
  currency : String
  status : InvoiceStatus
  chargeId : Option String
  payRef : Option String
  createdAt : Timestamp
  updatedAt : Timestamp
  deriving DecidableEq

instance : Indexed Invoice := .both Invoice.id Invoice.number

structure InvoiceItem where
  id : String
  invoiceId : String
  description : String
  quantity : Int64
  unitMinor : Int64
  createdAt : Timestamp
  deriving DecidableEq

instance : Indexed InvoiceItem := .single InvoiceItem.id

inductive LinkStatus where
  | active
  | inactive
  deriving DecidableEq, Repr

structure PaymentLink where
  id : String
  ref : String
  productName : String
  amountMinor : Option Int64
  currency : String
  quantity : Option Int
  status : LinkStatus
  createdAt : Timestamp
  deriving DecidableEq

instance : Indexed PaymentLink := .both PaymentLink.id PaymentLink.ref

structure Domain where
  id : String
  domain : String
  createdAt : Timestamp
  deriving DecidableEq

instance : Indexed Domain := .both Domain.id Domain.domain

structure AiParse where
  gateway : Gateway
  rawSha256 : String
  rawBody : String
  provider : String
  success : Bool
  txnId : Option String
  amountMinor : Option Int64
  senderMsisdn : Option String
  createdAt : Timestamp
  deriving DecidableEq

structure Db where
  charges : Table Charge
  ledgerTransactions : Table LedgerTransaction
  ledgerEntries : List LedgerEntry
  smsEvents : Table SmsEvent
  webhookDeliveries : Table WebhookDelivery
  invoices : Table Invoice
  invoiceItems : Table InvoiceItem
  paymentLinks : Table PaymentLink
  allowedDomains : Table Domain
  aiParseLog : List AiParse

/-- The database right after the migrations. -/
def Db.empty : Db where
  charges := ∅
  ledgerTransactions := ∅
  ledgerEntries := []
  smsEvents := ∅
  webhookDeliveries := ∅
  invoices := ∅
  invoiceItems := ∅
  paymentLinks := ∅
  allowedDomains := ∅
  aiParseLog := []

end SpritexPay
