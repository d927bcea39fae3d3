import SpritexPay.Invoice
import SpritexPay.Ledger
import SpritexPay.Webhook

/-! Charges. Creating one is pure bookkeeping; `markPaid` settles one, which
posts it to the ledger, flips its status and notifies whoever waits for it. -/

set_option autoImplicit false

namespace SpritexPay

open Resumption

structure CreateCharge where
  orderId : String
  amountMinor : Int64
  currency : String
  customerName : Option String
  customerMsisdn : Option String
  callbackUrl : Option String
  deriving DecidableEq

inductive ChargeError where
  | invalidAmount
  | duplicateOrder (orderId : String)
  | notFound
  | db (error : SqlError)
  deriving DecidableEq

instance : FromError SqlError ChargeError := ⟨.db⟩

/-- A balance error is a programming fault, reported with its text. -/
def ChargeError.ofLedger : LedgerError → ChargeError
  | .db error => .db error
  | .unbalanced sum =>
      .db (.protocol ("ledger transaction does not balance: entries sum to " ++ toString sum ++
        ", expected 0"))
  | .tooFewEntries => .db (.protocol "ledger transaction needs at least two entries")

structure SettlementUuids where
  ledger : String
  webhook : String
  deriving DecidableEq

namespace Charge

/-- Ledger account that funds land in once a charge is confirmed paid. -/
def merchantReceivable : String := "merchant:receivable"

/-- Contra account representing the customer's obligation. -/
def customerClearing : String := "customer:clearing"

def get (id : String) : Query ChargeError Charge := do
  match ← sql (.chargeById id) with
  | some charge => return charge
  | none => throw .notFound

def newCharge (uuid : String) (req : CreateCharge) : NewCharge where
  id := "chg_" ++ uuid
  orderId := req.orderId
  amountMinor := req.amountMinor
  currency := req.currency
  customerName := req.customerName
  customerMsisdn := req.customerMsisdn
  callbackUrl := req.callbackUrl

def create (uuid : String) (req : CreateCharge) : Query ChargeError Charge :=
  if req.amountMinor ≤ 0 then throw .invalidAmount
  else do
    match ← trySql (.insertCharge (newCharge uuid req)) with
    | .error .uniqueViolation => throw (.duplicateOrder req.orderId)
    | .error error => throw (.db error)
    | .ok _ => get ("chg_" ++ uuid)

def settlementEntries (charge : Charge) : List Entry :=
  [.debit merchantReceivable charge.amountMinor charge.currency,
    .credit customerClearing charge.amountMinor charge.currency]

def settlementMemo (charge : Charge) : String :=
  "charge " ++ charge.id ++ " settled for order " ++ charge.orderId

def paidPayload (crates : Crates) (charge : Charge) : String :=
  crates.jsonObject [("event", .string "charge.paid"), ("charge_id", .string charge.id),
    ("order_id", .string charge.orderId), ("amount_minor", .integer charge.amountMinor),
    ("currency", .string charge.currency), ("status", .string "paid")]

def notifyPaid (crates : Crates) (uuid : String) (charge : Charge) : Query ChargeError Unit :=
  match charge.callbackUrl with
  | none => pure ()
  | some url => do
      let _ ← (Webhook.enqueue uuid charge.id url "charge.paid" (paidPayload crates charge)).adapt
        ChargeError.db

/-- Settle a confirmed charge: post the balanced ledger transaction, flip its
status, settle the invoice it was collecting and queue the notification. -/
def markPaid (crates : Crates) (uuids : SettlementUuids) (id : String) :
    Query ChargeError Unit := do
  let charge ← get id
  (Ledger.post ("ltx_" ++ uuids.ledger) charge.id (settlementMemo charge)
    (settlementEntries charge)).adapt ChargeError.ofLedger
  let _ ← sql (.setChargePaid id)
  (Invoice.settleForCharge id).adapt ChargeError.db
  notifyPaid crates uuids.webhook charge

end Charge

end SpritexPay
