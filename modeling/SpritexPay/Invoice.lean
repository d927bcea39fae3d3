import SpritexPay.Checkout

/-! Invoices: itemized bills that collect through the hosted checkout. -/

set_option autoImplicit false

namespace SpritexPay

open Binary64 Resumption

structure LineItem where
  description : String
  quantity : Int64
  unitMinor : Int64
  deriving DecidableEq

structure CreateInvoice where
  number : Option String
  customerId : Option String
  currency : Option String
  items : List LineItem
  deriving DecidableEq

inductive InvoiceError where
  | invalidAmount
  | notFound
  | db (error : SqlError)
  deriving DecidableEq

instance : FromError SqlError InvoiceError := ⟨.db⟩

def InvoiceError.ofCheckout : CheckoutError → InvoiceError
  | .notFound => .notFound
  | .invalidAmount => .invalidAmount
  | .domainNotAllowed => .invalidAmount
  | .db error => .db error

structure InvoiceUuids where
  invoice : String
  item : Nat → String

namespace Invoice

def get (id : String) : Query SqlError (Option Invoice) := sql (.invoiceById id)

def total (items : List LineItem) : Int64 :=
  items.foldl (fun sum item => sum + item.quantity * item.unitMinor) 0

def insertItems (invoiceId : String) (uuid : Nat → String) :
    Nat → List LineItem → Query InvoiceError Unit
  | _, [] => pure ()
  | index, item :: rest => do
      let _ ← sql (.insertInvoiceItem
        { id := "itm_" ++ uuid index, invoiceId, description := item.description,
          quantity := item.quantity, unitMinor := item.unitMinor })
      insertItems invoiceId uuid (index + 1) rest

/-- Draft an invoice from its line items. The number defaults to one made from
the first eight digits of the identifier. -/
def create (uuids : InvoiceUuids) (req : CreateInvoice) : Query InvoiceError Invoice :=
  let amountMinor := total req.items
  if amountMinor ≤ 0 then throw .invalidAmount
  else do
    let id := "inv_" ++ uuids.invoice
    let number := req.number.getD ("INV-" ++ String.ofList ((id.toList.drop 4).take 8))
    let currency := req.currency.getD "BDT"
    let _ ← sql (.insertInvoice { id, number, customerId := req.customerId, amountMinor, currency })
    insertItems id uuids.item 0 req.items
    match ← (get id).adapt InvoiceError.db with
    | some invoice => return invoice
    | none => throw .notFound

def checkoutRequest (invoice : Invoice) : CreateCheckout where
  fullName := none
  emailAddress := none
  mobileNumber := none
  amount := (F64.ofI64 invoice.amountMinor).unscale 100
  currency := invoice.currency
  returnUrl := none
  webhookUrl := none
  metadata := .null

/-- Open a hosted checkout to collect this invoice and record the linkage.
Settlement matches on the internal charge id, which is looked up by the public
reference of the checkout. -/
def issuePayment (baseUrl : String) (uuids : CheckoutUuids) (id : String) :
    Query InvoiceError CheckoutCreated := do
  match ← (get id).adapt InvoiceError.db with
  | none => throw .notFound
  | some invoice =>
      let created ← (Checkout.createCheckout baseUrl uuids (checkoutRequest invoice)).adapt
        InvoiceError.ofCheckout
      let chargeId ← sql (.chargeIdByPayRef created.sapId)
      let _ ← sql (.linkInvoice id created.sapId chargeId)
      return created

/-- Mark any unpaid invoice bound to this charge as paid. -/
def settleForCharge (chargeId : String) : Query SqlError Unit := sql (.settleInvoices chargeId)

end Invoice

end SpritexPay
