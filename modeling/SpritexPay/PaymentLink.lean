import SpritexPay.Checkout

/-! Payment links: one reusable link, many checkouts. A link either pins an
amount or leaves it to the customer. -/

set_option autoImplicit false

namespace SpritexPay

open Binary64 Resumption

structure CreatePaymentLink where
  productName : String
  amountMinor : Option Int64
  currency : Option String
  quantity : Option Int64
  deriving DecidableEq

inductive LinkError where
  | notFound
  | inactive
  | amountRequired
  | db (error : SqlError)
  deriving DecidableEq

instance : FromError SqlError LinkError := ⟨.db⟩

structure LinkUuids where
  link : String
  ref : String
  deriving DecidableEq

namespace PaymentLink

def load (ref : String) : Query LinkError (Option PaymentLink) := sql (.linkByRef ref)

def create (uuids : LinkUuids) (req : CreatePaymentLink) : Query LinkError PaymentLink := do
  let ref := String.ofList (uuids.ref.toList.take 12)
  let currency := (req.currency.filter fun currency => !currency.isEmpty).getD "BDT"
  let _ ← sql (.insertPaymentLink
    { id := "lnk_" ++ uuids.link, ref, productName := req.productName,
      amountMinor := req.amountMinor, currency, quantity := req.quantity.map Int64.toInt })
  match ← load ref with
  | some link => return link
  | none => throw .notFound

def checkoutRequest (link : PaymentLink) (amountMinor : Int64) : CreateCheckout where
  fullName := none
  emailAddress := none
  mobileNumber := none
  amount := (F64.ofI64 amountMinor).unscale 100
  currency := link.currency
  returnUrl := none
  webhookUrl := none
  metadata := .null

/-- Consume one use when the link is quantity-limited. -/
def consumeUse (ref : String) : Option Int → Query LinkError Unit
  | none => pure ()
  | some quantity => if 0 < quantity then sql (.takeLinkUse ref) else pure ()

/-- Open a link. An error of the checkout surfaces as a missing amount. -/
def openLink (baseUrl : String) (uuids : CheckoutUuids) (ref : String)
    (amountOverride : Option Int64) : Query LinkError CheckoutCreated := do
  match ← load ref with
  | none => throw .notFound
  | some link =>
      if link.status ≠ .active then throw .inactive
      else
        match link.amountMinor.or amountOverride with
        | none => throw .amountRequired
        | some amountMinor =>
            consumeUse ref link.quantity
            (Checkout.createCheckout baseUrl uuids (checkoutRequest link amountMinor)).adapt
              fun _ => LinkError.amountRequired

end PaymentLink

end SpritexPay
