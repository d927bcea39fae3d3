import SpritexPay.Crates
import SpritexPay.Statement

/-! Hosted checkouts: the host whitelist of the `domain` module, and the
functions of the `checkout` module over charges that carry a public reference. -/

set_option autoImplicit false

namespace SpritexPay

open Binary64 Resumption

namespace Domain

/-- `text.split_once("://")`, the part after the separator. -/
def afterScheme : List Char → Option (List Char)
  | [] => none
  | ':' :: '/' :: '/' :: rest => some rest
  | _ :: rest => afterScheme rest

/-- The host of a URL; anything without one is hostless. -/
def hostOf (url : String) : Option String :=
  let rest := (afterScheme url.toList).getD url.toList
  let authority := rest.takeWhile (· != '/')
  let host := authority.takeWhile (· != ':')
  if host.isEmpty then none else some (String.ofList host)

def create (uuid domain : String) : Query SqlError Unit :=
  sql (.insertDomain ("dom_" ++ uuid) domain)

def delete (id : String) : Query SqlError Bool := do
  let affected ← sql (.deleteDomain id)
  return decide (0 < affected)

/-- An absent URL is allowed, and so is every URL while the list is empty. -/
def isAllowed : Option String → Query SqlError Bool
  | none => pure true
  | some url => do
      let count ← sql .domainCount
      if count = 0 then return true
      else
        match hostOf url with
        | none => return false
        | some host =>
            let hit ← sql (.domainNamed host)
            return hit.isSome

end Domain

structure CreateCheckout where
  fullName : Option String
  emailAddress : Option String
  mobileNumber : Option String
  amount : F64
  currency : String
  returnUrl : Option String
  webhookUrl : Option String
  metadata : Json

structure CheckoutCreated where
  sapId : String
  sapUrl : String
  deriving DecidableEq

inductive CheckoutError where
  | invalidAmount
  | notFound
  | domainNotAllowed
  | db (error : SqlError)
  deriving DecidableEq

instance : FromError SqlError CheckoutError := ⟨.db⟩

structure CheckoutUuids where
  charge : String
  payRef : String
  deriving DecidableEq

structure VerifyResult where
  sapId : String
  fullName : Option String
  emailAddress : Option String
  mobileNumber : Option String
  gateway : Option String
  amount : String
  currency : String
  transactionId : Option String
  sender : Option String
  metadata : Json
  status : String
  date : Timestamp
  deriving DecidableEq

def ChargeStatus.text : ChargeStatus → String
  | .pending => "pending"
  | .paid => "paid"
  | .failed => "failed"
  | .expired => "expired"

namespace Checkout

/-- `base_url.trim_end_matches('/')` -/
def trimEndSlashes (url : String) : String :=
  String.ofList (url.toList.reverse.dropWhile (· == '/')).reverse

/-- `(amount * 100.0).round() as i64` -/
def minorUnits (amount : F64) : Int64 := (amount.scale 100).round.toI64

def storedMetadata : Json → Option String
  | .null => none
  | .text compact => some compact

/-- The row of a checkout. `order_id` carries the unique constraint, and
`callback_url` makes the webhook worker deliver to the merchant. -/
def newCharge (uuids : CheckoutUuids) (req : CreateCheckout) : NewCharge :=
  let payRef := "pay_" ++ uuids.payRef
  { id := "chg_" ++ uuids.charge
    orderId := payRef
    amountMinor := minorUnits req.amount
    currency := req.currency
    customerName := req.fullName
    customerMsisdn := req.mobileNumber
    callbackUrl := req.webhookUrl
    payRef := some payRef
    customerEmail := req.emailAddress
    returnUrl := req.returnUrl
    webhookUrl := req.webhookUrl
    metadata := storedMetadata req.metadata }

/-- Both URLs must resolve to a whitelisted host. The second is not looked at
when the first is refused. -/
def urlsAllowed (req : CreateCheckout) : Query SqlError Bool := do
  if ← Domain.isAllowed req.returnUrl then Domain.isAllowed req.webhookUrl
  else return false

def createCheckout (baseUrl : String) (uuids : CheckoutUuids) (req : CreateCheckout) :
    Query CheckoutError CheckoutCreated :=
  if !req.amount.isFinite || req.amount.nonPositive then throw .invalidAmount
  else do
    if ← (urlsAllowed req).adapt CheckoutError.db then
      let _ ← sql (.insertCharge (newCharge uuids req))
      let payRef := "pay_" ++ uuids.payRef
      return { sapId := payRef, sapUrl := trimEndSlashes baseUrl ++ "/pay/" ++ payRef }
    else throw .domainNotAllowed

/-- Record which gateway the customer chose. Settlement is amount-matched. -/
def selectGateway (payRef gateway : String) : Query CheckoutError Unit := do
  let affected ← sql (.setChargeGateway payRef gateway)
  if affected = 0 then throw .notFound else return ()

/-- Store a customer-entered transaction id as a hint. It does not settle the charge. -/
def submitManual (payRef trxId : String) (sender : Option String) : Query CheckoutError Unit := do
  let affected ← sql (.setChargeClaim payRef trxId sender)
  if affected = 0 then throw .notFound else return ()

/-- `"paid"` shows as `"completed"`. -/
def publicStatus : ChargeStatus → String
  | .paid => "completed"
  | other => other.text

def verify (crates : Crates) (payRef : String) : Query CheckoutError VerifyResult := do
  match ← sql (.chargeByPayRef payRef) with
  | none => throw .notFound
  | some charge =>
      let settledTrx ← sql (.settlingTrx charge.id)
      return {
        sapId := charge.payRef.getD ""
        fullName := charge.customerName
        emailAddress := charge.customerEmail
        mobileNumber := charge.customerMsisdn
        gateway := charge.gateway
        amount := ((F64.ofI64 charge.amountMinor).unscale 100).toFixed2
        currency := charge.currency
        transactionId := settledTrx.or charge.claimedTrxId
        sender := charge.claimedSender
        metadata := (charge.metadata.bind crates.jsonFromStr).getD .null
        status := publicStatus charge.status
        date := charge.createdAt }

end Checkout

end SpritexPay
