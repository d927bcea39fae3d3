import SpritexPay.Administration
import SpritexPay.PaymentLink
import SpritexPay.Sms

/-! The HTTP surface: the guards of the routes, what each of them does for a
request that reached it, and the statuses and texts of refusals. A request comes
with its body already read, but for the signed one of a forwarded message. -/

set_option autoImplicit false

namespace SpritexPay

open Binary64 Resumption

structure SmsPayload where
  gateway : String
  body : String
  deriving DecidableEq

/-- A configured engine, with what it takes from crates outside the repository. -/
structure Installation where
  crates : Crates
  hmac : Hmac
  config : Startup.Config
  json : ScopesJson
  /-- `serde_json::from_slice::<SmsPayload>` -/
  payloadFromSlice : ByteArray → Option SmsPayload
  intentFromStr : String → Option ChatIntent
  suggestionFromStr : String → Option RawSuggestion
  /-- Whether `regex::Regex::new` takes a pattern. -/
  compiles : String → Bool
  unicode : Textual.UnicodeTables
  signs : ∀ secret body,
    crates.sign secret body = Crypto.sign hmac secret.toUTF8 body.toUTF8

/-- The first values of the headers that are read, where they are visible ASCII. -/
structure Headers where
  authorization : Option String
  xSapApiKey : Option String
  xSignature : Option String
  host : Option String
  xForwardedProto : Option String
  deriving DecidableEq

namespace Http

/-! ## Refusals -/

inductive Status where
  | ok
  | created
  | accepted
  | noContent
  | seeOther
  | badRequest
  | unauthorized
  | notFound
  | conflict
  | unprocessableEntity
  | internalServerError
  | serviceUnavailable
  deriving DecidableEq

def Status.code : Status → Nat
  | .ok => 200
  | .created => 201
  | .accepted => 202
  | .noContent => 204
  | .seeOther => 303
  | .badRequest => 400
  | .unauthorized => 401
  | .notFound => 404
  | .conflict => 409
  | .unprocessableEntity => 422
  | .internalServerError => 500
  | .serviceUnavailable => 503

structure ApiError where
  status : Status
  message : String
  deriving DecidableEq

/-- An internal error is not told apart from another to the outside. -/
def ApiError.of (status : Status) (text : String) : ApiError :=
  if status = .internalServerError then ⟨status, "internal error"⟩ else ⟨status, text⟩

def dbError (_ : SqlError) : ApiError := ⟨.internalServerError, "internal error"⟩

/-- Statuses and texts of the errors of each module. The text of a database error is
not looked at. -/
def ofChargeError : ChargeError → ApiError
  | .invalidAmount => .of .unprocessableEntity "amount must be positive"
  | .duplicateOrder orderId =>
      .of .conflict ("a charge already exists for order_id " ++ orderId)
  | .notFound => .of .notFound "charge not found"
  | .db _ => .of .internalServerError ""

def parseErrorText : ParseError → String
  | .noMatch gateway => "SMS did not match the " ++ gateway.id ++ " format"
  | .badAmount => "could not parse amount from SMS"

def ofIngestError : IngestError → ApiError
  | .unknownGateway => .of .unprocessableEntity "unknown gateway"
  | .parse error => .of .unprocessableEntity ("could not parse SMS: " ++ parseErrorText error)
  | .duplicate => .of .conflict "duplicate transaction (already processed)"
  | .charge _ | .db _ => .of .internalServerError ""
  | .panicked => .of .internalServerError ""

def ofCheckoutError : CheckoutError → ApiError
  | .invalidAmount => .of .unprocessableEntity "amount must be positive"
  | .notFound => .of .notFound "checkout not found"
  | .domainNotAllowed =>
      .of .unprocessableEntity "return_url or webhook_url host is not whitelisted"
  | .db _ => .of .internalServerError ""

def ofInvoiceError : InvoiceError → ApiError
  | .invalidAmount => .of .unprocessableEntity "invoice amount must be positive"
  | .notFound => .of .notFound "invoice not found"
  | .db _ => .of .internalServerError ""

def ofLinkError : LinkError → ApiError
  | .notFound => .of .notFound "payment link not found"
  | .inactive => .of .conflict "payment link is inactive"
  | .amountRequired =>
      .of .unprocessableEntity "amount is required for an open-amount link"
  | .db _ => .of .internalServerError ""

/-! ## Endpoints -/

/-- The routes, with the values of their paths, queries and bodies. -/
inductive Endpoint where
  | health
  | login (password : String)
  | authStatus
  | exchangeToken (token : String)
  | smsWebhook (raw : ByteArray)
  | checkoutPage (payRef : String)
  | checkoutStatus (payRef : String)
  | checkoutSelect (payRef gateway : String)
  | checkoutClaim (payRef trxId : String) (sender : Option String)
  | openLink (ref : String)
  | openLinkAmount (ref : String) (amount : F64)
  | apiCreateCheckout (req : CreateCheckout)
  | apiVerifyPayment (sapId : String)
  | createCharge (req : CreateCharge)
  | listCharges
  | getCharge (id : String)
  | registerGateway (req : RegisterGateway)
  | listGateways
  | regexSuggestion (gateway : String)
  | ledgerQuery (gateway : Option String)
  | fraudScan
  | reconChat (question : String)
  | pairDevice (label : Option String)
  | listDevices
  | createMerchantKey (req : CreateApiKey)
  | listMerchantKeys
  | revokeMerchantKey (id : String)
  | createCustomer (req : CreateCustomer)
  | listCustomers
  | getCustomer (id : String)
  | createInvoice (req : CreateInvoice)
  | listInvoices
  | getInvoice (id : String)
  | issueInvoice (id : String)
  | createLink (req : CreatePaymentLink)
  | listLinks
  | createDomain (domain : String)
  | listDomains
  | deleteDomain (id : String)
  | getSettings (group : String)
  | putSetting (key value : String)
  | listActivities
  | listSmsEvents

inductive Tier where
  | open
  /-- Behind `require_api_key`, for the scope. -/
  | merchant (scope : String)
  /-- Behind `require_auth`. -/
  | admin
  deriving DecidableEq

def Endpoint.tier : Endpoint → Tier
  | .health | .login _ | .authStatus | .exchangeToken _ | .smsWebhook _ | .checkoutPage _
  | .checkoutStatus _ | .checkoutSelect _ _ | .checkoutClaim _ _ _ | .openLink _
  | .openLinkAmount _ _ => .open
  | .apiCreateCheckout _ => .merchant "create_payment"
  | .apiVerifyPayment _ => .merchant "verify_payment"
  | _ => .admin

structure Incoming where
  endpoint : Endpoint
  headers : Headers
  /-- The clock of the guard, in seconds. -/
  now : Nat
  /-- The identifiers drawn while the request is served, in order. -/
  uuids : Nat → String
  /-- The providers configured, with the reply each of them would give. -/
  replies : List ProviderReply

/-! ## Replies -/

/-- A charge as it is returned. -/
structure ChargeBody where
  id : String
  orderId : String
  amountMinor : Int64
  currency : String
  customerName : Option String
  customerMsisdn : Option String
  callbackUrl : Option String
  status : String
  createdAt : Timestamp
  updatedAt : Timestamp
  deriving DecidableEq

def chargeBody (charge : Charge) : ChargeBody :=
  ⟨charge.id, charge.orderId, charge.amountMinor, charge.currency, charge.customerName,
    charge.customerMsisdn, charge.callbackUrl, charge.status.text, charge.createdAt,
    charge.updatedAt⟩

inductive ChatAnswer where
  | reconcile (data : Reconciliation)
  | fraud (data : FraudReport)
  | unknown
  deriving DecidableEq

inductive Body where
  | empty
  | health (db : Bool)
  | token (token : String)
  | authRequired (required : Bool)
  | exchanged (reply : Exchanged)
  | ingested (result : Ingested)
  | page (html : String)
  | view (charge : PublicCharge)
  | done
  | sapUrl (url : String)
  | checkout (created : CheckoutCreated)
  | verified (result : VerifyResult)
  | charge (charge : ChargeBody)
  | charges (charges : List ChargeBody)
  | gateway (config : GatewayConfig)
  | gateways (configs : List GatewayConfig)
  | suggestion (suggestion : RegexSuggestion)
  | reconciliation (summary : Reconciliation)
  | fraud (report : FraudReport)
  | chat (answer : ChatAnswer)
  | paired (device : PairedDevice)
  | devices (devices : List DeviceView)
  | apiKey (apiKey : NewApiKey)
  | apiKeys (apiKeys : List ApiKeyRow)
  | revoked
  | customer (customer : Customer)
  | customers (customers : List Customer)
  | invoice (invoice : Invoice)
  | invoices (invoices : List Invoice)
  | link (link : PaymentLink)
  | links (links : List PaymentLink)
  | domain (domain : Domain)
  | domains (domains : List Domain)
  | settings (settings : List Setting)
  | activities (activities : List Activity)
  | smsEvents (events : List SmsEventView)
  deriving DecidableEq

inductive Reply where
  | answered (status : Status) (body : Body)
  /-- `Redirect::to` -/
  | redirect (location : String)
  | refused (error : ApiError)
  /-- A panic stops the process. Nothing is answered. -/
  | aborted
  deriving DecidableEq

def Reply.status : Reply → Option Status
  | .answered status _ => some status
  | .redirect _ => some .seeOther
  | .refused error => some error.status
  | .aborted => none

end Http

end SpritexPay
