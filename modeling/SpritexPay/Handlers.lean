import SpritexPay.Api
import SpritexPay.Http

/-! What each route does for a request that its guard let through, and the whole
surface: the requests that come in and the webhook worker, over one database. -/

set_option autoImplicit false

namespace SpritexPay

open Binary64 Relational Resumption

namespace Http

section Guards

variable (installation : Installation) (headers : Headers)

/-- The key of a request to the merchants' API, from either header. -/
def apiKeyOf : String := headers.xSapApiKey.getD (bearer headers.authorization)

/-- What a guard lets through goes on. -/
def guard (now : Nat) : Tier → Site ApiError Unit
  | .open => pure ()
  | .admin =>
      if requireAuth installation.hmac installation.config headers.authorization now then pure ()
      else throw ⟨.unauthorized, "authentication required"⟩
  | .merchant scope => do
      match ← (Console.verifyApiKey installation.crates installation.json (apiKeyOf headers)
          scope).adapt dbError with
      | some _ => return ()
      | none => throw ⟨.unauthorized, "invalid API key or insufficient scope"⟩

/-- The configured base, or the host that the request names. -/
def resolveBaseUrl : String :=
  match installation.config.baseUrl with
  | some base => base
  | none => headers.xForwardedProto.getD "https" ++ "://" ++ headers.host.getD "localhost"

end Guards

/-- HMACs are compared, not the passwords. -/
def passwordMatches (hmac : Hmac) (authSecret adminPassword submitted : String) : Bool :=
  Crypto.verify hmac authSecret.toUTF8 submitted.toUTF8
    (Crypto.sign hmac authSecret.toUTF8 adminPassword.toUTF8)

/-! ## Handlers -/

section Handlers

variable (installation : Installation) (incoming : Incoming)

/-- What a module answers, as the reply of its route. -/
def answering {Failure Value : Type} (convert : Failure → ApiError) (status : Status)
    (wrap : Value → Body) (site : Site Failure Value) : Site ApiError Reply := do
  let value ← site.adapt convert
  return .answered status (wrap value)

/-- A row that was not found is a 404. -/
def finding {Failure Value : Type} (convert : Failure → ApiError) (missing : String)
    (wrap : Value → Body) (site : Site Failure (Option Value)) : Site ApiError Reply := do
  match ← site.adapt convert with
  | some value => return .answered .ok (wrap value)
  | none => throw ⟨.notFound, missing⟩

def health : Site ApiError Reply := do
  match ← tryConsoleSql .ping with
  | .ok _ => return .answered .ok (.health true)
  | .error _ => return .answered .serviceUnavailable (.health false)

def login (password : String) : Site ApiError Reply :=
  match installation.config.adminPassword with
  | none => throw ⟨.notFound, "auth is not enabled"⟩
  | some admin =>
      if passwordMatches installation.hmac installation.config.authSecret admin password then
        return .answered .ok
          (.token (Auth.issueToken installation.hmac installation.config.authSecret incoming.now))
      else throw ⟨.unauthorized, "invalid password"⟩

def exchange (token : String) : Site ApiError Reply := do
  match ← (Console.exchangeToken installation.hmac token).adapt dbError with
  | some deviceId =>
      return .answered .ok (.exchanged ⟨deviceId, installation.config.smsHmacSecret⟩)
  | none => throw ⟨.unauthorized, "unknown or revoked pairing token"⟩

def ingestUuids (uuids : Nat → String) : IngestUuids := ⟨uuids 0, ⟨uuids 1, uuids 2⟩⟩

def checkoutUuids (uuids : Nat → String) : CheckoutUuids := ⟨uuids 0, uuids 1⟩

def invoiceUuids (uuids : Nat → String) : InvoiceUuids := ⟨uuids 0, fun index => uuids (index + 1)⟩

def linkUuids (uuids : Nat → String) : LinkUuids := ⟨uuids 0, uuids 1⟩

/-- The signature covers the exact bytes received, and nothing inside is trusted
before it has been verified. -/
def smsWebhook (raw : ByteArray) : Site ApiError Reply :=
  match incoming.headers.xSignature with
  | none => throw ⟨.unauthorized, "missing signature"⟩
  | some signature =>
      if Crypto.verify installation.hmac installation.config.smsHmacSecret.toUTF8 raw signature then
        match installation.payloadFromSlice raw with
        | none => throw ⟨.badRequest, "invalid JSON body"⟩
        | some payload => do
            match ← ExceptT.mk ((engine (Sms.ingest installation.crates incoming.replies
                (ingestUuids incoming.uuids) payload.gateway payload.body)).run >>= fun outcome =>
                  .done (.ok outcome)) with
            | .ok result => return .answered .accepted (.ingested result)
            | .error .panicked => return .aborted
            | .error error => throw (ofIngestError error)
      else throw ⟨.unauthorized, "invalid signature"⟩

def showPage (payRef : String) : Site ApiError Reply := do
  match ← ExceptT.mk ((Console.getPublicCharge payRef).run >>= fun outcome =>
      .done (.ok outcome)) with
  | .ok view => return .answered .ok (.page (CheckoutPage.render installation.unicode view))
  | .error .notFound => return .answered .notFound (.page CheckoutPage.notFound)
  | .error _ => return .answered .internalServerError (.page "internal error")

/-- `(amount * 100.0).round() as i64` -/
def openLinkAmount (ref : String) (amount : F64) : Site ApiError Reply :=
  answering ofLinkError .ok (fun created => .sapUrl created.sapUrl)
    (engine (PaymentLink.openLink (resolveBaseUrl installation incoming.headers)
      (checkoutUuids incoming.uuids) ref (some (Checkout.minorUnits amount))))

def openLink (ref : String) : Site ApiError Reply := do
  let created ← (engine (PaymentLink.openLink (resolveBaseUrl installation incoming.headers)
    (checkoutUuids incoming.uuids) ref none)).adapt ofLinkError
  return .redirect created.sapUrl

def regexSuggestion (gateway : String) : Site ApiError Reply := do
  match ← ExceptT.mk ((Console.suggestRegex installation.suggestionFromStr installation.compiles
      incoming.replies gateway).run >>= fun outcome => .done (.ok outcome)) with
  | .ok (some suggestion) => return .answered .ok (.suggestion suggestion)
  | .ok none =>
      throw ⟨.notFound, "no recovered drift samples for this gateway (or AI disabled)"⟩
  | .error _ => return .aborted

/-- The model only routes the question; the answer is that of a query. -/
def reconChat (_question : String) : Site ApiError Reply :=
  match classifyQuestion installation.intentFromStr incoming.replies with
  | .error _ => return .aborted
  | .ok none =>
      throw ⟨.serviceUnavailable,
        "reconciliation chat needs an AI provider (set OPENROUTER_API_KEY)"⟩
  | .ok (some intent) =>
      if intent.intent = "reconcile" then
        answering dbError .ok (fun summary => .chat (.reconcile summary))
          (engine (reconcile intent.gateway))
      else if intent.intent = "fraud" then
        answering dbError .ok (fun report => .chat (.fraud report)) Console.scan
      else return .answered .ok (.chat .unknown)

def revokeMerchantKey (id : String) : Site ApiError Reply := do
  if ← (Console.revokeApiKey id).adapt dbError then return .answered .ok .revoked
  else throw ⟨.notFound, "key not found"⟩

def deleteDomain (id : String) : Site ApiError Reply := do
  if ← (engine (Domain.delete id)).adapt dbError then return .answered .noContent .empty
  else throw ⟨.notFound, "domain not found"⟩

/-- Lists are capped, so that a busy merchant cannot pull the whole history. -/
def listCap : Int := 100

def handle : Endpoint → Site ApiError Reply
  | .health => health
  | .login password => login installation incoming password
  | .authStatus =>
      return .answered .ok (.authRequired installation.config.adminPassword.isSome)
  | .exchangeToken token => exchange installation token
  | .smsWebhook raw => smsWebhook installation incoming raw
  | .checkoutPage payRef => showPage installation payRef
  | .checkoutStatus payRef =>
      answering ofCheckoutError .ok .view (Console.getPublicCharge payRef)
  | .checkoutSelect payRef gateway =>
      answering ofCheckoutError .ok (fun _ => .done)
        (engine (Checkout.selectGateway payRef gateway))
  | .checkoutClaim payRef trxId sender =>
      answering ofCheckoutError .ok (fun _ => .done)
        (engine (Checkout.submitManual payRef trxId sender))
  | .openLink ref => openLink installation incoming ref
  | .openLinkAmount ref amount => openLinkAmount installation incoming ref amount
  | .apiCreateCheckout req =>
      answering ofCheckoutError .ok .checkout
        (engine (Checkout.createCheckout (resolveBaseUrl installation incoming.headers)
          (checkoutUuids incoming.uuids) req))
  | .apiVerifyPayment sapId =>
      answering ofCheckoutError .ok .verified (engine (Checkout.verify installation.crates sapId))
  | .createCharge req =>
      answering ofChargeError .created (fun charge => .charge (chargeBody charge))
        (engine (Charge.create (incoming.uuids 0) req))
  | .listCharges =>
      answering ofChargeError .ok (fun charges => .charges (charges.map chargeBody))
        (consoleSql (.recentCharges listCap))
  | .getCharge id =>
      answering ofChargeError .ok (fun charge => .charge (chargeBody charge))
        (engine (Charge.get id))
  | .registerGateway req =>
      answering dbError .created .gateway (Console.registerGateway (incoming.uuids 0) req)
  | .listGateways => answering dbError .ok .gateways (consoleSql .allGateways)
  | .regexSuggestion gateway => regexSuggestion installation incoming gateway
  | .ledgerQuery gateway => answering dbError .ok .reconciliation (engine (reconcile gateway))
  | .fraudScan => answering dbError .ok .fraud Console.scan
  | .reconChat question => reconChat installation incoming question
  | .pairDevice label =>
      answering dbError .created .paired (Console.pairDevice installation.hmac
        ⟨incoming.uuids 0, (incoming.uuids 1, incoming.uuids 2)⟩ label)
  | .listDevices => answering dbError .ok .devices (consoleSql .allDevices)
  | .createMerchantKey req =>
      answering dbError .created .apiKey (Console.createApiKey installation.crates installation.json
        ⟨incoming.uuids 0, (incoming.uuids 1, incoming.uuids 2)⟩ req)
  | .listMerchantKeys => answering dbError .ok .apiKeys (consoleSql .allApiKeys)
  | .revokeMerchantKey id => revokeMerchantKey id
  | .createCustomer req =>
      answering dbError .created .customer (Console.createCustomer (incoming.uuids 0) req)
  | .listCustomers => answering dbError .ok .customers (consoleSql (.recentCustomers listCap))
  | .getCustomer id =>
      finding dbError "customer not found" .customer (consoleSql (.customerById id))
  | .createInvoice req =>
      answering ofInvoiceError .created .invoice
        (engine (Invoice.create (invoiceUuids incoming.uuids) req))
  | .listInvoices =>
      answering ofInvoiceError .ok .invoices (consoleSql (.recentInvoices listCap))
  | .getInvoice id =>
      finding ofInvoiceError "invoice not found" .invoice
        ((engine (Invoice.get id)).adapt InvoiceError.db)
  | .issueInvoice id =>
      answering ofInvoiceError .ok (fun created => .sapUrl created.sapUrl)
        (engine (Invoice.issuePayment (resolveBaseUrl installation incoming.headers)
          (checkoutUuids incoming.uuids) id))
  | .createLink req =>
      answering ofLinkError .created .link
        (engine (PaymentLink.create (linkUuids incoming.uuids) req))
  | .listLinks => answering ofLinkError .ok .links (consoleSql (.recentLinks listCap))
  | .createDomain domain =>
      answering dbError .created .domain (Console.createDomain (incoming.uuids 0) domain)
  | .listDomains => answering dbError .ok .domains (consoleSql .allDomains)
  | .deleteDomain id => deleteDomain id
  | .getSettings group => answering dbError .ok .settings (consoleSql (.settingsOf group))
  | .putSetting key value =>
      answering dbError .noContent (fun _ => .empty) (consoleSql (.setSetting key value))
  | .listActivities =>
      answering dbError .ok .activities (consoleSql (.recentActivities listCap))
  | .listSmsEvents => answering dbError .ok .smsEvents (consoleSql (.recentSmsEvents listCap))

end Handlers

/-- `ApiError::into_response` -/
def toReply : Except ApiError Reply → Reply
  | .ok reply => reply
  | .error error => .refused error

def Incoming.program (installation : Installation) (incoming : Incoming) :
    Program console.signature Reply :=
  (guard installation incoming.headers incoming.now incoming.endpoint.tier >>= fun _ =>
    handle installation incoming incoming.endpoint).run >>= fun outcome => .done (toReply outcome)

end Http

/-! ## The surface -/

/-- What runs over the database: requests and polls of the webhook worker. -/
inductive Task where
  | incoming (request : Http.Incoming)
  | poll

inductive Outcome where
  | replied (reply : Http.Reply)
  | polled

def Installation.service (installation : Installation) : Service :=
  ⟨installation.crates, "", installation.config.webhookHmacSecret⟩

def Task.program (installation : Installation) : Task → Program console.signature Outcome
  | .incoming request =>
      request.program installation >>= fun reply => .done (.replied reply)
  | .poll =>
      (engine (Webhook.drainDue installation.crates
        installation.config.webhookHmacSecret)).run >>= fun _ => .done .polled

def Installation.surface {Thread : Type} (installation : Installation) (store : Store)
    (tasks : Thread → Task) : Config console.signature Store Thread Outcome :=
  ⟨store, fun thread => (tasks thread).program installation⟩

/-! ## An installation for concrete runs -/

def sampleHmac : Hmac := fun key body => Vector.replicate 32 (UInt8.ofNat (key.size + body.size))

/-- The console is open: no admin password is set. -/
def sampleConfig : Startup.Config where
  bindAddr := ((0, 0, 0, 0), 8080)
  databaseUrl := "sqlite://spritexai_pay.db?mode=rwc"
  smsHmacSecret := "sms-secret"
  webhookHmacSecret := "webhook-secret"
  redisUrl := none
  staticDir := "./static"
  adminPassword := none
  authSecret := "auth-secret"
  baseUrl := some "https://pay.example"

def sampleInstallation : Installation where
  crates := { sampleCrates with
    hmacSha256 := fun key body => Crypto.sign sampleHmac key.toUTF8 body.toUTF8 }
  hmac := sampleHmac
  config := sampleConfig
  json := ⟨fun scopes => some ("[\"" ++ String.intercalate "\",\"" scopes ++ "\"]"),
    fun text =>
      if text = "[\"create_payment\",\"verify_payment\"]" then some Merchant.defaultScopes
      else none⟩
  payloadFromSlice := fun _ => some ⟨"bkash", sampleMessage "TRXA"⟩
  intentFromStr := fun _ => none
  suggestionFromStr := fun _ => none
  compiles := fun _ => true
  unicode := ⟨fun _ => false, fun _ => true⟩
  signs := fun _ _ => rfl

def sampleHeaders : Headers := ⟨none, none, none, none, none⟩

def sampleIncoming (endpoint : Http.Endpoint) (headers : Headers) : Http.Incoming where
  endpoint := endpoint
  headers := headers
  now := 1000
  uuids := fun _ => "1"
  replies := []

/-- A message with the signature that the forwarder computes. -/
def sampleForwarded : Http.Incoming :=
  let raw := "message".toUTF8
  sampleIncoming (.smsWebhook raw) { sampleHeaders with
    xSignature := some (Crypto.sign sampleHmac sampleConfig.smsHmacSecret.toUTF8 raw) }

/-- An order on the open console, and the message that pays it. -/
def orderAndMessage : Bool → Task
  | false => .incoming (sampleIncoming
      (.createCharge ⟨"order-1", 50000, "BDT", none, none, none⟩) sampleHeaders)
  | true => .incoming sampleForwarded

/-- A device paired on the open console, and its token exchanged. -/
def pairAndExchange : Bool → Task
  | false => .incoming (sampleIncoming (.pairDevice none) sampleHeaders)
  | true => .incoming (sampleIncoming (.exchangeToken "spx_11") sampleHeaders)

/-- A key made on the open console, and a request that presents it. -/
def keyAndVerification : Bool → Task
  | false => .incoming (sampleIncoming (.createMerchantKey ⟨"till", none⟩) sampleHeaders)
  | true => .incoming (sampleIncoming (.apiVerifyPayment "sap_1")
      { sampleHeaders with xSapApiKey := some "spk_11" })

end SpritexPay
