import SpritexPay.Console
import SpritexPay.Reconcile

/-! The functions of the console over the whole database: customers, gateways,
devices, keys, the whitelist and the public view of a charge, statement by
statement as their modules issue them. -/

set_option autoImplicit false

namespace SpritexPay

open Relational Resumption

/-- A `fetch_one` that finds no row fails. -/
def fetchOne {Value : Type} : Option Value → Site SqlError Value
  | some value => pure value
  | none => throw (.protocol "no rows returned by a query that expected to return at least one row")

namespace Console

def createCustomer (uuid : String) (req : CreateCustomer) : Site SqlError Customer := do
  let id := "cus_" ++ uuid
  let _ ← consoleSql (.insertCustomer id req.name req.email req.msisdn)
  let found ← consoleSql (.customerById id)
  fetchOne found

def registerGateway (uuid : String) (req : RegisterGateway) : Site SqlError GatewayConfig := do
  let id := "gw_" ++ uuid
  let _ ← consoleSql (.insertGateway id req)
  let found ← consoleSql (.gatewayById id)
  fetchOne found

def createDomain (uuid domain : String) : Site SqlError Domain := do
  let _ ← engine (Domain.create uuid domain)
  let found ← consoleSql (.domainById ("dom_" ++ uuid))
  fetchOne found

/-! ## Devices -/

section Devices

variable (hmac : Hmac)

/-- The raw token is returned once and only its digest is stored. -/
def pairDevice (uuids : PairUuids) (label : Option String) : Site SqlError PairedDevice := do
  let id := "dev_" ++ uuids.device
  let token := "spx_" ++ uuids.token.1 ++ uuids.token.2
  let _ ← consoleSql (.insertDevice id label (Device.digest hmac token))
  return { id, label, pairingToken := token }

def exchangeToken (token : String) : Site SqlError (Option String) := do
  match ← consoleSql (.activeDevice (Device.digest hmac token)) with
  | none => return none
  | some id =>
      let _ ← consoleSql (.stampDevice id)
      return some id

end Devices

/-! ## Keys -/

section Keys

variable (crates : Crates) (json : ScopesJson)

def createApiKey (uuids : ApiKeyUuids) (req : CreateApiKey) : Site SqlError NewApiKey := do
  let id := "ak_" ++ uuids.id
  let raw := "spk_" ++ uuids.key.1 ++ uuids.key.2
  let scopes := Merchant.grantedScopes req
  let scopesJson := (json.toString scopes).getD "[]"
  let _ ← consoleSql (.insertApiKey id (Merchant.keyDigest crates raw) req.label scopesJson)
  return { id, label := req.label, scopes, apiKey := raw }

def verifyApiKey (raw requiredScope : String) : Site SqlError (Option KeyContext) := do
  match ← consoleSql (.activeApiKey (Merchant.keyDigest crates raw)) with
  | none => return none
  | some (id, scopesJson) =>
      let scopes := Merchant.parseScopes json scopesJson
      if !scopes.any (· == requiredScope) then return none
      else
        let _ ← consoleSql (.stampApiKey id)
        return some { id, scopes }

def revokeApiKey (id : String) : Site SqlError Bool := do
  let affected ← consoleSql (.revokeApiKey id)
  return decide (0 < affected)

end Keys

/-! ## What is read of the payments -/

/-- The page of a charge, with the receivers of the merchant. -/
def getPublicCharge (payRef : String) : Site CheckoutError PublicCharge := do
  match ← consoleSql (.publicRow payRef) with
  | none => throw .notFound
  | some row =>
      let receivers ← consoleSql .enabledReceivers
      return { payRef, amountMinor := row.amountMinor, currency := row.currency,
               status := row.status.text, gateway := row.gateway, returnUrl := row.returnUrl,
               receivers }

/-- The SELECTs of the fraud scan, on the whole database. -/
def scanning {Value : Type} : Program Fraud.signature Value → Program console.signature Value
  | .done value => .done value
  | .stmt op next => .stmt (.inr (.anomalies op)) fun reply => scanning (next reply)

def scan : Site SqlError FraudReport := .mk (scanning Fraud.scan.run)

/-- The samples are only looked for when a provider is configured, and a provider is
only asked when there are samples. A failure to read them counts as none. -/
def suggestRegex (fromStr : String → Option RawSuggestion) (compiles : String → Bool)
    (chain : List ProviderReply) (gateway : String) : Site Panic (Option RegexSuggestion) :=
  match chain with
  | [] => return none
  | reply :: _ => do
      match ← tryConsoleSql (.recoveredSamples gateway) with
      | .error _ => return none
      | .ok samples =>
          if samples.isEmpty then return none
          else
            match reply.content with
            | none => return none
            | some content =>
                match ← ExceptT.mk (pure (jsonSlice content)) with
                | none => return none
                | some object =>
                    match fromStr object with
                    | none => return none
                    | some raw =>
                        if [raw.txid, raw.amount, raw.sender].all compiles then
                          return some { gateway, sampleCount := samples.length, txid := raw.txid,
                                        amount := raw.amount, sender := raw.sender,
                                        note := raw.note }
                        else return none

end Console

end SpritexPay
