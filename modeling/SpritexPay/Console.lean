import SpritexPay.Access
import SpritexPay.Activity
import SpritexPay.CheckoutPage
import SpritexPay.Fraud
import SpritexPay.Merchant
import SpritexPay.Relational.Page
import SpritexPay.Resumption.Annex
import SpritexPay.Settings
import SpritexPay.Suggestion

/-! What the engine stores beside the payments: the customers, gateways, devices,
keys and settings of the console, and the audit log. The statements on them, and
those that only read the tables of the payments, are an annex of the database. -/

set_option autoImplicit false

namespace SpritexPay

open Relational Resumption

/-! ## Tables -/

structure CreateCustomer where
  name : Option String
  email : Option String
  msisdn : Option String

inductive CustomerStatus where
  | active
  | inactive
  deriving DecidableEq

structure Customer where
  id : String
  name : Option String
  email : Option String
  msisdn : Option String
  status : CustomerStatus
  createdAt : Timestamp
  deriving DecidableEq

instance : Indexed Customer := .single Customer.id

structure Console where
  gatewayConfigs : Table GatewayConfig
  devices : Table Device
  apiKeys : Table ApiKey
  customers : Table Customer
  settings : Table SettingRow
  auditLog : List Activity
  deriving DecidableEq

def Console.empty : Console := ⟨∅, ∅, ∅, ∅, ∅, []⟩

/-- The columns of a device that the console is shown. -/
structure DeviceView where
  id : String
  label : Option String
  status : DeviceStatus
  lastSeenAt : Option Timestamp
  createdAt : Timestamp
  deriving DecidableEq

def Device.view (device : Device) : DeviceView :=
  ⟨device.id, device.label, device.status, device.lastSeenAt, device.createdAt⟩

structure ApiKeyRow where
  id : String
  label : Option String
  scopes : String
  status : ApiKeyStatus
  createdAt : Timestamp
  lastUsedAt : Option Timestamp
  deriving DecidableEq

def ApiKey.view (apiKey : ApiKey) : ApiKeyRow :=
  ⟨apiKey.id, apiKey.label, apiKey.scopes, apiKey.status, apiKey.createdAt, apiKey.lastUsedAt⟩

/-- A message without its fingerprint and without how it was parsed. -/
structure SmsEventView where
  id : String
  gateway : String
  txnId : String
  amountMinor : Int64
  senderMsisdn : Option String
  chargeId : Option String
  matched : Bool
  receivedAt : Timestamp
  deriving DecidableEq

def SmsEvent.view (event : SmsEvent) : SmsEventView :=
  ⟨event.id, event.gateway.id, event.txnId, event.amountMinor, event.senderMsisdn, event.chargeId,
    event.matched, event.receivedAt⟩

/-- The columns of a charge that its hosted page reads. -/
structure PublicRow where
  amountMinor : Int64
  currency : String
  status : ChargeStatus
  gateway : Option String
  returnUrl : Option String
  deriving DecidableEq

def Charge.publicRow (charge : Charge) : PublicRow :=
  ⟨charge.amountMinor, charge.currency, charge.status, charge.gateway, charge.returnUrl⟩

/-! ## Statements -/

inductive ConsoleStatement where
  | ping
  | insertCustomer (id : String) (name email msisdn : Option String)
  | customerById (id : String)
  | recentCustomers (limit : Int)
  | insertGateway (id : String) (req : RegisterGateway)
  | gatewayById (id : String)
  | allGateways
  | enabledReceivers
  | insertDevice (id : String) (label : Option String) (tokenSha256 : String)
  | activeDevice (tokenSha256 : String)
  | stampDevice (id : String)
  | allDevices
  | insertApiKey (id keySha256 : String) (label : Option String) (scopes : String)
  | activeApiKey (keySha256 : String)
  | stampApiKey (id : String)
  | revokeApiKey (id : String)
  | allApiKeys
  | settingsOf (group : String)
  | setSetting (key value : String)
  | recentActivities (limit : Int)
  | publicRow (payRef : String)
  | recentCharges (limit : Int)
  | recentInvoices (limit : Int)
  | recentLinks (limit : Int)
  | recentSmsEvents (limit : Int)
  | domainById (id : String)
  | allDomains
  | recoveredSamples (gateway : String)
  | anomalies (op : Fraud.Select)

@[reducible] def ConsoleStatement.Answer : ConsoleStatement → Type
  | .customerById _ => Option Customer
  | .recentCustomers _ => List Customer
  | .gatewayById _ => Option GatewayConfig
  | .allGateways => List GatewayConfig
  | .enabledReceivers => List Receiver
  | .activeDevice _ => Option String
  | .allDevices => List DeviceView
  | .activeApiKey _ => Option (String × String)
  | .revokeApiKey _ => Nat
  | .allApiKeys => List ApiKeyRow
  | .settingsOf _ => List Setting
  | .recentActivities _ => List Activity
  | .publicRow _ => Option PublicRow
  | .recentCharges _ => List Charge
  | .recentInvoices _ => List Invoice
  | .recentLinks _ => List PaymentLink
  | .recentSmsEvents _ => List SmsEventView
  | .domainById _ => Option Domain
  | .allDomains => List Domain
  | .recoveredSamples _ => List String
  | .anomalies op => op.Answer
  | _ => Unit

namespace Console

def insertCustomer (now : Timestamp) (console : Console) (id : String)
    (name email msisdn : Option String) : Except SqlError Console :=
  match console.customers.insert? ⟨id, name, email, msisdn, .active, now⟩ with
  | some customers => .ok { console with customers }
  | none => .error .uniqueViolation

def insertGateway (now : Timestamp) (console : Console) (id : String) (req : RegisterGateway) :
    Except SqlError Console :=
  match console.gatewayConfigs.insert? ⟨id, req.gateway, req.label, req.accountMsisdn, 1, now⟩ with
  | some gatewayConfigs => .ok { console with gatewayConfigs }
  | none => .error .uniqueViolation

def insertDevice (now : Timestamp) (console : Console) (id : String) (label : Option String)
    (tokenSha256 : String) : Except SqlError Console :=
  match console.devices.insert? ⟨id, label, tokenSha256, .active, none, now⟩ with
  | some devices => .ok { console with devices }
  | none => .error .uniqueViolation

def insertApiKey (now : Timestamp) (console : Console) (id keySha256 : String)
    (label : Option String) (scopes : String) : Except SqlError Console :=
  match console.apiKeys.insert? ⟨id, keySha256, label, scopes, .active, now, none⟩ with
  | some apiKeys => .ok { console with apiKeys }
  | none => .error .uniqueViolation

theorem key_seen (now : Timestamp) (device : Device) :
    key { device with lastSeenAt := some now } = key device := rfl

/-- `UPDATE devices SET last_seen_at = … WHERE id = ?` -/
def stampDevice (now : Timestamp) (console : Console) (id : String) : Console :=
  let devices := console.devices.update (fun device => device.id == id)
    (fun device => { device with lastSeenAt := some now }) (key_seen now)
  { console with devices }

/-- The receivers that are enabled, by gateway. -/
def enabledReceivers (console : Console) : List Receiver :=
  let enabled := console.gatewayConfigs.rows.filter (·.enabled == 1)
  let sorted := enabled.mergeSort fun left right => decide (left.gateway ≤ right.gateway)
  sorted.map fun config => ⟨config.gateway, config.label, config.accountMsisdn⟩

end Console

/-- The pages of the console, the newest first. -/
def page {Row : Type} [Indexed Row] (createdAt : Row → Timestamp) (limit : Int)
    (table : Table Row) : List Row :=
  limited limit (newestFirst createdAt table.rows)

def ConsoleStatement.exec (env : Env) :
    (op : ConsoleStatement) → Db → Console → Except SqlError (op.Answer × Console)
  | .ping, _, console => .ok ((), console)
  | .insertCustomer id name email msisdn, _, console => do
      return ((), ← console.insertCustomer env.now id name email msisdn)
  | .customerById id, _, console => .ok (console.customers.find? (·.id == id), console)
  | .recentCustomers limit, _, console =>
      .ok (page Customer.createdAt limit console.customers, console)
  | .insertGateway id req, _, console => do return ((), ← console.insertGateway env.now id req)
  | .gatewayById id, _, console => .ok (console.gatewayConfigs.find? (·.id == id), console)
  | .allGateways, _, console =>
      .ok (newestFirst GatewayConfig.createdAt console.gatewayConfigs.rows, console)
  | .enabledReceivers, _, console => .ok (console.enabledReceivers, console)
  | .insertDevice id label tokenSha256, _, console => do
      return ((), ← console.insertDevice env.now id label tokenSha256)
  | .activeDevice tokenSha256, _, console =>
      .ok ((console.devices.find? fun device =>
        device.tokenSha256 == tokenSha256 && device.status == .active).map (·.id), console)
  | .stampDevice id, _, console => .ok ((), console.stampDevice env.now id)
  | .allDevices, _, console =>
      .ok ((newestFirst Device.createdAt console.devices.rows).map Device.view, console)
  | .insertApiKey id keySha256 label scopes, _, console => do
      return ((), ← console.insertApiKey env.now id keySha256 label scopes)
  | .activeApiKey keySha256, _, console =>
      .ok ((console.apiKeys.find? fun apiKey =>
        apiKey.keySha256 == keySha256 && apiKey.status == .active).map
          fun apiKey => (apiKey.id, apiKey.scopes), console)
  | .stampApiKey id, _, console =>
      .ok ((), { console with apiKeys := Merchant.stampUsed id env.now console.apiKeys })
  | .revokeApiKey id, _, console =>
      .ok (console.apiKeys.count (·.id == id),
        { console with apiKeys := Merchant.setRevoked id console.apiKeys })
  | .allApiKeys, _, console =>
      .ok ((newestFirst ApiKey.createdAt console.apiKeys.rows).map ApiKey.view, console)
  | .settingsOf group, _, console => .ok (Settings.getGroup console.settings group, console)
  | .setSetting key value, _, console =>
      .ok ((), { console with settings := Settings.set env.now key value console.settings })
  | .recentActivities limit, _, console => .ok (Activity.list limit console.auditLog, console)
  | .publicRow payRef, db, console =>
      .ok ((db.charges.find? (·.payRef == some payRef)).map Charge.publicRow, console)
  | .recentCharges limit, db, console => .ok (page Charge.createdAt limit db.charges, console)
  | .recentInvoices limit, db, console => .ok (page Invoice.createdAt limit db.invoices, console)
  | .recentLinks limit, db, console =>
      .ok (page PaymentLink.createdAt limit db.paymentLinks, console)
  | .recentSmsEvents limit, db, console =>
      .ok ((page SmsEvent.receivedAt limit db.smsEvents).map SmsEvent.view, console)
  | .domainById id, db, console => .ok (db.allowedDomains.find? (·.id == id), console)
  | .allDomains, db, console =>
      .ok (newestFirst Domain.createdAt db.allowedDomains.rows, console)
  | .recoveredSamples gateway, db, console => .ok (db.recoveredSamples gateway, console)
  | .anomalies op, db, console => .ok (op.rows db, console)

def console : Annex signature Env Db Console where
  Op := ConsoleStatement
  Answer := ConsoleStatement.Answer
  exec env op db rest := op.exec env db rest

/-- The whole database of an installation. -/
abbrev Store := Db × Console

def database : Machine console.signature Env Store := sqlite.annexed console

abbrev Site (Failure Value : Type) : Type := ExceptT Failure (Program console.signature) Value

def engine {Failure Value : Type} (query : Query Failure Value) : Site Failure Value :=
  .mk (query.run.lift console)

abbrev consoleSql {Failure : Type} [FromError SqlError Failure] (op : ConsoleStatement) :
    Site Failure op.Answer := @query console.signature Failure _ (.inr op)

abbrev tryConsoleSql {Failure : Type} (op : ConsoleStatement) :
    Site Failure (Except SqlError op.Answer) := @attempt console.signature Failure (.inr op)

end SpritexPay
