import SpritexPay.AcknowledgementProperties

/-! What was shown stays. A row that a client was shown is in every later store, with all
its columns but those that its life rewrites: the status of a charge with its choice and its
claim, the status of an invoice with the checkout that collects it, the uses of a link, the
status of a key and the stamps. What was shown as paid or as revoked is so for good. -/

set_option autoImplicit false

namespace SpritexPay

open Relational Resumption

/-! ## Rows that stay -/

/-- The row is in the table, as it has become. -/
def Held {Row : Type} [Indexed Row] (same : Row → Row → Prop) (table : Table Row) (told : Row) :
    Prop :=
  ∃ row ∈ table, same told row

theorem Held.later {Row : Type} [Indexed Row] {same : Row → Row → Prop} {fresh : Row → Prop}
    {before after : Table Row} {told : Row} (held : Held same before told)
    (trans : ∀ {first second third}, same first second → same second third → same first third)
    (extended : Extends same fresh before.rows after.rows) : Held same after told := by
  obtain ⟨row, member, since⟩ := held
  obtain ⟨later, laterMember, grown⟩ := extended.mem member
  exact ⟨later, laterMember, trans since grown⟩

namespace Http

/-- A key as it was shown. -/
abbrev keptKey : ApiKey → ApiKey → Prop := ApiKey.Kept fun _ => True

/-- The public view of a charge, beside the receivers. -/
def publicView (receivers : List Receiver) (charge : Charge) : Option PublicCharge :=
  charge.payRef.map fun payRef =>
    { payRef, amountMinor := charge.amountMinor, currency := charge.currency,
      status := charge.status.text, gateway := charge.gateway, returnUrl := charge.returnUrl,
      receivers }

/-- What a verification tells of a charge, beside the transaction that settled it. -/
def verification (crates : Crates) (transactionId : Option String) (charge : Charge) :
    VerifyResult where
  sapId := charge.payRef.getD ""
  fullName := charge.customerName
  emailAddress := charge.customerEmail
  mobileNumber := charge.customerMsisdn
  gateway := charge.gateway
  amount := ((Binary64.F64.ofI64 charge.amountMinor).unscale 100).toFixed2
  currency := charge.currency
  transactionId := transactionId
  sender := charge.claimedSender
  metadata := (charge.metadata.bind crates.jsonFromStr).getD .null
  status := Checkout.publicStatus charge.status
  date := charge.createdAt

/-- A gateway of the merchant that was enabled as the receiver. -/
def Receiver.Remains (rest : Console) (receiver : Receiver) : Prop :=
  ∃ config ∈ rest.gatewayConfigs, config.enabled = 1 ∧
    receiver = ⟨config.gateway, config.label, config.accountMsisdn⟩

def ChargeBody.Remains (db : Db) (shown : ChargeBody) : Prop :=
  ∃ told, shown = chargeBody told ∧ Held Charge.Grows db.charges told

/-- What a body shows is in the store: the row it was made from, which may only have grown
since. Of what it shows of a domain or a setting, which may be deleted or set again, nothing
is said. -/
def Body.Remains (crates : Crates) (store : Store) : Body → Prop
  | .charge shown => shown.Remains store.1
  | .charges list => ∀ shown ∈ list, shown.Remains store.1
  | .view shown => (∃ told, Held Charge.Grows store.1.charges told ∧
      publicView shown.receivers told = some shown) ∧
      ∀ receiver ∈ shown.receivers, Receiver.Remains store.2 receiver
  | .verified result => ∃ told, Held Charge.Grows store.1.charges told ∧
      told.payRef = some result.sapId ∧ result = verification crates result.transactionId told
  | .invoice told => Held Invoice.Grows store.1.invoices told
  | .invoices list => ∀ told ∈ list, Held Invoice.Grows store.1.invoices told
  | .link told => Held PaymentLink.Grows store.1.paymentLinks told
  | .links list => ∀ told ∈ list, Held PaymentLink.Grows store.1.paymentLinks told
  | .smsEvents list => ∀ shown ∈ list, ∃ event ∈ store.1.smsEvents, event.view = shown
  | .customer told => told ∈ store.2.customers
  | .customers list => ∀ told ∈ list, told ∈ store.2.customers
  | .gateway told => told ∈ store.2.gatewayConfigs
  | .gateways list => ∀ told ∈ list, told ∈ store.2.gatewayConfigs
  | .devices list => ∀ shown ∈ list, ∃ told, told.view = shown ∧
      Held Device.Seen store.2.devices told
  | .apiKeys list => ∀ shown ∈ list, ∃ told, told.view = shown ∧
      Held keptKey store.2.apiKeys told
  | .activities list => ∀ activity ∈ list, activity ∈ store.2.auditLog
  | _ => True

section Later

variable {before after : Store}

theorem mem_later {Row : Type} [Indexed Row] {fresh : Row → Prop} {before after : Table Row}
    {row : Row} (extended : Extends sameRow fresh before.rows after.rows) (member : row ∈ before) :
    row ∈ after := by
  obtain ⟨later, laterMember, same⟩ := extended.mem member
  rw [← show later = row from same]
  exact laterMember

theorem held_charge (later : before.Later after) {told : Charge}
    (held : Held Charge.Grows before.1.charges told) :
    Held Charge.Grows after.1.charges told :=
  held.later Charge.Grows.trans later.evolves.charges

theorem held_invoice (later : before.Later after) {told : Invoice}
    (held : Held Invoice.Grows before.1.invoices told) :
    Held Invoice.Grows after.1.invoices told :=
  held.later Invoice.Grows.trans later.evolves.invoices

theorem held_link (later : before.Later after) {told : PaymentLink}
    (held : Held PaymentLink.Grows before.1.paymentLinks told) :
    Held PaymentLink.Grows after.1.paymentLinks told :=
  held.later PaymentLink.Grows.trans later.evolves.paymentLinks

theorem ChargeBody.Remains.later {shown : ChargeBody} (remains : shown.Remains before.1)
    (later : before.Later after) : shown.Remains after.1 := by
  obtain ⟨told, same, held⟩ := remains
  exact ⟨told, same, held_charge later held⟩

theorem Receiver.Remains.later {receiver : Receiver} (remains : Receiver.Remains before.2 receiver)
    (later : before.Later after) : Receiver.Remains after.2 receiver := by
  obtain ⟨config, member, configured⟩ := remains
  exact ⟨config, mem_later later.keeps.gatewayConfigs member, configured⟩

theorem Body.Remains.later {crates : Crates} {body : Body} (remains : body.Remains crates before)
    (later : before.Later after) : body.Remains crates after := by
  cases body with
  | charge shown => exact ChargeBody.Remains.later remains later
  | charges list => exact fun shown listed => (remains shown listed).later later
  | view shown =>
      obtain ⟨⟨told, held, same⟩, received⟩ := remains
      exact ⟨⟨told, held_charge later held, same⟩,
        fun receiver listed => (received receiver listed).later later⟩
  | verified result =>
      obtain ⟨told, held, terms⟩ := remains
      exact ⟨told, held_charge later held, terms⟩
  | invoice told => exact held_invoice later remains
  | invoices list => exact fun told listed => held_invoice later (remains told listed)
  | link told => exact held_link later remains
  | links list => exact fun told listed => held_link later (remains told listed)
  | smsEvents list =>
      intro shown listed
      obtain ⟨event, member, same⟩ := remains shown listed
      exact ⟨event, later.evolves.smsEvents.subset member, same⟩
  | customer told => exact mem_later later.keeps.customers remains
  | customers list =>
      exact fun told listed => mem_later later.keeps.customers (remains told listed)
  | gateway told => exact mem_later later.keeps.gatewayConfigs remains
  | gateways list =>
      exact fun told listed => mem_later later.keeps.gatewayConfigs (remains told listed)
  | devices list =>
      intro shown listed
      obtain ⟨told, same, held⟩ := remains shown listed
      exact ⟨told, same, held.later Device.Seen.trans later.keeps.devices⟩
  | apiKeys list =>
      intro shown listed
      obtain ⟨told, same, held⟩ := remains shown listed
      exact ⟨told, same, held.later ApiKey.Kept.trans later.keeps.apiKeys⟩
  | activities list =>
      intro activity listed
      rw [later.keeps.auditLog]
      exact remains activity listed
  | _ => trivial

end Later

end Http

/-! ## What functions return -/

section Answers

variable {faults : Bool}

variable {start final : Db}

end Answers

/-! ## Sites -/

section Sites

variable {Failure Value : Type} {faults : Bool} {start final : Store}

namespace Console

end Console

/-! ## Routes -/

namespace Http

variable {installation : Installation} {incoming : Incoming}

end Http

end Sites

end SpritexPay
