import SpritexPay.PaymentLink
import SpritexPay.Reconcile
import SpritexPay.Resumption.Pool
import SpritexPay.Sms

/-! The requests a deployment serves, each with the identifiers and provider
replies it draws, and how they are executed: one at a time to the end, or
interleaved statement by statement over a pool of connections. -/

set_option autoImplicit false

namespace SpritexPay

open Resumption

structure Service where
  crates : Crates
  baseUrl : String
  webhookSecret : String

inductive Request where
  | createCharge (uuid : String) (req : CreateCharge)
  | createCheckout (uuids : CheckoutUuids) (req : CreateCheckout)
  | selectGateway (payRef gateway : String)
  | submitManual (payRef trxId : String) (sender : Option String)
  | verify (payRef : String)
  | createInvoice (uuids : InvoiceUuids) (req : CreateInvoice)
  | issuePayment (uuids : CheckoutUuids) (invoiceId : String)
  | createLink (uuids : LinkUuids) (req : CreatePaymentLink)
  | openLink (uuids : CheckoutUuids) (ref : String) (amountOverride : Option Int64)
  | ingest (uuids : IngestUuids) (replies : List ProviderReply) (gw rawBody : String)
  | reconcile (gateway : Option String)
  | accountBalance (account : String)
  | createDomain (uuid domain : String)
  | deleteDomain (id : String)
  | pollWebhooks

inductive Response where
  | charge (outcome : Except ChargeError Charge)
  | checkout (outcome : Except CheckoutError CheckoutCreated)
  | accepted (outcome : Except CheckoutError Unit)
  | verified (outcome : Except CheckoutError VerifyResult)
  | invoice (outcome : Except InvoiceError Invoice)
  | payment (outcome : Except InvoiceError CheckoutCreated)
  | link (outcome : Except LinkError PaymentLink)
  | opened (outcome : Except LinkError CheckoutCreated)
  | ingested (outcome : Except IngestError Ingested)
  | reconciled (outcome : Except SqlError Reconciliation)
  | balance (outcome : Except SqlError Int64)
  | domain (outcome : Except SqlError Unit)
  | deleted (outcome : Except SqlError Bool)
  | polled (outcome : Except SqlError Unit)

def respond {Failure Value : Type} (wrap : Except Failure Value → Response)
    (query : Query Failure Value) : Program signature Response :=
  query.run >>= fun outcome => .done (wrap outcome)

def Request.program (service : Service) : Request → Program signature Response
  | .createCharge uuid req => respond .charge (Charge.create uuid req)
  | .createCheckout uuids req =>
      respond .checkout (Checkout.createCheckout service.baseUrl uuids req)
  | .selectGateway payRef gateway => respond .accepted (Checkout.selectGateway payRef gateway)
  | .submitManual payRef trxId sender =>
      respond .accepted (Checkout.submitManual payRef trxId sender)
  | .verify payRef => respond .verified (Checkout.verify service.crates payRef)
  | .createInvoice uuids req => respond .invoice (Invoice.create uuids req)
  | .issuePayment uuids invoiceId =>
      respond .payment (Invoice.issuePayment service.baseUrl uuids invoiceId)
  | .createLink uuids req => respond .link (PaymentLink.create uuids req)
  | .openLink uuids ref amountOverride =>
      respond .opened (PaymentLink.openLink service.baseUrl uuids ref amountOverride)
  | .ingest uuids replies gw rawBody =>
      respond .ingested (Sms.ingest service.crates replies uuids gw rawBody)
  | .reconcile gateway => respond .reconciled (SpritexPay.reconcile gateway)
  | .accountBalance account => respond .balance (Ledger.accountBalance account)
  | .createDomain uuid domain => respond .domain (Domain.create uuid domain)
  | .deleteDomain id => respond .deleted (Domain.delete id)
  | .pollWebhooks => respond .polled (Webhook.drainDue service.crates service.webhookSecret)

/-! ## Executions -/

def Service.pool {Thread : Type} (service : Service) (db : Db) (requests : Thread → Request) :
    Config signature Db Thread Response :=
  ⟨db, fun thread => (requests thread).program service⟩

structure Call where
  request : Request
  response : Response

/-- Requests served one after the other, newest first, from `start`. -/
inductive History (service : Service) (start : Db) : List Call → Db → Prop where
  | start : History service start [] start
  | serve {past : List Call} {db after : Db} {request : Request} {response : Response}
      (earlier : History service start past db)
      (served : sqlite.Runs (request.program service) db response after) :
      History service start (⟨request, response⟩ :: past) after

theorem runs_respond_iff {Failure Value : Type} {wrap : Except Failure Value → Response}
    {query : Query Failure Value} {db after : Db} {response : Response} :
    sqlite.Runs (respond wrap query) db response after ↔
      ∃ outcome, sqlite.Runs query.run db outcome after ∧ response = wrap outcome := by
  unfold respond
  rw [Machine.runs_bind_iff]
  constructor
  · rintro ⟨outcome, middle, run, finish⟩
    obtain ⟨rfl, rfl⟩ := Machine.runs_done_iff.mp finish
    exact ⟨outcome, run, rfl⟩
  · rintro ⟨outcome, run, rfl⟩
    exact ⟨outcome, after, run, .done⟩

/-! ## A deployment for concrete runs -/

/-- Crates for messages in ASCII: `\d` is an ASCII digit. No provider is asked and
no fingerprint or payload is looked at in these runs. -/
def sampleCrates : Crates where
  hmacSha256 := fun key body => key ++ ":" ++ body
  extractionFromStr := fun _ => none
  jsonFromStr := fun text => some (.text text)
  jsonObject := fun members => String.intercalate "," (members.map (·.1))
  decimalDigit := Char.isDigit
  statusText := fun code => toString code

def sampleService : Service := ⟨sampleCrates, "https://pay.example", "secret"⟩

def sampleEnv : Env := ⟨1000, .status 200⟩

def sampleOrder : Request := .createCharge "1" ⟨"order-1", 50000, "BDT", none, none, none⟩

def sampleMessage (txnId : String) : String :=
  "received Tk 500.00 from 01999999999. TrxID " ++ txnId

def sampleUuids (uuid : String) : IngestUuids := ⟨uuid, ⟨uuid, uuid⟩⟩

def samplePayment (uuid txnId : String) : Request :=
  .ingest (sampleUuids uuid) [] "bkash" (sampleMessage txnId)

def Service.serve (service : Service) : List Request → Db → Db
  | [], db => db
  | request :: rest, db =>
      service.serve rest (sqlite.run (request.program service) (fun _ => sampleEnv) db).2

theorem History.serve_all {service : Service} {start db : Db} {calls : List Call}
    (history : History service start calls db) (requests : List Request) :
    ∃ later, History service start later (service.serve requests db) ∧
      later.map (·.request) = requests.reverse ++ calls.map (·.request) := by
  induction requests generalizing calls db with
  | nil => exact ⟨calls, history, rfl⟩
  | cons request requests ih =>
      obtain ⟨later, run, asked⟩ := ih (history.serve
        (sqlite.runs_run (request.program service) (fun _ => sampleEnv) db))
      exact ⟨later, run, by simp [asked]⟩

def orderedCharge : Db := sampleService.serve [sampleOrder] Db.empty

end SpritexPay
