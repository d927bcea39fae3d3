import SpritexPay.Arrivals
import SpritexPay.Resumption.Milestone

/-! Collecting an invoice. The charge that is minted for an invoice is stored in
it by a later statement, and the settlement looks the invoice up by what is
stored there. Where it finds the invoice, the invoice is paid for good. -/

set_option autoImplicit false

namespace SpritexPay

open Relational Resumption

def hasSettled (chargeId : String) : Program signature Response → Bool
  | .done (.ingested (.ok ingested)) => ingested.matchedCharge == some chargeId
  | _ => false

def Statement.collectsFor (chargeId : String) (op : Statement) : Prop :=
  op = .settleInvoices chargeId

/-- A message only ends with a charge settled after the invoices of the charge. -/
theorem Charge.passes_markPaid (crates : Crates) (uuids : SettlementUuids) (id : String) :
    (markPaid crates uuids id).run.Passes (Statement.collectsFor id) (· = .ok ()) := by
  rw [run_markPaid]
  refine Program.passes_issue (by simp) fun found => ?_
  cases found with
  | none => simp [Program.Passes]
  | some charge =>
      change (settleFound crates uuids id charge).Passes _ _
      refine Program.passes_issue (by simp) fun _ => ?_
      refine Program.passes_issue (by simp) fun _ => ?_
      exact Program.passes_marked rfl (by simp)

theorem Sms.passes_conclude (crates : Crates) (uuids : IngestUuids) (txnId : String)
    (matched : Option String) (chargeId : String) :
    (conclude crates uuids txnId matched).Passes (Statement.collectsFor chargeId)
      fun outcome => ∃ ingested, outcome = .ok ingested ∧
        ingested.matchedCharge = some chargeId := by
  cases matched with
  | none =>
      rintro ⟨ingested, same, settled⟩
      cases same
      cases settled
  | some id =>
      by_cases same : id = chargeId
      · subst same
        refine (Charge.passes_markPaid crates uuids.settlement id).bind fun outcome unfinished => ?_
        rintro ⟨ingested, ended, _⟩
        cases outcome with
        | ok value => exact unfinished rfl
        | error error => cases ended
      · refine Program.passes_bind fun outcome => ?_
        rintro ⟨ingested, ended, settled⟩
        cases outcome with
        | ok value =>
            cases ended
            exact same (Option.some.inj settled)
        | error error => cases ended

theorem Sms.passes_ingest (crates : Crates) (replies : List ProviderReply) (uuids : IngestUuids)
    (gw rawBody chargeId : String) :
    (ingest crates replies uuids gw rawBody).run.Passes (Statement.collectsFor chargeId)
      fun outcome => ∃ ingested, outcome = .ok ingested ∧
        ingested.matchedCharge = some chargeId := by
  rw [run_ingest]
  cases resolve gw with
  | none => simp [Program.Passes]
  | some gateway =>
      refine Program.passes_bind fun outcome => ?_
      cases outcome with
      | error error => simp [Program.Passes]
      | ok parsing =>
          change (record crates uuids _ parsing.1 parsing.2).run.Passes _ _
          rw [run_record]
          refine Program.passes_issue (by simp) fun candidates => ?_
          refine Program.passes_issue (by simp) fun _ => ?_
          exact passes_conclude crates uuids _ _ chargeId

theorem Request.passes_program (service : Service) (request : Request) (chargeId : String) :
    (request.program service).Passes (Statement.collectsFor chargeId)
      fun response => hasSettled chargeId (.done response) = true := by
  cases request with
  | ingest uuids replies gw rawBody =>
      refine (Sms.passes_ingest service.crates replies uuids gw rawBody chargeId).bind ?_
      intro outcome unsettled settled
      cases outcome with
      | ok ingested => exact unsettled ⟨ingested, rfl, by simpa [hasSettled] using settled⟩
      | error error => cases settled
  | _ => exact Program.passes_bind fun outcome => Bool.false_ne_true

/-! ## Invoices -/

namespace Db

variable {db before after : Db}

/-- No invoice is refunded or canceled. -/
def Billed (db : Db) : Prop :=
  ∀ invoice ∈ db.invoices, invoice.status = .unpaid ∨ invoice.status = .paid

/-- The invoice is collected by a charge: it holds the charge, or it is paid. -/
def Binds (db : Db) (invoiceId chargeId : String) : Prop :=
  ∃ invoice ∈ db.invoices, invoice.id = invoiceId ∧
    (invoice.chargeId = some chargeId ∨ invoice.status = .paid)

def hasPaid (db : Db) (invoiceId : String) : Prop :=
  ∃ invoice ∈ db.invoices, invoice.id = invoiceId ∧ invoice.status = .paid

instance (db : Db) (invoiceId chargeId : String) : Decidable (db.Binds invoiceId chargeId) :=
  inferInstanceAs (Decidable (∃ invoice ∈ db.invoices, invoice.id = invoiceId ∧
    (invoice.chargeId = some chargeId ∨ invoice.status = .paid)))

instance (db : Db) (invoiceId : String) : Decidable (db.hasPaid invoiceId) :=
  inferInstanceAs (Decidable (∃ invoice ∈ db.invoices, invoice.id = invoiceId ∧
    invoice.status = .paid))

theorem billed_empty : Db.empty.Billed := by simp [Billed, Db.empty]

theorem Billed.exec {op : Statement} {env : Env} {answer : op.Answer} (billed : before.Billed)
    (executed : op.exec env before = .ok (answer, after)) : after.Billed := by
  cases op with
  | insertInvoice columns =>
      obtain ⟨positive, invoices, stored, rfl⟩ := insertInvoice_ok (Statement.stored_ok executed)
      exact Table.forall_mem_insert? billed (.inl rfl) stored
  | linkInvoice id payRef chargeId =>
      cases executed
      refine Table.forall_mem_update ?_ billed fun invoice kept => ?_
      · exact fun _ => rfl
      · exact kept
  | settleInvoices chargeId =>
      cases executed
      refine Table.forall_mem_update ?_ billed fun invoice kept => ?_
      · exact fun _ => rfl
      · exact .inr rfl
  | ledgerTransaction writes =>
      obtain ⟨_, _, rfl⟩ := Statement.exec_differsAt executed
      exact billed
  | insertCharge | setChargePaid | setChargeGateway | setChargeClaim | insertSmsEvent
  | insertAiParse | insertWebhook | webhookDelivered | webhookFailed | webhookRetry
  | insertInvoiceItem | insertPaymentLink | takeLinkUse | insertDomain | deleteDomain =>
      obtain ⟨_, rfl⟩ := Statement.exec_differsAt executed
      exact billed
  | _ =>
      rw [Statement.exec_reads rfl executed]
      exact billed

theorem Evolves.hasPaid (evolved : before.Evolves after) {invoiceId : String}
    (paid : before.hasPaid invoiceId) : after.hasPaid invoiceId := by
  obtain ⟨invoice, member, rfl, status⟩ := paid
  obtain ⟨later, laterMember, grown⟩ := evolved.invoices.mem member
  refine ⟨later, laterMember, grown.id, ?_⟩
  rcases grown.status with same | paid
  · rw [same, status]
  · exact paid

theorem Binds.settled {invoiceId chargeId : String} (binds : db.Binds invoiceId chargeId)
    (billed : db.Billed) (now : Timestamp) :
    (db.settleInvoices now chargeId).hasPaid invoiceId := by
  obtain ⟨invoice, member, rfl, bound⟩ := binds
  refine ⟨_, mem_settleInvoices.mpr ⟨invoice, member, rfl⟩, ?_, ?_⟩
  · split <;> rfl
  · split
    · rfl
    · rename_i uncollected
      rcases bound with holds | paid
      · rcases billed invoice member with unpaid | paid
        · simp [collects, holds, unpaid] at uncollected
        · exact paid
      · exact paid

end Db

theorem billed_apply {op : Statement} {before : Db} (env : Env) (billed : before.Billed) :
    (sqlite.apply env op before).2.Billed := by
  rcases reply_cases (.commit env : sqlite.Replies false op before _ _) with
    ⟨_, _, executed, _⟩ | ⟨_, _, same⟩
  · exact billed.exec executed
  · rw [same]
    exact billed

theorem after_settleInvoices {op : Statement} {before after : Db} {reply : signature.Reply op}
    {chargeId : String} (collecting : op = .settleInvoices chargeId)
    (replied : sqlite.Replies false op before reply after) :
    ∃ now, after = before.settleInvoices now chargeId := by
  subst collecting
  cases replied with
  | commit env => exact ⟨env.now, rfl⟩
  | fault allowed => cases allowed

/-! ## Runs -/

def Request.billed : Request → Option String
  | .issuePayment _ invoiceId => some invoiceId
  | _ => none

def hasInserted (chargeId : String) : Act signature Db → Bool
  | ⟨.insertCharge columns, .ok (), _, _⟩ => columns.id == chargeId
  | _ => false

section Pool

variable {Thread : Type} [DecidableEq Thread] {service : Service} {requests : Thread → Request}
  {past : List (Event signature Db Thread Response)}
  {config : Config signature Db Thread Response} {invoiceId chargeId : String}

/-- Issuing a payment of the invoice has inserted the charge. -/
def MintedFor (requests : Thread → Request) (past : List (Event signature Db Thread Response))
    (invoiceId chargeId : String) : Prop :=
  ∃ event ∈ past, (requests event.thread).billed = some invoiceId ∧
    hasInserted chargeId event.act = true

/-- When the invoices of a minted charge are settled, its invoice holds it, or
is paid already. -/
def SettledBound (requests : Thread → Request)
    (past : List (Event signature Db Thread Response)) : Prop :=
  ∀ event ∈ past, ∀ invoiceId chargeId, event.act.op = .settleInvoices chargeId →
    MintedFor requests past invoiceId chargeId → event.act.before.Binds invoiceId chargeId

theorem billed_of_run (run : Run sqlite false (service.pool Db.empty requests) past config) :
    config.store.Billed := by
  induction run with
  | start => exact Db.billed_empty
  | step _ _ replied ih =>
      cases replied with
      | commit env => exact billed_apply env ih
      | fault allowed => cases allowed

/-- Where every settlement of a minted charge finds its invoice bound, a charge
that is settled has its invoice paid, and it stays paid. -/
theorem collected_when_bound (run : Run sqlite false (service.pool Db.empty requests) past config)
    (bound : SettledBound requests past) (minted : MintedFor requests past invoiceId chargeId)
    {thread : Thread} (settled : hasSettled chargeId (config.threads thread) = true) :
    config.store.hasPaid invoiceId := by
  rcases run.passes thread (Request.passes_program service _ chargeId) with
    ⟨event, member, _, collecting, _⟩ | ahead
  swap
  · cases finished : config.threads thread with
    | done response =>
        rw [finished] at ahead settled
        exact absurd settled ahead
    | stmt op next =>
        rw [finished] at settled
        cases settled
  have binds := bound event member invoiceId chargeId collecting minted
  obtain ⟨newer, older, rfl⟩ := List.append_of_mem member
  obtain ⟨middle, _, earlier, store, _, _, replied, _⟩ := run.event_cases
  have billed := billed_of_run earlier
  rw [store] at billed
  have evolved : event.act.after.Evolves config.store :=
    run.store_relates_event Db.Evolves.refl Db.Evolves.trans evolves_apply member
  obtain ⟨now, flipped⟩ := after_settleInvoices collecting replied
  rw [flipped] at evolved
  exact evolved.hasPaid (binds.settled billed now)

end Pool

/-! ## One invoice and one payment -/

def sampleInvoice : Request :=
  .createInvoice ⟨"1", fun index => toString index⟩ ⟨none, none, none, [⟨"T-shirt", 1, 50000⟩]⟩

def collection : Fin 3 → Request
  | 0 => sampleInvoice
  | 1 => .issuePayment ⟨"1", "1"⟩ "inv_1"
  | 2 => samplePayment "a" "TRXA"

def bindsSample (act : Act signature Db) : Bool :=
  match act.op with
  | .settleInvoices chargeId => decide (act.before.Binds "inv_1" chargeId)
  | _ => true

theorem collected_when_bound_sample : ∃ past config,
    Run sqlite false (sampleService.pool Db.empty collection) past config ∧
      config.store.hasPaid "inv_1" := by
  have run := Run.scheduled sqlite false (sampleService.pool Db.empty collection) sampleEnv
    [0, 0, 0, 1, 1, 1, 1, 2, 2, 2, 2, 2, 2]
  have binds : ∀ event ∈ (sampleService.pool Db.empty collection).trace sqlite sampleEnv
      [0, 0, 0, 1, 1, 1, 1, 2, 2, 2, 2, 2, 2], bindsSample event.act = true := by decide +kernel
  have minted : MintedFor collection ((sampleService.pool Db.empty collection).trace sqlite
      sampleEnv [0, 0, 0, 1, 1, 1, 1, 2, 2, 2, 2, 2, 2]) "inv_1" "chg_1" := by
    unfold MintedFor
    decide +kernel
  have settled : hasSettled "chg_1" (((sampleService.pool Db.empty collection).schedule sqlite
      sampleEnv [0, 0, 0, 1, 1, 1, 1, 2, 2, 2, 2, 2, 2]).threads 2) = true := by decide +kernel
  refine ⟨_, _, run, collected_when_bound run ?_ minted settled⟩
  rintro event member invoiceId chargeId collecting ⟨mint, _, billed, _⟩
  have found := binds event member
  rw [bindsSample, collecting, decide_eq_true_eq] at found
  have same : invoiceId = "inv_1" := by
    generalize mint.thread = thread at billed
    match thread with
    | 0 => cases billed
    | 1 => exact (Option.some.inj billed).symm
    | 2 => cases billed
  rw [same]
  exact found

def hasEnded : Program signature Response → Bool
  | .done _ => true
  | .stmt _ _ => false

/-- The payment comes between minting the charge and storing it in the invoice. -/
theorem late_link_leaves_unpaid : ∃ past config,
    Run sqlite false (sampleService.pool Db.empty collection) past config ∧
      MintedFor collection past "inv_1" "chg_1" ∧
      hasSettled "chg_1" (config.threads 2) = true ∧ hasEnded (config.threads 1) = true ∧
      ¬config.store.hasPaid "inv_1" := by
  have run := Run.scheduled sqlite false (sampleService.pool Db.empty collection) sampleEnv
    [0, 0, 0, 1, 1, 2, 2, 2, 2, 2, 2, 1, 1]
  refine ⟨_, _, run, ?_, by decide +kernel, by decide +kernel, by decide +kernel⟩
  unfold MintedFor
  decide +kernel

end SpritexPay
