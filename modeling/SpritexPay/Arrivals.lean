import SpritexPay.ApiProperties
import SpritexPay.Resumption.Invariant

/-! Where charges come from. A request only inserts charges of its own making,
and only stores one in the invoice it issues a payment of. What holds of a charge
when it is inserted, and of every rewriting of it, holds of it in every state. -/

set_option autoImplicit false

namespace SpritexPay

open Relational Resumption

/-- What a statement brings into being, and the invoice that it stores a charge in. -/
inductive Made where
  | charge (columns : NewCharge)
  | invoice (columns : NewInvoice)
  | link (columns : NewPaymentLink)
  | collection (invoiceId : String)

def Statement.makes : Statement → Option Made
  | .insertCharge columns => some (.charge columns)
  | .insertInvoice columns => some (.invoice columns)
  | .insertPaymentLink columns => some (.link columns)
  | .linkInvoice id _ _ => some (.collection id)
  | _ => none

def Request.makes : Request → Made → Prop
  | .createCharge uuid req, .charge columns => columns = Charge.newCharge uuid req
  | .createCheckout uuids req, .charge columns => columns = Checkout.newCharge uuids req
  | .createInvoice uuids req, .invoice columns => columns = Invoice.newInvoice uuids req
  | .createLink uuids req, .link columns => columns = PaymentLink.newLink uuids req
  | .issuePayment uuids _, .charge columns =>
      ∃ invoice, columns = Checkout.newCharge uuids (Invoice.checkoutRequest invoice)
  | .issuePayment _ id, .collection invoiceId => invoiceId = id
  | .openLink uuids _ _, .charge columns => ∃ link amountMinor,
      columns = Checkout.newCharge uuids (PaymentLink.checkoutRequest link amountMinor)
  | _, _ => False

def Statement.MadeBy (request : Request) (op : Statement) : Prop :=
  ∀ made, op.makes = some made → request.makes made

theorem Statement.madeBy_of_none {request : Request} {op : Statement} (makes : op.makes = none) :
    op.MadeBy request := by
  intro made own
  rw [makes] at own
  cases own

theorem Statement.madeBy_of_some {request : Request} {op : Statement} {made : Made}
    (makes : op.makes = some made) (own : request.makes made) : op.MadeBy request := by
  intro other same
  cases Option.some.inj (makes.symm.trans same)
  exact own

theorem Request.uses_made (service : Service) (request : Request) :
    (request.program service).Uses (Statement.MadeBy request) anyway := by
  have other : ∀ {op : Statement}, op.makes = none → op.MadeBy request := Statement.madeBy_of_none
  cases request with
  | createCharge uuid req =>
      refine uses_respond ?_ fun _ => trivial
      exact Charge.uses_create (Statement.madeBy_of_some rfl rfl) fun _ => other rfl
  | createCheckout uuids req =>
      refine uses_respond ?_ fun _ => trivial
      exact Checkout.uses_createCheckout (other rfl) (fun _ => other rfl)
        (Statement.madeBy_of_some rfl rfl)
  | createInvoice uuids req =>
      refine uses_respond ?_ fun _ => trivial
      exact Invoice.uses_create (Statement.madeBy_of_some rfl rfl) (fun _ => other rfl)
        fun _ => other rfl
  | createLink uuids req =>
      refine uses_respond ?_ fun _ => trivial
      exact PaymentLink.uses_create (Statement.madeBy_of_some rfl rfl) fun _ => other rfl
  | issuePayment uuids invoiceId =>
      refine uses_respond ?_ fun _ => trivial
      exact Invoice.uses_issuePayment (other rfl) (other rfl) (fun _ => other rfl)
        (fun invoice => Statement.madeBy_of_some rfl ⟨invoice, rfl⟩) (fun _ => other rfl)
        fun _ _ => Statement.madeBy_of_some rfl rfl
  | openLink uuids ref amountOverride =>
      refine uses_respond ?_ fun _ => trivial
      exact PaymentLink.uses_openLink (other rfl) (other rfl) (other rfl) (fun _ => other rfl)
        fun link amountMinor => Statement.madeBy_of_some rfl ⟨link, amountMinor, rfl⟩
  | selectGateway payRef gateway =>
      exact uses_respond (Checkout.uses_selectGateway (other rfl)) fun _ => trivial
  | submitManual payRef trxId sender =>
      exact uses_respond (Checkout.uses_submitManual (other rfl)) fun _ => trivial
  | verify payRef =>
      exact uses_respond (Checkout.uses_verify _ (other rfl) fun _ => other rfl) fun _ => trivial
  | ingest uuids replies gw rawBody =>
      refine uses_respond ?_ fun _ => trivial
      refine Sms.uses_ingest _ _ _ _ _ (fun _ => other rfl) (fun _ => other rfl)
        (fun _ => other rfl) fun id => ?_
      exact Charge.uses_markPaid _ _ _ (other rfl) (fun _ _ _ _ => other rfl) (other rfl)
        (other rfl) fun _ => other rfl
  | reconcile gateway =>
      exact uses_respond (uses_reconcile (other rfl) (other rfl)) fun _ => trivial
  | accountBalance account => exact uses_respond (uses_last (other rfl)) fun _ => trivial
  | createDomain uuid domain => exact uses_respond (uses_last (other rfl)) fun _ => trivial
  | deleteDomain id =>
      refine uses_respond ?_ fun _ => trivial
      exact uses_sql (other rfl) fun _ => trivial
  | pollWebhooks =>
      refine uses_respond (Webhook.uses_drainDue _ _ ?_) fun _ => trivial
      exact ⟨other rfl, fun _ _ => other rfl, fun _ _ => other rfl, fun _ _ _ => other rfl,
        fun _ _ _ _ => other rfl⟩

/-! ## What holds of every charge -/

/-- A property of charges that rewriting keeps. -/
def Charge.Lasting (property : Charge → Prop) : Prop :=
  ∀ old new, old.Grows new → property old → property new

namespace Db

variable {property : Charge → Prop} {before after : Db}

theorem charges_exec {op : Statement} {env : Env} {answer : op.Answer}
    (lasting : Charge.Lasting property) (all : ∀ charge ∈ before.charges, property charge)
    (arrives : ∀ columns, op.makes = some (.charge columns) → ∀ now positive,
      property (columns.row now positive))
    (executed : op.exec env before = .ok (answer, after)) :
    ∀ charge ∈ after.charges, property charge := by
  cases op with
  | insertCharge columns =>
      obtain ⟨positive, charges, stored, rfl⟩ := insertCharge_ok (Statement.stored_ok executed)
      exact Table.forall_mem_insert? all (arrives columns rfl env.now positive) stored
  | setChargePaid id =>
      cases executed
      refine Table.forall_mem_update ?_ all fun charge => lasting _ _ ?_
      · exact fun _ => rfl
      · exact ⟨rfl, .inr rfl⟩
  | setChargeGateway | setChargeClaim =>
      cases executed
      refine Table.forall_mem_update ?_ all fun charge => lasting _ _ ?_
      · exact fun _ => rfl
      · exact ⟨rfl, .inl rfl⟩
  | ledgerTransaction writes =>
      obtain ⟨_, _, rfl⟩ := Statement.exec_differsAt executed
      exact all
  | insertSmsEvent | insertAiParse | insertWebhook | webhookDelivered | webhookFailed
  | webhookRetry | insertInvoice | insertInvoiceItem | linkInvoice | settleInvoices
  | insertPaymentLink | takeLinkUse | insertDomain | deleteDomain =>
      obtain ⟨_, rfl⟩ := Statement.exec_differsAt executed
      exact all
  | _ =>
      rw [Statement.exec_reads rfl executed]
      exact all

end Db

theorem charges_apply {property : Charge → Prop} {op : Statement} {before : Db}
    (lasting : Charge.Lasting property) (all : ∀ charge ∈ before.charges, property charge)
    (arrives : ∀ columns, op.makes = some (.charge columns) → ∀ now positive,
      property (columns.row now positive)) (env : Env) :
    ∀ charge ∈ (sqlite.apply env op before).2.charges, property charge := by
  rcases reply_cases (.commit env : sqlite.Replies false op before _ _) with
    ⟨_, _, executed, _⟩ | ⟨_, _, same⟩
  · exact Db.charges_exec lasting all arrives executed
  · rw [same]
    exact all

/-- What every charge of a request is inserted with, every charge keeps. -/
theorem charges_served {service : Service} {request : Request} {before after : Db}
    {response : Response} {property : Charge → Prop} (lasting : Charge.Lasting property)
    (arrives : ∀ columns, request.makes (.charge columns) → ∀ now positive,
      property (columns.row now positive))
    (all : ∀ charge ∈ before.charges, property charge)
    (served : sqlite.Runs (request.program service) before response after) :
    ∀ charge ∈ after.charges, property charge := by
  have keeps : (request.program service).Keeps sqlite
      (fun db => ∀ charge ∈ db.charges, property charge) anyway :=
    (request.uses_made service).keeps fun op made env store kept =>
      charges_apply lasting kept (fun columns arriving => arrives columns (made _ arriving))
        env
  exact (served.keeps keeps all).2

end SpritexPay
