import SpritexPay.Arrivals
import SpritexPay.BooksProperties
import SpritexPay.CheckoutProperties

/-! Currencies. A currency is whatever a charge was created with; messages carry
none, and matching compares bare minor units. The ledger therefore holds in each
currency what the paid charges of that currency amount to. -/

set_option autoImplicit false

namespace SpritexPay

open Relational Resumption

def Statement.declared : Statement → Option String
  | .insertCharge columns => some columns.currency
  | .insertInvoice columns => some columns.currency
  | .insertPaymentLink columns => some columns.currency
  | _ => none

def Statement.within (currency : String) (op : Statement) : Prop :=
  op.declared.all (· == currency) = true

namespace Db

/-- Everything that can be charged is in one currency. -/
structure Declares (currency : String) (db : Db) : Prop where
  charges : ∀ charge ∈ db.charges, charge.currency = currency
  invoices : ∀ invoice ∈ db.invoices, invoice.currency = currency
  paymentLinks : ∀ link ∈ db.paymentLinks, link.currency = currency

theorem declares_empty (currency : String) : Db.empty.Declares currency := by
  constructor <;> simp [Db.empty]

variable {currency : String} {before after : Db}

theorem Declares.ofCharges {charges : Table Charge} (declares : before.Declares currency)
    (kept : ∀ charge ∈ charges, charge.currency = currency) :
    Declares currency { before with charges } := { declares with charges := kept }

theorem Declares.ofInvoices {invoices : Table Invoice} (declares : before.Declares currency)
    (kept : ∀ invoice ∈ invoices, invoice.currency = currency) :
    Declares currency { before with invoices } := { declares with invoices := kept }

theorem Declares.ofLinks {paymentLinks : Table PaymentLink} (declares : before.Declares currency)
    (kept : ∀ link ∈ paymentLinks, link.currency = currency) :
    Declares currency { before with paymentLinks } := { declares with paymentLinks := kept }

end Db

section Statements

variable {currency : String}

theorem Statement.within_of_none {op : Statement} (undeclared : op.declared = none) :
    op.within currency := by
  rw [within, undeclared]
  rfl

theorem Statement.within_of_eq {op : Statement} (declared : op.declared = some currency) :
    op.within currency := by simp [within, declared]

theorem Statement.currency_of_within {op : Statement} {other : String}
    (within : op.within currency) (declared : op.declared = some other) : other = currency := by
  simpa [Statement.within, declared] using within

theorem Db.Declares.exec {op : Statement} {env : Env} {answer : op.Answer} {before after : Db}
    (declares : before.Declares currency) (within : op.within currency)
    (executed : op.exec env before = .ok (answer, after)) : after.Declares currency := by
  cases op with
  | insertCharge columns =>
      obtain ⟨_, charges, stored, rfl⟩ := Db.insertCharge_ok (Statement.stored_ok executed)
      have same : columns.currency = currency := Statement.currency_of_within within rfl
      exact declares.ofCharges (Table.forall_mem_insert? declares.charges same stored)
  | insertInvoice columns =>
      obtain ⟨_, invoices, stored, rfl⟩ := Db.insertInvoice_ok (Statement.stored_ok executed)
      have same : columns.currency = currency := Statement.currency_of_within within rfl
      exact declares.ofInvoices (Table.forall_mem_insert? declares.invoices same stored)
  | insertPaymentLink columns =>
      obtain ⟨paymentLinks, stored, rfl⟩ := Db.insertPaymentLink_ok (Statement.stored_ok executed)
      have same : columns.currency = currency := Statement.currency_of_within within rfl
      exact declares.ofLinks (Table.forall_mem_insert? declares.paymentLinks same stored)
  | setChargePaid | setChargeGateway | setChargeClaim =>
      cases executed
      refine declares.ofCharges (Table.forall_mem_update ?_ declares.charges fun _ same => same)
      exact fun _ => rfl
  | linkInvoice | settleInvoices =>
      cases executed
      refine declares.ofInvoices (Table.forall_mem_update ?_ declares.invoices fun _ same => same)
      exact fun _ => rfl
  | takeLinkUse =>
      cases executed
      refine declares.ofLinks (Table.forall_mem_update ?_ declares.paymentLinks fun _ same => same)
      exact fun _ => rfl
  | ledgerTransaction writes =>
      obtain ⟨_, _, rfl⟩ := Statement.exec_differsAt executed
      exact { declares with }
  | insertSmsEvent | insertAiParse | insertWebhook | webhookDelivered | webhookFailed
  | webhookRetry | insertInvoiceItem | insertDomain | deleteDomain =>
      obtain ⟨_, rfl⟩ := Statement.exec_differsAt executed
      exact { declares with }
  | _ =>
      rw [Statement.exec_reads rfl executed]
      exact declares

theorem Db.Declares.apply {op : Statement} {before : Db} (declares : before.Declares currency)
    (within : op.within currency) (env : Env) :
    (sqlite.apply env op before).2.Declares currency := by
  rcases reply_cases (.commit env : sqlite.Replies false op before _ _) with
    ⟨_, _, executed, _⟩ | ⟨_, _, same⟩
  · exact declares.exec within executed
  · rw [same]
    exact declares

theorem keeps_declared_of_uses {Value : Type} {program : Program signature Value}
    (uses : program.Uses (Statement.within currency) anyway) :
    program.Keeps sqlite (Db.Declares currency) anyway :=
  uses.keeps fun _ within env _ declares => declares.apply within env

end Statements

/-! ## Requests -/

/-- The request creates what it creates in the currency. -/
def Request.declares (currency : String) : Request → Prop
  | .createCharge _ req => req.currency = currency
  | .createCheckout _ req => req.currency = currency
  | .createInvoice uuids req => (Invoice.newInvoice uuids req).currency = currency
  | .createLink uuids req => (PaymentLink.newLink uuids req).currency = currency
  | _ => True

/-- The request takes the currency over from an invoice or a link. -/
def Request.isDerived : Request → Bool
  | .issuePayment _ _ | .openLink _ _ _ => true
  | _ => false

section Requests

variable {currency : String}

theorem keeps_respond {Failure Value : Type} {holds : Db → Prop}
    {wrap : Except Failure Value → Response} {query : Query Failure Value}
    (keeps : query.run.Keeps sqlite holds anyway) :
    (respond wrap query).Keeps sqlite holds anyway :=
  keeps.bind fun _ _ => trivial

theorem Invoice.uses_collect {baseUrl id : String} {uuids : CheckoutUuids} {invoice : Invoice}
    (declared : invoice.currency = currency) :
    (collect baseUrl uuids id invoice).Uses (Statement.within currency) anyway := by
  unfold collect
  split
  · refine uses_issue (Statement.within_of_eq (congrArg some declared)) (fun _ => ?_)
      fun _ => trivial
    refine uses_issue (Statement.within_of_none rfl) (fun _ => ?_) fun _ => trivial
    exact uses_issue (Statement.within_of_none rfl) (fun _ => trivial) fun _ => trivial
  · trivial

theorem Invoice.keeps_issuePayment (baseUrl : String) (uuids : CheckoutUuids) (id : String) :
    (issuePayment baseUrl uuids id).run.Keeps sqlite (Db.Declares currency) anyway := by
  rw [run_issuePayment]
  refine Program.keeps_issue (fun env store found after declares executed => ?_) fun _ => trivial
  cases executed
  refine ⟨declares, ?_⟩
  cases loaded : store.invoices.find? (·.id == id) with
  | none => trivial
  | some invoice =>
      exact keeps_declared_of_uses
        (uses_collect (declares.invoices invoice (Table.mem_of_find?_eq_some loaded).1))

namespace PaymentLink

theorem uses_mint {baseUrl : String} {uuids : CheckoutUuids} {link : PaymentLink}
    {amountMinor : Int64} (declared : link.currency = currency) :
    (mint baseUrl uuids link amountMinor).Uses (Statement.within currency) anyway := by
  unfold mint
  split
  · exact uses_issue (Statement.within_of_eq (congrArg some declared)) (fun _ => trivial)
      fun _ => trivial
  · trivial

theorem uses_useLink {baseUrl ref : String} {uuids : CheckoutUuids} {link : PaymentLink}
    {amountOverride : Option Int64} (declared : link.currency = currency) :
    (useLink baseUrl uuids ref amountOverride link).Uses (Statement.within currency) anyway := by
  unfold useLink
  split
  · trivial
  · cases link.amountMinor.or amountOverride with
    | none => trivial
    | some amountMinor =>
        change (take baseUrl uuids ref link amountMinor).Uses (Statement.within currency) anyway
        unfold take
        split
        · exact uses_issue (Statement.within_of_none rfl) (fun _ => uses_mint declared)
            fun _ => trivial
        · exact uses_mint declared

theorem keeps_openLink (baseUrl : String) (uuids : CheckoutUuids) (ref : String)
    (amountOverride : Option Int64) :
    (openLink baseUrl uuids ref amountOverride).run.Keeps sqlite (Db.Declares currency)
      anyway := by
  rw [run_openLink]
  refine Program.keeps_issue (fun env store found after declares executed => ?_) fun _ => trivial
  cases executed
  refine ⟨declares, ?_⟩
  cases loaded : store.paymentLinks.find? (·.ref == ref) with
  | none => trivial
  | some link =>
      exact keeps_declared_of_uses
        (uses_useLink (declares.paymentLinks link (Table.mem_of_find?_eq_some loaded).1))

end PaymentLink

theorem Statement.within_of_madeBy {request : Request} {op : Statement}
    (declares : request.declares currency) (made : op.MadeBy request)
    (original : request.isDerived = false) : op.within currency := by
  cases op with
  | insertCharge columns =>
      have own := made _ rfl
      cases request with
      | createCharge | createCheckout =>
          cases own
          exact within_of_eq (congrArg some declares)
      | issuePayment | openLink => cases original
      | _ => cases own
  | insertInvoice columns =>
      have own := made _ rfl
      cases request with
      | createInvoice =>
          cases own
          exact within_of_eq (congrArg some declares)
      | _ => cases own
  | insertPaymentLink columns =>
      have own := made _ rfl
      cases request with
      | createLink =>
          cases own
          exact within_of_eq (congrArg some declares)
      | _ => cases own
  | _ => exact within_of_none rfl

theorem Request.keeps_declared (service : Service) (request : Request)
    (declares : request.declares currency) :
    (request.program service).Keeps sqlite (Db.Declares currency) anyway := by
  have own (original : request.isDerived = false) :
      (request.program service).Keeps sqlite (Db.Declares currency) anyway :=
    keeps_declared_of_uses ((request.uses_made service).mono
      (fun _ made => Statement.within_of_madeBy declares made original) fun _ _ => trivial)
  cases request with
  | issuePayment uuids invoiceId => exact keeps_respond (Invoice.keeps_issuePayment _ _ _)
  | openLink uuids ref amountOverride => exact keeps_respond (PaymentLink.keeps_openLink _ _ _ _)
  | _ => exact own rfl

end Requests

variable {service : Service} {calls : List Call} {db : Db}

theorem declares_of_history {currency : String} (history : History service Db.empty calls db)
    (declares : ∀ call ∈ calls, call.request.declares currency) : db.Declares currency := by
  induction history with
  | start => exact Db.declares_empty currency
  | serve earlier served ih =>
      have before := ih fun call member => declares call (List.mem_cons_of_mem _ member)
      exact (served.keeps (Request.keeps_declared _ _ (declares _ List.mem_cons_self)) before).2

/-- Messages settle charges of their amount in minor units, in whatever currency
those are; the ledger holds in each currency what the paid charges of that
currency amount to. Where everything is created in taka, all of it is taka. -/
theorem settles_by_minor_units (history : History service Db.empty calls db)
    (fresh : FreshIds calls) :
    (∀ event ∈ db.smsEvents, event.matched = true → ∃ charge ∈ db.charges,
      event.chargeId = some charge.id ∧ charge.status = .paid ∧
        event.amountMinor = charge.amountMinor) ∧
    (∀ currency, db.held Charge.merchantReceivable (· == currency) =
      db.paidIn (· == currency)) ∧
    ((∀ call ∈ calls, call.request.declares "BDT") →
      (∀ charge ∈ db.charges, charge.currency = "BDT") ∧
      ∀ currency, currency ≠ "BDT" →
        db.held Charge.merchantReceivable (· == currency) = 0) := by
  obtain ⟨books, _⟩ := books_of_history history fresh
  refine ⟨?_, fun currency => books.received _, fun declares => ?_⟩
  · intro event member isMatched
    obtain ⟨charge, chargeMember, reference, amount⟩ :=
      books.sound.matchedCharge event member isMatched
    have settled : 0 < db.settlements charge.id :=
      Table.count_pos_iff.mpr ⟨event, member, by simp [Db.settles, reference, isMatched]⟩
    refine ⟨charge, chargeMember, reference, ?_, amount⟩
    rcases books.accounts charge chargeMember with ⟨_, accounts⟩ | ⟨paid, _⟩
    · rw [accounts.recorded] at settled
      cases settled
    · exact paid
  · have taka := (declares_of_history history declares).charges
    refine ⟨taka, fun currency other => ?_⟩
    rw [books.received]
    have none : ∀ charge ∈ db.charges,
        (charge.status == .paid && charge.currency == currency) = false := by
      intro charge member
      simp [taka charge member, Ne.symm other]
    have unpaid : db.charges.rows.filter
        (fun charge => charge.status == .paid && charge.currency == currency) = [] :=
      List.filter_eq_nil_iff.mpr fun charge member => by simp [none charge member]
    rw [Db.paidIn, total, unpaid]
    rfl

theorem settles_by_minor_units_sample : ∃ calls,
    History sampleService Db.empty calls (sampleService.serve sampleDay Db.empty) ∧
      (∀ charge ∈ (sampleService.serve sampleDay Db.empty).charges, charge.currency = "BDT") ∧
      (sampleService.serve sampleDay Db.empty).held Charge.merchantReceivable (· == "USD") = 0 := by
  obtain ⟨calls, history, asked⟩ :=
    (History.start : History sampleService Db.empty [] Db.empty).serve_all sampleDay
  have fresh : FreshIds calls := .ofRequests asked (by decide +kernel) (by decide +kernel)
  have taka : ∀ request ∈ sampleDay.reverse ++ [], Request.declares "BDT" request := by
    simp [sampleDay, sampleOrder, samplePayment, Request.declares]
  have declares : ∀ call ∈ calls, call.request.declares "BDT" := fun call member =>
    taka _ (asked ▸ List.mem_map_of_mem member)
  obtain ⟨charges, others⟩ := (settles_by_minor_units history fresh).2.2 declares
  exact ⟨calls, history, charges, others "USD" (by decide)⟩

def dollarDay : List Request :=
  [.createCharge "1" ⟨"order-1", 50000, "USD", none, none, none⟩, samplePayment "a" "TRXA"]

/-- The taka settle the dollars. -/
theorem taka_settle_dollars : ∃ calls,
    History sampleService Db.empty calls (sampleService.serve dollarDay Db.empty) ∧
      (∃ charge ∈ (sampleService.serve dollarDay Db.empty).charges.rows,
        charge.currency = "USD" ∧ charge.status = .paid) ∧
      (sampleService.serve dollarDay Db.empty).held Charge.merchantReceivable (· == "USD") =
        50000 := by
  obtain ⟨calls, history, _⟩ :=
    (History.start : History sampleService Db.empty [] Db.empty).serve_all dollarDay
  exact ⟨calls, history, by decide +kernel, by decide +kernel⟩

end SpritexPay
