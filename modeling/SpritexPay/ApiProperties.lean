import SpritexPay.Api
import SpritexPay.SmsProperties

/-! Which statements the functions of the engine issue. Only an ingested message
settles anything: no other request issues a statement that records a message,
posts, pays a charge or an invoice, or queues a notification. -/

set_option autoImplicit false

namespace SpritexPay

open Resumption

def anyway {Value : Type} : Value → Prop := fun _ => True

section Rules

variable {Failure Value : Type} {allowed : Statement → Prop}

theorem uses_sql [FromError SqlError Failure] {op : Statement}
    {rest : op.Answer → Query Failure Value} (permitted : allowed op)
    (succeeded : ∀ answer, (rest answer).run.Uses allowed anyway) :
    (sql op >>= rest).run.Uses allowed anyway :=
  ⟨permitted, fun reply => by
    cases reply with
    | ok answer => exact succeeded answer
    | error error => trivial⟩

theorem uses_last [FromError SqlError Failure] {op : Statement} (permitted : allowed op) :
    (sql op : Query Failure op.Answer).run.Uses allowed anyway :=
  ⟨permitted, fun _ => trivial⟩

theorem uses_then {Result : Type} {query : Query Failure Value}
    {rest : Value → Query Failure Result} (first : query.run.Uses allowed anyway)
    (second : ∀ value, (rest value).run.Uses allowed anyway) :
    (query >>= rest).run.Uses allowed anyway :=
  uses_bind first (fun value _ => second value) fun _ _ => trivial

theorem uses_converted {OtherFailure : Type} {convert : Failure → OtherFailure}
    {query : Query Failure Value} (uses : query.run.Uses allowed anyway) :
    (query.adapt convert).run.Uses allowed anyway := uses_adapt uses

end Rules

section Functions

variable {allowed : Statement → Prop}

theorem Domain.uses_isAllowed (url : Option String) (counts : allowed .domainCount)
    (looks : ∀ host, allowed (.domainNamed host)) :
    (isAllowed url).run.Uses allowed anyway := by
  cases url with
  | none => trivial
  | some url =>
      refine uses_sql counts fun count => ?_
      split
      · trivial
      · split
        · trivial
        · exact uses_sql (looks _) fun hit => trivial

namespace Checkout

theorem uses_urlsAllowed (req : CreateCheckout) (counts : allowed .domainCount)
    (looks : ∀ host, allowed (.domainNamed host)) :
    (urlsAllowed req).run.Uses allowed anyway := by
  refine uses_then (Domain.uses_isAllowed req.returnUrl counts looks) fun isAllowed => ?_
  split
  · exact Domain.uses_isAllowed req.webhookUrl counts looks
  · trivial

theorem uses_createCheckout {baseUrl : String} {uuids : CheckoutUuids} {req : CreateCheckout}
    (counts : allowed .domainCount) (looks : ∀ host, allowed (.domainNamed host))
    (inserts : allowed (.insertCharge (newCharge uuids req))) :
    (createCheckout baseUrl uuids req).run.Uses allowed anyway := by
  unfold createCheckout
  split
  · trivial
  · refine uses_then (uses_converted (uses_urlsAllowed req counts looks)) fun isAllowed => ?_
    split
    · exact uses_sql inserts fun _ => trivial
    · trivial

theorem uses_selectGateway {payRef gateway : String}
    (sets : allowed (.setChargeGateway payRef gateway)) :
    (selectGateway payRef gateway).run.Uses allowed anyway := by
  refine uses_sql sets fun affected => ?_
  split <;> trivial

theorem uses_submitManual {payRef trxId : String} {sender : Option String}
    (sets : allowed (.setChargeClaim payRef trxId sender)) :
    (submitManual payRef trxId sender).run.Uses allowed anyway := by
  refine uses_sql sets fun affected => ?_
  split <;> trivial

theorem uses_verify (crates : Crates) {payRef : String} (finds : allowed (.chargeByPayRef payRef))
    (reads : ∀ id, allowed (.settlingTrx id)) :
    (verify crates payRef).run.Uses allowed anyway := by
  refine uses_sql finds fun found => ?_
  cases found with
  | none => trivial
  | some charge => exact uses_sql (reads _) fun _ => trivial

end Checkout

namespace Charge

theorem uses_get {id : String} (finds : allowed (.chargeById id)) :
    (get id).run.Uses allowed anyway := by
  refine uses_sql finds fun found => ?_
  cases found <;> trivial

theorem uses_create {uuid : String} {req : CreateCharge}
    (inserts : allowed (.insertCharge (newCharge uuid req)))
    (finds : ∀ id, allowed (.chargeById id)) : (create uuid req).run.Uses allowed anyway := by
  unfold create
  split
  · trivial
  · refine ⟨inserts, fun inserted => ?_⟩
    cases inserted with
    | error error => cases error <;> trivial
    | ok _ => exact uses_get (finds _)

theorem uses_markPaid (crates : Crates) (uuids : SettlementUuids) (id : String)
    (finds : allowed (.chargeById id))
    (posts : ∀ txnId reference memo entries,
      allowed (.ledgerTransaction (Db.postingWrites txnId reference memo entries)))
    (pays : allowed (.setChargePaid id)) (collects : allowed (.settleInvoices id))
    (queues : ∀ columns, allowed (.insertWebhook columns)) :
    (markPaid crates uuids id).run.Uses allowed anyway := by
  rw [run_markPaid]
  refine uses_issue finds (fun found => ?_) fun _ => trivial
  cases found with
  | none => trivial
  | some charge =>
      refine uses_issue (posts _ _ _ _) (fun _ => ?_) fun _ => trivial
      refine uses_issue pays (fun _ => ?_) fun _ => trivial
      refine uses_issue collects (fun _ => ?_) fun _ => trivial
      rw [run_notifyPaid]
      cases charge.callbackUrl with
      | none => trivial
      | some url => exact uses_issue (queues _) (fun _ => trivial) fun _ => trivial

end Charge

namespace Invoice

theorem uses_insertItems (invoiceId : String) (uuid : Nat → String) (index : Nat)
    (items : List LineItem) (inserts : ∀ columns, allowed (.insertInvoiceItem columns)) :
    (insertItems invoiceId uuid index items).run.Uses allowed anyway := by
  induction items generalizing index with
  | nil => trivial
  | cons item items ih => exact uses_sql (inserts _) fun _ => ih (index + 1)

def newInvoice (uuids : InvoiceUuids) (req : CreateInvoice) : NewInvoice where
  id := "inv_" ++ uuids.invoice
  number := req.number.getD
    ("INV-" ++ String.ofList ((("inv_" ++ uuids.invoice).toList.drop 4).take 8))
  customerId := req.customerId
  amountMinor := total req.items
  currency := req.currency.getD "BDT"

theorem uses_create {uuids : InvoiceUuids} {req : CreateInvoice}
    (drafts : allowed (.insertInvoice (newInvoice uuids req)))
    (inserts : ∀ columns, allowed (.insertInvoiceItem columns))
    (finds : ∀ id, allowed (.invoiceById id)) : (create uuids req).run.Uses allowed anyway := by
  simp only [create]
  split
  · trivial
  · refine uses_sql drafts fun _ => ?_
    refine uses_then (uses_insertItems _ _ _ _ inserts) fun _ => ?_
    refine uses_then (uses_converted (uses_last (finds _))) fun found => ?_
    cases found <;> trivial

theorem uses_issuePayment {baseUrl : String} {uuids : CheckoutUuids} {id : String}
    (finds : allowed (.invoiceById id)) (counts : allowed .domainCount)
    (looks : ∀ host, allowed (.domainNamed host))
    (inserts : ∀ invoice,
      allowed (.insertCharge (Checkout.newCharge uuids (checkoutRequest invoice))))
    (reads : ∀ payRef, allowed (.chargeIdByPayRef payRef))
    (links : ∀ payRef chargeId, allowed (.linkInvoice id payRef chargeId)) :
    (issuePayment baseUrl uuids id).run.Uses allowed anyway := by
  refine uses_then (uses_converted (uses_last finds)) fun found => ?_
  cases found with
  | none => trivial
  | some invoice =>
      refine uses_then (uses_converted
        (Checkout.uses_createCheckout counts looks (inserts invoice))) fun created => ?_
      exact uses_sql (reads _) fun chargeId => uses_sql (links _ _) fun _ => trivial

end Invoice

namespace PaymentLink

def newLink (uuids : LinkUuids) (req : CreatePaymentLink) : NewPaymentLink where
  id := "lnk_" ++ uuids.link
  ref := String.ofList (uuids.ref.toList.take 12)
  productName := req.productName
  amountMinor := req.amountMinor
  currency := (req.currency.filter fun currency => !currency.isEmpty).getD "BDT"
  quantity := req.quantity.map Int64.toInt

theorem uses_create {uuids : LinkUuids} {req : CreatePaymentLink}
    (inserts : allowed (.insertPaymentLink (newLink uuids req)))
    (finds : ∀ ref, allowed (.linkByRef ref)) : (create uuids req).run.Uses allowed anyway := by
  refine uses_sql inserts fun _ => ?_
  refine uses_then (uses_last (finds _)) fun found => ?_
  cases found <;> trivial

theorem uses_consumeUse {ref : String} (quantity : Option Int)
    (takes : allowed (.takeLinkUse ref)) : (consumeUse ref quantity).run.Uses allowed anyway := by
  cases quantity with
  | none => trivial
  | some quantity =>
      simp only [consumeUse]
      split
      · exact uses_last takes
      · trivial

theorem uses_openLink {baseUrl : String} {uuids : CheckoutUuids} {ref : String}
    {amountOverride : Option Int64} (finds : allowed (.linkByRef ref))
    (takes : allowed (.takeLinkUse ref)) (counts : allowed .domainCount)
    (looks : ∀ host, allowed (.domainNamed host))
    (inserts : ∀ link amountMinor,
      allowed (.insertCharge (Checkout.newCharge uuids (checkoutRequest link amountMinor)))) :
    (openLink baseUrl uuids ref amountOverride).run.Uses allowed anyway := by
  refine uses_then (uses_last finds) fun found => ?_
  cases found with
  | none => trivial
  | some link =>
      simp only
      split
      · trivial
      · split
        · trivial
        · refine uses_then (uses_consumeUse _ takes) fun _ => ?_
          exact uses_converted (Checkout.uses_createCheckout counts looks (inserts _ _))

end PaymentLink

theorem uses_reconcile {gateway : Option String} (sums : allowed (.settledTotals gateway))
    (counts : allowed .pendingCount) : (reconcile gateway).run.Uses allowed anyway :=
  uses_sql sums fun _ => uses_sql counts fun _ => trivial

structure Webhook.Works (allowed : Statement → Prop) : Prop where
  due : allowed .dueWebhooks
  post : ∀ delivery signature, allowed (.postWebhook delivery signature)
  delivered : ∀ id attempts, allowed (.webhookDelivered id attempts)
  failed : ∀ id attempts lastError, allowed (.webhookFailed id attempts lastError)
  retry : ∀ id attempts lastError delay, allowed (.webhookRetry id attempts lastError delay)

theorem Webhook.uses_deliverAll (crates : Crates) (secret : String) (due : List Due)
    (works : Works allowed) : (deliverAll crates secret due).run.Uses allowed anyway := by
  induction due with
  | nil => trivial
  | cons delivery due ih =>
      refine uses_then ?_ fun _ => ih
      refine uses_sql (works.post _ _) fun outcome => ?_
      split
      · exact uses_last (works.delivered _ _)
      · split
        · exact uses_last (works.failed _ _ _)
        · exact uses_last (works.retry _ _ _ _)

theorem Webhook.uses_drainDue (crates : Crates) (secret : String) (works : Works allowed) :
    (drainDue crates secret).run.Uses allowed anyway :=
  uses_sql works.due fun due => Webhook.uses_deliverAll crates secret due works

theorem Sms.uses_ingest (crates : Crates) (replies : List ProviderReply) (uuids : IngestUuids)
    (gw rawBody : String) (logs : ∀ columns, allowed (.insertAiParse columns))
    (looks : ∀ amountMinor, allowed (.pendingByAmount amountMinor))
    (records : ∀ columns, allowed (.insertSmsEvent columns))
    (settles : ∀ id, (Charge.markPaid crates uuids.settlement id).run.Uses allowed anyway) :
    (ingest crates replies uuids gw rawBody).run.Uses allowed anyway := by
  rw [run_ingest]
  cases resolve gw with
  | none => trivial
  | some gateway =>
      refine ((uses_parse crates replies gateway rawBody _).mono ?_ fun _ _ => trivial).bind ?_
      · intro op fallback
        cases op with
        | insertAiParse columns => exact logs columns
        | _ => cases fallback
      · intro outcome _
        cases outcome with
        | error error => trivial
        | ok result =>
            change (record crates uuids _ result.1 result.2).run.Uses allowed anyway
            rw [run_record]
            refine uses_issue (looks _) (fun candidates => ?_) fun _ => trivial
            refine uses_issue (records _) (fun _ => ?_) fun _ => trivial
            cases pick result.1.senderMsisdn candidates with
            | none => trivial
            | some chargeId => exact (settles chargeId).bind fun _ _ => trivial

end Functions

/-! ## Settlement -/

/-- A statement outside the settlement of charges. -/
def Statement.aside (op : Statement) : Prop := op.settling = false

def Request.isIngest : Request → Bool
  | .ingest _ _ _ _ => true
  | _ => false

def Response.isIngested : Response → Bool
  | .ingested _ => true
  | _ => false

theorem uses_respond {Failure Value : Type} {allowed : Statement → Prop}
    {wrap : Except Failure Value → Response} {query : Query Failure Value}
    (uses : query.run.Uses allowed anyway) {ends : Response → Prop}
    (wrapped : ∀ outcome, ends (wrap outcome)) : (respond wrap query).Uses allowed ends :=
  uses.bind fun outcome _ => wrapped outcome

/-- The statements a request may issue. -/
def Request.issues : Request → Statement → Bool
  | .createCharge _ _ => fun
    | .insertCharge _ | .chargeById _ => true
    | _ => false
  | .createCheckout _ _ => fun
    | .domainCount | .domainNamed _ | .insertCharge _ => true
    | _ => false
  | .selectGateway _ _ => fun
    | .setChargeGateway _ _ => true
    | _ => false
  | .submitManual _ _ _ => fun
    | .setChargeClaim _ _ _ => true
    | _ => false
  | .verify _ => fun
    | .chargeByPayRef _ | .settlingTrx _ => true
    | _ => false
  | .createInvoice _ _ => fun
    | .insertInvoice _ | .insertInvoiceItem _ | .invoiceById _ => true
    | _ => false
  | .issuePayment _ _ => fun
    | .invoiceById _ | .domainCount | .domainNamed _ | .insertCharge _ | .chargeIdByPayRef _
    | .linkInvoice _ _ _ => true
    | _ => false
  | .createLink _ _ => fun
    | .insertPaymentLink _ | .linkByRef _ => true
    | _ => false
  | .openLink _ _ _ => fun
    | .linkByRef _ | .takeLinkUse _ | .domainCount | .domainNamed _ | .insertCharge _ => true
    | _ => false
  | .ingest _ _ _ _ => fun
    | .insertAiParse _ | .pendingByAmount _ | .insertSmsEvent _ | .chargeById _
    | .ledgerTransaction _ | .setChargePaid _ | .settleInvoices _ | .insertWebhook _ => true
    | _ => false
  | .reconcile _ => fun
    | .settledTotals _ | .pendingCount => true
    | _ => false
  | .accountBalance _ => fun
    | .accountBalance _ => true
    | _ => false
  | .createDomain _ _ => fun
    | .insertDomain _ _ => true
    | _ => false
  | .deleteDomain _ => fun
    | .deleteDomain _ => true
    | _ => false
  | .pollWebhooks => fun
    | .dueWebhooks | .postWebhook _ _ | .webhookDelivered _ _ | .webhookFailed _ _ _
    | .webhookRetry _ _ _ _ => true
    | _ => false

theorem Request.uses_issues (service : Service) (request : Request) :
    (request.program service).Uses (fun op => request.issues op = true)
      fun response => response.isIngested = request.isIngest := by
  cases request with
  | createCharge uuid req =>
      refine uses_respond ?_ fun _ => rfl
      exact Charge.uses_create rfl fun _ => rfl
  | createCheckout uuids req =>
      refine uses_respond ?_ fun _ => rfl
      exact Checkout.uses_createCheckout rfl (fun _ => rfl) rfl
  | selectGateway payRef gateway =>
      refine uses_respond ?_ fun _ => rfl
      exact Checkout.uses_selectGateway rfl
  | submitManual payRef trxId sender =>
      refine uses_respond ?_ fun _ => rfl
      exact Checkout.uses_submitManual rfl
  | verify payRef =>
      refine uses_respond ?_ fun _ => rfl
      exact Checkout.uses_verify _ rfl fun _ => rfl
  | createInvoice uuids req =>
      refine uses_respond ?_ fun _ => rfl
      exact Invoice.uses_create rfl (fun _ => rfl) fun _ => rfl
  | issuePayment uuids invoiceId =>
      refine uses_respond ?_ fun _ => rfl
      exact Invoice.uses_issuePayment rfl rfl (fun _ => rfl) (fun _ => rfl) (fun _ => rfl)
        fun _ _ => rfl
  | createLink uuids req =>
      refine uses_respond ?_ fun _ => rfl
      exact PaymentLink.uses_create rfl fun _ => rfl
  | openLink uuids ref amountOverride =>
      refine uses_respond ?_ fun _ => rfl
      exact PaymentLink.uses_openLink rfl rfl rfl (fun _ => rfl) fun _ _ => rfl
  | ingest uuids replies gw rawBody =>
      refine uses_respond ?_ fun _ => rfl
      refine Sms.uses_ingest _ _ _ _ _ (fun _ => rfl) (fun _ => rfl) (fun _ => rfl) fun id => ?_
      exact Charge.uses_markPaid _ _ _ rfl (fun _ _ _ _ => rfl) rfl rfl fun _ => rfl
  | reconcile gateway =>
      refine uses_respond ?_ fun _ => rfl
      exact uses_reconcile rfl rfl
  | accountBalance account =>
      refine uses_respond (uses_last ?_) fun _ => rfl
      rfl
  | createDomain uuid domain =>
      refine uses_respond (uses_last ?_) fun _ => rfl
      rfl
  | deleteDomain id =>
      refine uses_respond ?_ fun _ => rfl
      exact uses_sql rfl fun _ => trivial
  | pollWebhooks =>
      refine uses_respond ?_ fun _ => rfl
      exact Webhook.uses_drainDue _ _
        ⟨rfl, fun _ _ => rfl, fun _ _ => rfl, fun _ _ _ => rfl, fun _ _ _ _ => rfl⟩

theorem Request.uses_program (service : Service) (request : Request)
    (other : request.isIngest = false) :
    (request.program service).Uses Statement.aside fun response => response.isIngested = false := by
  refine (request.uses_issues service).mono (fun op issued => ?_) fun _ kind => kind.trans other
  cases request with
  | ingest => cases other
  | _ => cases op <;> first | rfl | cases issued

end SpritexPay
