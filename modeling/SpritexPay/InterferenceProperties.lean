import SpritexPay.ApiProperties
import SpritexPay.Redaction
import SpritexPay.Resumption.Lockstep

/-! What a customer types into the hosted page decides nothing. Two sequences of
requests that differ only in what customers did leave the same database, up to
the columns customers write, and every message gets the same answer. -/

set_option autoImplicit false

namespace SpritexPay

open Binary64 Relational Resumption

/-! ## Statements -/

/-- The statements that neither write what customers type in nor answer with it. -/
def Statement.blind : Statement → Bool
  | .setChargeGateway _ _ | .setChargeClaim _ _ _ | .chargeById _ | .chargeByPayRef _ => false
  | _ => true

theorem Statement.blind_exact {op : Statement} (blind : op.blind = true) :
    op.ofCustomer = false ∧ ∀ left right : op.Answer, op.Alike left right → left = right := by
  cases op with
  | setChargeGateway | setChargeClaim | chargeById | chargeByPayRef => cases blind
  | _ => exact ⟨rfl, fun _ _ same => same⟩

theorem apply_redact {op : Statement} {left right : Db} (env : Env) (other : op.ofCustomer = false)
    (agree : left.Agree right) :
    signature.RepliesAlike Statement.Alike op (sqlite.apply env op left).1
        (sqlite.apply env op right).1 ∧
      (sqlite.apply env op left).2.Agree (sqlite.apply env op right).2 := by
  have executed := Statement.exec_redact other env right
  rw [← show left.redact = right.redact from agree,
    Statement.exec_redact other env left] at executed
  cases leftRun : op.exec env left with
  | ok leftResult =>
      cases rightRun : op.exec env right with
      | ok rightResult =>
          rw [leftRun, rightRun] at executed
          injection executed with same
          injection same with answers stores
          have leftApplied := (Machine.apply_ok leftRun : sqlite.apply env op left = _)
          have rightApplied := (Machine.apply_ok rightRun : sqlite.apply env op right = _)
          rw [leftApplied, rightApplied]
          exact ⟨answers, stores⟩
      | error error =>
          rw [leftRun, rightRun] at executed
          cases executed
  | error leftError =>
      cases rightRun : op.exec env right with
      | ok rightResult =>
          rw [leftRun, rightRun] at executed
          cases executed
      | error error =>
          rw [leftRun, rightRun] at executed
          cases executed
          have leftApplied := (Machine.apply_error leftRun : sqlite.apply env op left = _)
          have rightApplied := (Machine.apply_error rightRun : sqlite.apply env op right = _)
          rw [leftApplied, rightApplied]
          exact ⟨rfl, agree⟩

/-! ## Requests -/

def Request.ofCustomer : Request → Bool
  | .selectGateway _ _ | .submitManual _ _ _ => true
  | _ => false

/-- The same answer, or two that are not about a message. -/
def Response.Alike (left right : Response) : Prop :=
  left = right ∨ left.isIngested = false ∧ right.isIngested = false

def Statement.impartial (op : Statement) : Prop := op.ofCustomer = false

abbrev Paces {Value : Type} (ends : Value → Value → Prop) (program : Program signature Value) :
    Prop := Program.Lockstep Statement.impartial Statement.Alike ends program program

def Statement.isBlind (op : Statement) : Prop := op.blind = true

theorem paces_of_uses {Value : Type} {ends : Value → Value → Prop} {kind : Value → Prop}
    {program : Program signature Value} (uses : program.Uses Statement.isBlind kind)
    (ended : ∀ value, kind value → ends value value) : Paces ends program := by
  refine (uses.mono (fun _ => Statement.blind_exact) fun _ => id).lockstep.mono ?_
  rintro value _ ⟨rfl, ending⟩
  exact ended value ending

theorem paces_respond {Failure Value : Type} {wrap : Except Failure Value → Response}
    {query : Query Failure Value} (paces : Paces (fun _ _ => True) query.run)
    (apart : ∀ outcome, (wrap outcome).isIngested = false) :
    Paces Response.Alike (respond wrap query) :=
  paces.bind fun left right _ => .done (.inr ⟨apart left, apart right⟩)

namespace Charge

theorem id_of_redact {left right : Charge} (same : left.redact = right.redact) :
    left.id = right.id := congrArg (·.id) same

theorem paces_create (uuid : String) (req : CreateCharge) :
    Paces (fun _ _ => True) (create uuid req).run := by
  unfold create
  split
  · exact .done trivial
  · refine .stmt rfl fun left right same => ?_
    cases left with
    | error left =>
        cases right with
        | error right => cases left <;> cases right <;> exact .done trivial
        | ok _ => exact same.elim
    | ok _ =>
        cases right with
        | error error => exact same.elim
        | ok _ =>
            refine Program.lockstep_query rfl (fun left right _ => ?_) fun _ => trivial
            cases left <;> cases right <;> exact .done trivial

variable (crates : Crates) (uuids : SettlementUuids) (id : String)

theorem uses_settleFound (charge : Charge) :
    (settleFound crates uuids id charge).Uses Statement.isBlind anyway := by
  refine uses_issue rfl (fun _ => ?_) fun _ => trivial
  refine uses_issue rfl (fun _ => ?_) fun _ => trivial
  refine uses_issue rfl (fun _ => ?_) fun _ => trivial
  rw [run_notifyPaid]
  cases charge.callbackUrl with
  | none => trivial
  | some url => exact uses_issue rfl (fun _ => trivial) fun _ => trivial

/-- Settling looks at no column that customers write. -/
theorem settleFound_redact {left right : Charge} (same : left.redact = right.redact) :
    settleFound crates uuids id left = settleFound crates uuids id right := by
  have blind : ∀ charge : Charge,
      settleFound crates uuids id charge.redact = settleFound crates uuids id charge :=
    fun _ => rfl
  rw [← blind left, same, blind right]

theorem paces_markPaid : Paces Eq (markPaid crates uuids id).run := by
  rw [run_markPaid]
  refine Program.lockstep_issue rfl (fun left right same => ?_) fun _ => rfl
  cases left with
  | none =>
      cases right with
      | none => exact .done rfl
      | some right => cases same
  | some left =>
      cases right with
      | none => cases same
      | some right =>
          simp only [Option.elim, settleFound_redact crates uuids id (Option.some.inj same)]
          exact paces_of_uses (uses_settleFound crates uuids id right) fun _ _ => rfl

end Charge

theorem Checkout.paces_verify (crates : Crates) (payRef : String) :
    Paces (fun _ _ => True) (verify crates payRef).run := by
  refine Program.lockstep_query rfl (fun left right same => ?_) fun _ => trivial
  cases left with
  | none =>
      cases right with
      | none => exact .done trivial
      | some right => cases same
  | some left =>
      cases right with
      | none => cases same
      | some right =>
          have named := Charge.id_of_redact (Option.some.inj same)
          change Program.Lockstep _ _ _ (sql (.settlingTrx left.id) >>= _).run
            (sql (.settlingTrx right.id) >>= _).run
          rw [named]
          exact Program.lockstep_query rfl (fun _ _ _ => .done trivial) fun _ => trivial

theorem Sms.paces_ingest (crates : Crates) (replies : List ProviderReply) (uuids : IngestUuids)
    (gw rawBody : String) : Paces Eq (ingest crates replies uuids gw rawBody).run := by
  rw [run_ingest]
  cases resolve gw with
  | none => exact .done rfl
  | some gateway =>
      have parsing : Paces Eq (parse crates replies gateway rawBody
          (crates.sign "sms-audit" rawBody)).run := by
        refine paces_of_uses ((uses_parse crates replies gateway rawBody _).mono ?_ fun _ => id)
          fun _ _ => rfl
        intro op fallback
        cases op with
        | insertAiParse => rfl
        | _ => cases fallback
      refine parsing.bind fun outcome _ same => ?_
      subst same
      cases outcome with
      | error error => exact .done rfl
      | ok result =>
          change Paces Eq (record crates uuids _ result.1 result.2).run
          rw [run_record]
          refine Program.lockstep_issue rfl (fun candidates _ same => ?_) fun _ => rfl
          obtain rfl : candidates = _ := same
          refine Program.lockstep_issue rfl (fun _ _ _ => ?_) fun _ => rfl
          cases pick result.1.senderMsisdn candidates with
          | none => exact .done rfl
          | some chargeId =>
              refine (Charge.paces_markPaid crates uuids.settlement chargeId).bind ?_
              rintro left _ rfl
              exact .done rfl

theorem Request.paces_program (service : Service) (request : Request)
    (other : request.ofCustomer = false) :
    Paces Response.Alike (request.program service) := by
  have blind : ∀ {Failure Value : Type} {wrap : Except Failure Value → Response}
      {query : Query Failure Value}, query.run.Uses Statement.isBlind anyway →
      (∀ outcome, (wrap outcome).isIngested = false) →
        Paces Response.Alike (respond wrap query) := fun uses apart =>
    paces_respond (paces_of_uses uses fun _ _ => trivial) apart
  cases request with
  | selectGateway | submitManual => cases other
  | createCharge uuid req => exact paces_respond (Charge.paces_create uuid req) fun _ => rfl
  | verify payRef => exact paces_respond (Checkout.paces_verify _ payRef) fun _ => rfl
  | ingest uuids replies gw rawBody =>
      refine (Sms.paces_ingest service.crates replies uuids gw rawBody).bind ?_
      rintro left _ rfl
      exact .done (.inl rfl)
  | createCheckout uuids req =>
      exact blind (Checkout.uses_createCheckout rfl (fun _ => rfl) rfl) fun _ => rfl
  | createInvoice uuids req =>
      exact blind (Invoice.uses_create rfl (fun _ => rfl) fun _ => rfl) fun _ => rfl
  | issuePayment uuids invoiceId =>
      refine blind ?_ fun _ => rfl
      exact Invoice.uses_issuePayment rfl rfl (fun _ => rfl) (fun _ => rfl) (fun _ => rfl)
        fun _ _ => rfl
  | createLink uuids req =>
      exact blind (PaymentLink.uses_create rfl fun _ => rfl) fun _ => rfl
  | openLink uuids ref amountOverride =>
      refine blind ?_ fun _ => rfl
      exact PaymentLink.uses_openLink rfl rfl rfl (fun _ => rfl) fun _ _ => rfl
  | reconcile gateway => exact blind (uses_reconcile rfl rfl) fun _ => rfl
  | accountBalance account => exact blind (uses_last rfl) fun _ => rfl
  | createDomain uuid domain => exact blind (uses_last rfl) fun _ => rfl
  | deleteDomain id => exact blind (uses_sql rfl fun _ => trivial) fun _ => rfl
  | pollWebhooks =>
      refine blind (Webhook.uses_drainDue _ _ ?_) fun _ => rfl
      exact ⟨rfl, fun _ _ => rfl, fun _ _ => rfl, fun _ _ _ => rfl, fun _ _ _ _ => rfl⟩

def Statement.typed (op : Statement) : Prop := op.ofCustomer = true

theorem Request.serve_customer (service : Service) (request : Request)
    (own : request.ofCustomer = true) (envs : Nat → Env) (db : Db) :
    (sqlite.run (request.program service) envs db).1.isIngested = false ∧
      db.Agree (sqlite.run (request.program service) envs db).2 := by
  have uses : (request.program service).Uses Statement.typed
      fun response => response.isIngested = false := by
    cases request with
    | selectGateway payRef gateway =>
        refine uses_respond ?_ fun _ => rfl
        exact Checkout.uses_selectGateway rfl
    | submitManual payRef trxId sender =>
        refine uses_respond ?_ fun _ => rfl
        exact Checkout.uses_submitManual rfl
    | _ => cases own
  refine (sqlite.runs_run (request.program service) envs db).relates uses (fun _ => rfl)
    Db.Agree.trans fun env op before typed => ?_
  cases op with
  | setChargeGateway payRef gateway => exact (Db.redact_setChargeGateway payRef gateway).symm
  | setChargeClaim payRef trxId sender => exact (Db.redact_setChargeClaim payRef trxId sender).symm
  | _ => cases typed

theorem Request.serve_other (service : Service) (request : Request)
    (other : request.ofCustomer = false) (envs : Nat → Env) {left right : Db}
    (agree : left.Agree right) :
    (sqlite.run (request.program service) envs left).1.Alike
        (sqlite.run (request.program service) envs right).1 ∧
      (sqlite.run (request.program service) envs left).2.Agree
        (sqlite.run (request.program service) envs right).2 :=
  Machine.run_lockstep (fun env _ _ _ other agree => apply_redact env other agree)
    (request.paces_program service other) envs agree

/-! ## Runs -/

/-- A request with the environment of each statement it executes. -/
structure Operation where
  request : Request
  envs : Nat → Env

/-- Serve the operations in order. -/
def Service.perform (service : Service) : List Operation → Db → List Response × Db
  | [], db => ([], db)
  | operation :: rest, db =>
      let served := sqlite.run (operation.request.program service) operation.envs db
      let later := service.perform rest served.2
      (served.1 :: later.1, later.2)

/-- What is left of a sequence of operations without those of customers. -/
def withoutCustomers (operations : List Operation) : List Operation :=
  operations.filter fun operation => !operation.request.ofCustomer

def ingestResults (responses : List Response) : List Response :=
  responses.filter Response.isIngested

section Runs

variable (service : Service)

theorem ingestResults_cons_of_alike {left right : Response} {leftRest rightRest : List Response}
    (alike : left.Alike right) (rest : ingestResults leftRest = ingestResults rightRest) :
    ingestResults (left :: leftRest) = ingestResults (right :: rightRest) := by
  unfold ingestResults at rest ⊢
  rcases alike with rfl | ⟨leftApart, rightApart⟩
  · rw [List.filter_cons, List.filter_cons, rest]
  · rw [List.filter_cons_of_neg (by simp [leftApart]),
      List.filter_cons_of_neg (by simp [rightApart]), rest]

/-- Leaving out what customers do changes nothing that they do not write. -/
theorem perform_withoutCustomers (operations : List Operation) {left right : Db}
    (agree : left.Agree right) :
    (service.perform operations left).2.Agree
        (service.perform (withoutCustomers operations) right).2 ∧
      ingestResults (service.perform operations left).1 =
        ingestResults (service.perform (withoutCustomers operations) right).1 := by
  induction operations generalizing left right with
  | nil => exact ⟨agree, rfl⟩
  | cons operation rest ih =>
      cases own : operation.request.ofCustomer with
      | true =>
          obtain ⟨apart, same⟩ := operation.request.serve_customer service own operation.envs left
          obtain ⟨after, results⟩ := ih (same.symm.trans agree)
          simp only [withoutCustomers, List.filter_cons, own, Bool.not_true, Bool.false_eq_true,
            if_false]
          refine ⟨after, Eq.trans ?_ results⟩
          simp only [Service.perform, ingestResults]
          exact List.filter_cons_of_neg (by simp [apart])
      | false =>
          obtain ⟨alike, same⟩ := operation.request.serve_other service own operation.envs agree
          obtain ⟨after, results⟩ := ih same
          simp only [withoutCustomers, List.filter_cons, own, Bool.not_false, if_true]
          exact ⟨after, ingestResults_cons_of_alike alike results⟩

theorem exists_prefix_withoutCustomers {left right past : List Operation}
    (same : withoutCustomers left = withoutCustomers right) (earlier : past <+: left) :
    ∃ other, other <+: right ∧ withoutCustomers past = withoutCustomers other := by
  have shorter : withoutCustomers past <+: withoutCustomers right :=
    same ▸ earlier.filter _
  exact (List.prefix_filter_iff.mp shorter)

/-- Two runs from one state that differ only in what customers select and claim:
after every prefix, whatever customers did in it, the databases agree on all
that customers do not write, and every message got the same answer. -/
theorem customers_never_interfere (start : Db) {left right : List Operation}
    (same : withoutCustomers left = withoutCustomers right) :
    ∀ leftPast, leftPast <+: left →
      (∃ rightPast, rightPast <+: right ∧
        withoutCustomers leftPast = withoutCustomers rightPast) ∧
      ∀ rightPast, rightPast <+: right →
        withoutCustomers leftPast = withoutCustomers rightPast →
        (service.perform leftPast start).2.Agree (service.perform rightPast start).2 ∧
          ingestResults (service.perform leftPast start).1 =
            ingestResults (service.perform rightPast start).1 := by
  intro leftPast earlier
  refine ⟨exists_prefix_withoutCustomers same earlier, fun rightPast _ served => ?_⟩
  have self : start.Agree start := rfl
  obtain ⟨leftAgree, leftResults⟩ := perform_withoutCustomers service leftPast self
  obtain ⟨rightAgree, rightResults⟩ := perform_withoutCustomers service rightPast self
  rw [served] at leftAgree leftResults
  exact ⟨leftAgree.trans rightAgree.symm, leftResults.trans rightResults.symm⟩

end Runs

def inSampleEnv (request : Request) : Operation := ⟨request, fun _ => sampleEnv⟩

def sampleCheckout : Request :=
  .createCheckout ⟨"1", "1"⟩ ⟨none, none, none, (F64.ofI64 50000).unscale 100, "BDT", none, none,
    .null⟩

/-- A customer who claims a payment that was never made. -/
def claimedRun : List Operation :=
  [sampleCheckout, .selectGateway "pay_1" "nagad",
    .submitManual "pay_1" "TRXFAKE" (some "01700000000"), samplePayment "a" "TRXA"].map inSampleEnv

def unclaimedRun : List Operation := [sampleCheckout, samplePayment "a" "TRXA"].map inSampleEnv

theorem customers_never_interfere_sample :
    (sampleService.perform claimedRun Db.empty).2.Agree
        (sampleService.perform unclaimedRun Db.empty).2 ∧
      (sampleService.perform unclaimedRun Db.empty).2.postings "chg_1" = 1 := by
  have same : withoutCustomers claimedRun = withoutCustomers unclaimedRun := rfl
  have prefixes := customers_never_interfere sampleService Db.empty same
  refine ⟨?_, by decide +kernel⟩
  exact ((prefixes claimedRun (List.prefix_refl _)).2 unclaimedRun (List.prefix_refl _) same).1

end SpritexPay
