import SpritexPay.CreditProperties
import SpritexPay.Dispatch
import SpritexPay.HandlerProperties

/-! The surface over the engine. A request that comes in fronts for one request of the
engine at most, so what the surface does to the payments is what a pool of these
requests does, and all that holds of every pool holds of it. -/

set_option autoImplicit false

namespace SpritexPay

open Binary64 Relational Resumption

namespace Http

variable (installation : Installation)

/-- What a request asks of the engine, if its guard lets it through. -/
def Incoming.request (incoming : Incoming) : Option Request :=
  match incoming.endpoint with
  | .smsWebhook raw =>
      match incoming.headers.xSignature with
      | none => none
      | some signature =>
          if Crypto.verify installation.hmac installation.config.smsHmacSecret.toUTF8 raw
              signature then
            (installation.payloadFromSlice raw).map fun payload =>
              .ingest (ingestUuids incoming.uuids) incoming.replies payload.gateway payload.body
          else none
  | .checkoutSelect payRef gateway => some (.selectGateway payRef gateway)
  | .checkoutClaim payRef trxId sender => some (.submitManual payRef trxId sender)
  | .openLink ref => some (.openLink (checkoutUuids incoming.uuids) ref none)
  | .openLinkAmount ref amount =>
      some (.openLink (checkoutUuids incoming.uuids) ref (some (Checkout.minorUnits amount)))
  | .apiCreateCheckout req => some (.createCheckout (checkoutUuids incoming.uuids) req)
  | .apiVerifyPayment sapId => some (.verify sapId)
  | .createCharge req => some (.createCharge (incoming.uuids 0) req)
  | .ledgerQuery gateway => some (.reconcile gateway)
  | .reconChat _ =>
      match classifyQuestion installation.intentFromStr incoming.replies with
      | .ok (some intent) =>
          if intent.intent = "reconcile" then some (.reconcile intent.gateway) else none
      | _ => none
  | .createInvoice req => some (.createInvoice (invoiceUuids incoming.uuids) req)
  | .issueInvoice id => some (.issuePayment (checkoutUuids incoming.uuids) id)
  | .createLink req => some (.createLink (linkUuids incoming.uuids) req)
  | .createDomain domain => some (.createDomain (incoming.uuids 0) domain)
  | .deleteDomain id => some (.deleteDomain id)
  | _ => none

/-- Whether a request for the console has a session. Keys are looked up later. -/
def Incoming.admitted (incoming : Incoming) : Bool :=
  match incoming.endpoint.tier with
  | .admin =>
      requireAuth installation.hmac installation.config incoming.headers.authorization incoming.now
  | _ => true

end Http

/-- What a task may ask of the engine. -/
def Task.request (installation : Installation) : Task → Option Request
  | .incoming request =>
      if request.admitted installation then request.request installation else none
  | .poll => some .pollWebhooks

/-! ## Functions over an annex -/

section Rules

variable {Failure Value Result Final : Type}

/-- The same statements, whatever is replied. -/
abbrev Twins (ends : Value → Value → Prop) : Program signature Value → Program signature Value →
    Prop := Program.Lockstep (fun _ => True) (fun _ => Eq) ends

theorem twins_refl (program : Program signature Value) : Twins Eq program program :=
  Program.lockstep_refl (fun _ _ _ same => same) program

theorem fronts_engine {wrap : Except Failure Value → Response} {query other : Query Failure Value}
    {ends : Except Failure Value → Except Failure Value → Prop}
    (twins : Twins ends query.run other.run)
    {finish : Except Failure Value → Program console.signature Final}
    (rest : ∀ outcome, (finish outcome).Aloof) :
    ((engine query).run >>= finish).Fronts (respond wrap other) :=
  twins.lift_fronts fun outcome _ _ => (rest outcome).fronts _

theorem fronts_adapt {OtherFailure : Type} {convert : Failure → OtherFailure}
    {wrap : Except Failure Value → Response} {query other : Query Failure Value}
    {ends : Except Failure Value → Except Failure Value → Prop}
    (twins : Twins ends query.run other.run) {rest : Value → Site OtherFailure Final}
    (later : ∀ value, (rest value).run.Aloof) :
    ((engine query).adapt convert >>= rest).run.Fronts (respond wrap other) := by
  rw [run_adapt_bind]
  refine fronts_engine twins fun outcome => ?_
  cases outcome with
  | ok value => exact later value
  | error failure => trivial

theorem fronts_answering {convert : Failure → Http.ApiError} {status : Http.Status}
    {shown : Value → Http.Body} {wrap : Except Failure Value → Response}
    {query other : Query Failure Value}
    {ends : Except Failure Value → Except Failure Value → Prop}
    (twins : Twins ends query.run other.run) :
    (Http.answering convert status shown (engine query)).run.Fronts (respond wrap other) :=
  fronts_adapt twins fun _ => trivial

end Rules

/-! ## The base of a pay URL -/

/-- Two outcomes of a checkout that name the same charge. -/
def SameCheckout {Failure : Type} :
    Except Failure CheckoutCreated → Except Failure CheckoutCreated → Prop
  | .ok left, .ok right => left.sapId = right.sapId
  | .error left, .error right => left = right
  | _, _ => False

theorem SameCheckout.mapError {Failure Other : Type} {left right : Except Failure CheckoutCreated}
    (same : SameCheckout left right) (convert : Failure → Other) :
    SameCheckout (left.mapError convert) (right.mapError convert) := by
  cases left with
  | ok left =>
      cases right with
      | ok right => exact same
      | error right => exact same.elim
  | error left =>
      cases right with
      | ok right => exact same.elim
      | error right => exact congrArg convert same

section Bases

variable (base other : String) (uuids : CheckoutUuids)

/-- The base URL shows in the answer only. -/
theorem twins_createCheckout (req : CreateCheckout) :
    Twins SameCheckout (Checkout.createCheckout base uuids req).run
      (Checkout.createCheckout other uuids req).run := by
  unfold Checkout.createCheckout
  split
  · exact .done rfl
  · refine (twins_refl ((Checkout.urlsAllowed req).adapt CheckoutError.db).run).bind ?_
    intro allowed _ same
    subst same
    cases allowed with
    | error failure => exact .done rfl
    | ok allowed =>
        cases allowed with
        | false => exact .done rfl
        | true =>
            refine (twins_refl (sql (.insertCharge (Checkout.newCharge uuids req))).run).bind ?_
            intro stored _ same
            subst same
            cases stored with
            | error failure => exact .done rfl
            | ok _ => exact .done rfl

theorem twins_adapted {Failure : Type} (convert : CheckoutError → Failure) (req : CreateCheckout) :
    Twins SameCheckout ((Checkout.createCheckout base uuids req).adapt convert).run
      ((Checkout.createCheckout other uuids req).adapt convert).run :=
  (twins_createCheckout base other uuids req).bind fun _ _ same => .done (same.mapError convert)

theorem twins_issuePayment (id : String) :
    Twins SameCheckout (Invoice.issuePayment base uuids id).run
      (Invoice.issuePayment other uuids id).run := by
  refine (twins_refl ((Invoice.get id).adapt InvoiceError.db).run).bind ?_
  intro found _ same
  subst same
  cases found with
  | error failure => exact .done rfl
  | ok found =>
      cases found with
      | none => exact .done rfl
      | some invoice =>
          refine (twins_adapted base other uuids _ _).bind ?_
          intro left right same
          cases left with
          | error left =>
              cases right with
              | error right => exact .done same
              | ok right => exact same.elim
          | ok left =>
              cases right with
              | error right => exact same.elim
              | ok right =>
                  obtain ⟨sapId, leftUrl⟩ := left
                  obtain ⟨_, rightUrl⟩ := right
                  obtain rfl : sapId = _ := same
                  refine (twins_refl (sql (.chargeIdByPayRef sapId)).run).bind ?_
                  intro looked _ same
                  subst same
                  cases looked with
                  | error failure => exact .done rfl
                  | ok chargeId =>
                      refine (twins_refl (sql (.linkInvoice id sapId chargeId)).run).bind ?_
                      intro linked _ same
                      subst same
                      cases linked with
                      | error failure => exact .done rfl
                      | ok _ => exact .done rfl

theorem twins_openLink (ref : String) (amountOverride : Option Int64) :
    Twins SameCheckout (PaymentLink.openLink base uuids ref amountOverride).run
      (PaymentLink.openLink other uuids ref amountOverride).run := by
  refine (twins_refl (PaymentLink.load ref).run).bind ?_
  intro found _ same
  subst same
  cases found with
  | error failure => exact .done rfl
  | ok found =>
      cases found with
      | none => exact .done rfl
      | some link =>
          simp only [ExceptT.bindCont]
          by_cases inactive : link.status ≠ .active
          · rw [if_pos inactive, if_pos inactive]
            exact .done rfl
          · rw [if_neg inactive, if_neg inactive]
            cases link.amountMinor.or amountOverride with
            | none => exact .done rfl
            | some amountMinor =>
                refine (twins_refl (PaymentLink.consumeUse ref link.quantity).run).bind ?_
                intro consumed _ same
                subst same
                cases consumed with
                | error failure => exact .done rfl
                | ok _ =>
                    exact twins_adapted base other uuids _ _

end Bases

/-! ## Every task -/

/-- The statement writes nothing, and posts nothing. -/
def Statement.looks (op : Statement) : Prop := op.writes = none ∧ op.delivery = none

/-- A statement of the annex, or one that leaves the payments alone. -/
def Bystands : Statement ⊕ ConsoleStatement → Prop := Sum.elim Statement.looks fun _ => True

section Serves

variable {Failure Value Final : Type} (service : Service)

/-- The program issues what the request does, and without one nothing that writes. -/
def Serves (program : Program console.signature Value) : Option Request → Prop
  | some request => program.Fronts (request.program service)
  | none => program.Uses Bystands anyway

variable {service}

theorem serves_of_aloof {program : Program console.signature Value} (aloof : program.Aloof)
    (request : Option Request) : Serves service program request := by
  cases request with
  | some request => exact aloof.fronts _
  | none =>
      refine aloof.mono (fun op own => ?_) fun _ _ => trivial
      cases op with
      | inl op => cases own
      | inr op => trivial

theorem Serves.fronts {program : Program console.signature Value} {request : Option Request}
    (serves : Serves service program request) (asked : request.isSome = true) (other : Request) :
    program.Fronts ((request.getD other).program service) := by
  cases request with
  | some request => exact serves
  | none => cases asked

theorem Serves.bystands {program : Program console.signature Value} {request : Option Request}
    (serves : Serves service program request) (unasked : request.isSome = false) :
    program.Uses Bystands anyway := by
  cases request with
  | some request => cases unasked
  | none => exact serves

theorem Serves.bind_aloof {program : Program console.signature Value} {request : Option Request}
    {continuation : Value → Program console.signature Final}
    (serves : Serves service program request) (rest : ∀ value, (continuation value).Aloof) :
    Serves service (program >>= continuation) request := by
  cases request with
  | some request => exact Program.Fronts.bind_aloof serves rest
  | none => exact Program.Uses.bind serves fun value _ =>
      @serves_of_aloof _ service _ (rest value) none

theorem serves_after {program : Program console.signature Value} {request : Option Request}
    {continuation : Value → Program console.signature Final} (aloof : program.Aloof)
    (rest : ∀ value, Serves service (continuation value) request) :
    Serves service (program >>= continuation) request := by
  cases request with
  | some request => exact aloof.bind_fronts rest
  | none =>
      exact Program.Uses.bind (@serves_of_aloof _ service _ aloof none) fun value _ => rest value

theorem bystands_lift {program : Program signature Value}
    (reads : program.Uses Statement.looks anyway) :
    (program.lift console).Uses Bystands anyway :=
  reads.lift console fun _ => True

end Serves

namespace Http

section Requests

variable (installation : Installation) (incoming : Incoming)

theorem smsWebhook_serves (raw : ByteArray) (asked : incoming.endpoint = .smsWebhook raw) :
    Serves installation.service (smsWebhook installation incoming raw).run
      (incoming.request installation) := by
  unfold smsWebhook Incoming.request
  rw [asked]
  dsimp only
  cases incoming.headers.xSignature with
  | none => trivial
  | some signature =>
      dsimp only
      split
      · cases installation.payloadFromSlice raw with
        | none => trivial
        | some payload =>
            dsimp only
            rw [run_caught_bind]
            refine fronts_engine (twins_refl _) fun outcome => ?_
            cases outcome with
            | ok result => trivial
            | error error => cases error <;> trivial
      · trivial

theorem reconChat_serves (question : String) (asked : incoming.endpoint = .reconChat question) :
    Serves installation.service (reconChat installation incoming question).run
      (incoming.request installation) := by
  unfold reconChat Incoming.request
  rw [asked]
  dsimp only
  cases classifyQuestion installation.intentFromStr incoming.replies with
  | error panic => trivial
  | ok routed =>
      cases routed with
      | none => trivial
      | some intent =>
          dsimp only
          split
          · exact fronts_answering (twins_refl _)
          · split
            · exact serves_of_aloof (issues_answering (Console.issues_scan fun _ => rfl)) none
            · trivial

theorem fronts_deleteDomain (id : String) :
    (deleteDomain id).run.Fronts (respond .deleted (Domain.delete id)) := by
  refine fronts_adapt (twins_refl _) fun deleted => ?_
  cases deleted <;> trivial

theorem fronts_createDomain (uuid domain : String) :
    (answering dbError .created .domain (Console.createDomain uuid domain)).run.Fronts
      (respond .domain (Domain.create uuid domain)) := by
  refine Program.Fronts.bind_aloof (Program.Fronts.bind_aloof (fronts_engine (twins_refl _)
    fun outcome => ?_) fun _ => trivial) fun outcome => ?_
  · cases outcome with
    | error error => trivial
    | ok _ => exact issues_bind (issues_console rfl) issues_fetchOne
  · cases outcome <;> trivial

theorem getInvoice_bystands (id : String) :
    (finding ofInvoiceError "invoice not found" Body.invoice
      ((engine (Invoice.get id)).adapt InvoiceError.db)).run.Uses Bystands anyway := by
  have reads : (Invoice.get id).run.Uses Statement.looks anyway := ⟨⟨rfl, rfl⟩, fun _ => trivial⟩
  refine issues_bind (issues_adapt (issues_adapt (bystands_lift reads))) fun found => ?_
  cases found <;> trivial

/-- Past its guard, an endpoint issues what its request does. -/
theorem handle_serves :
    Serves installation.service (handle installation incoming incoming.endpoint).run
      (incoming.request installation) := by
  cases asked : incoming.endpoint with
  | smsWebhook raw => exact smsWebhook_serves installation incoming raw asked
  | reconChat question => exact reconChat_serves installation incoming question asked
  | checkoutSelect _ _ | checkoutClaim _ _ _ | apiVerifyPayment _ | createCharge _ | ledgerQuery _
  | createInvoice _ | createLink _ =>
      simp only [Incoming.request, asked]
      exact fronts_answering (twins_refl _)
  | openLink ref =>
      simp only [Incoming.request, asked]
      exact fronts_adapt (twins_openLink _ _ _ _ _) fun _ => trivial
  | openLinkAmount ref amount =>
      simp only [Incoming.request, asked]
      exact fronts_answering (twins_openLink _ _ _ _ _)
  | apiCreateCheckout req =>
      simp only [Incoming.request, asked]
      exact fronts_answering (twins_createCheckout _ _ _ _)
  | issueInvoice id =>
      simp only [Incoming.request, asked]
      exact fronts_answering (twins_issuePayment _ _ _ _)
  | createDomain domain =>
      simp only [Incoming.request, asked]
      exact fronts_createDomain _ _
  | deleteDomain id =>
      simp only [Incoming.request, asked]
      exact fronts_deleteDomain id
  | getCharge id =>
      simp only [Incoming.request, asked]
      exact issues_bind (issues_adapt (bystands_lift (Charge.uses_get ⟨rfl, rfl⟩))) fun _ => trivial
  | getInvoice id =>
      simp only [Incoming.request, asked]
      exact getInvoice_bystands id
  | health => exact serves_of_aloof (issues_health rfl) _
  | login password => exact serves_of_aloof (issues_login password) _
  | authStatus =>
      simp only [Incoming.request, asked]
      trivial
  | exchangeToken token => exact serves_of_aloof (issues_exchange rfl fun _ => rfl) _
  | checkoutPage payRef => exact serves_of_aloof (issues_showPage rfl rfl) _
  | checkoutStatus payRef =>
      exact serves_of_aloof (issues_answering (Console.issues_getPublicCharge rfl rfl)) _
  | regexSuggestion gateway => exact serves_of_aloof (issues_regexSuggestion rfl) _
  | fraudScan => exact serves_of_aloof (issues_answering (Console.issues_scan fun _ => rfl)) _
  | registerGateway req =>
      exact serves_of_aloof (issues_answering (Console.issues_registerGateway rfl fun _ => rfl)) _
  | createCustomer req =>
      exact serves_of_aloof (issues_answering (Console.issues_createCustomer rfl fun _ => rfl)) _
  | pairDevice label => exact serves_of_aloof (issues_answering (Console.issues_pairDevice rfl)) _
  | createMerchantKey req =>
      exact serves_of_aloof (issues_answering (Console.issues_createApiKey rfl)) _
  | revokeMerchantKey id => exact serves_of_aloof (issues_revokeMerchantKey rfl) _
  | getCustomer id =>
      refine serves_of_aloof (issues_finding ?_) _
      exact issues_console rfl
  | listCharges | listGateways | listDevices | listMerchantKeys | listCustomers | listInvoices
  | listLinks | listDomains | getSettings _ | putSetting _ _ | listActivities | listSmsEvents =>
      exact serves_of_aloof (issues_answering (issues_console rfl)) _

theorem guard_of_not_admitted (shut : incoming.admitted installation = false) :
    (guard installation incoming.headers incoming.now incoming.endpoint.tier).run =
      .done (.error ⟨.unauthorized, "authentication required"⟩) := by
  unfold Incoming.admitted at shut
  cases tier : incoming.endpoint.tier with
  | admin =>
      rw [tier] at shut
      simp only [guard, shut]
      rfl
  | _ =>
      rw [tier] at shut
      cases shut

theorem program_serves :
    Serves installation.service (incoming.program installation)
      (if incoming.admitted installation then incoming.request installation else none) := by
  unfold Incoming.program
  rw [ExceptT.run_bind, Program.bind_assoc]
  cases shut : incoming.admitted installation with
  | false =>
      rw [guard_of_not_admitted installation incoming shut]
      trivial
  | true =>
      refine serves_after (issues_guard (fun _ _ => rfl) fun _ _ _ => rfl) fun passed => ?_
      cases passed with
      | error refused =>
          rw [if_pos rfl]
          cases incoming.request installation <;> trivial
      | ok _ => exact Serves.bind_aloof (handle_serves installation incoming) fun _ => trivial

end Requests

end Http

/-- A task issues to the engine what its request does, and nothing that writes when it
has none. -/
theorem Task.serves (installation : Installation) (task : Task) :
    Serves installation.service (task.program installation) (task.request installation) := by
  cases task with
  | incoming request =>
      exact Serves.bind_aloof (Http.program_serves installation request) fun _ => trivial
  | poll => exact fronts_engine (twins_refl _) fun _ => trivial

/-! ## Refinement -/

section Refinement

variable {Thread : Type} [DecidableEq Thread] (installation : Installation)
  (tasks : Thread → Task)

/-- Whether a thread has a request for the engine. -/
def asks (thread : Thread) : Bool := ((tasks thread).request installation).isSome

/-- The requests of the pool. A thread that has none never runs. -/
def requests (thread : Thread) : Request :=
  ((tasks thread).request installation).getD (.reconcile none)

variable {installation tasks} {store : Store} {faults : Bool}
  {past : List (Event console.signature Store Thread Outcome)}
  {config : Config console.signature Store Thread Outcome}

theorem silent_of_bystands {op : Statement} {before after : Db} {reply : signature.Reply op}
    (looks : op.looks) (replied : sqlite.Replies faults op before reply after) :
    after = before := by
  have differs := reply_differsAt replied
  rw [looks.1] at differs
  exact differs

omit [DecidableEq Thread] in
theorem bystands_of_asks {thread : Thread} (unasked : asks installation tasks thread = false) :
    ((tasks thread).program installation).Uses Bystands fun _ => True :=
  ((tasks thread).serves installation).bystands unasked

theorem projected_of_run
    (run : Run database faults (installation.surface store tasks) past config) :
    ∃ events pool,
      Run sqlite faults (installation.service.pool store.1 (requests installation tasks)) events
        pool ∧
      pool.store = config.store.1 ∧
      events.map Event.deed =
        (past.filter fun event => asks installation tasks event.thread).filterMap Event.based := by
  have fronts : ∀ thread, asks installation tasks thread = true →
      ((tasks thread).program installation).Fronts
        ((requests installation tasks thread).program installation.service) :=
    fun thread asked => ((tasks thread).serves installation).fronts asked _
  obtain ⟨events, pool, projected, same, deeds, _⟩ :=
    run.fronted silent_of_bystands fronts fun _ => bystands_of_asks
  exact ⟨events, pool, projected, same, deeds⟩

/-- What is not done for a request of the pool leaves the payments alone. -/
theorem still_of_run (run : Run database faults (installation.surface store tasks) past config)
    {event : Event console.signature Store Thread Outcome} (member : event ∈ past)
    (apart : asks installation tasks event.thread = false ∨ event.based = none) :
    event.act.after.1 = event.act.before.1 := by
  have issued : asks installation tasks event.thread = false → Bystands event.act.op :=
    fun unasked => (run.uses_own event.thread (bystands_of_asks unasked)).1 event member rfl
  obtain ⟨newer, older, rfl⟩ := List.append_of_mem member
  obtain ⟨_, _, _, _, _, _, replied, _⟩ := run.event_cases
  obtain ⟨thread, ⟨op, reply, before, after⟩, threads⟩ := event
  cases op with
  | inr op => exact (Machine.replies_inr replied).1
  | inl op =>
      rcases apart with unasked | other
      · exact silent_of_bystands (issued unasked) (Machine.replies_inl replied).1
      · cases other

/-- What the surface does to the payments, in any order, is what a pool of the
requests that were admitted does. Whatever else happens leaves them alone. -/
theorem surface_refines
    (run : Run database faults (installation.surface store tasks) past config) :
    (∃ events pool,
      Run sqlite faults (installation.service.pool store.1 (requests installation tasks)) events
        pool ∧
      pool.store = config.store.1 ∧
      events.map Event.deed =
        (past.filter fun event => asks installation tasks event.thread).filterMap Event.based) ∧
    ∀ event ∈ past, asks installation tasks event.thread = false ∨ event.based = none →
      event.act.after.1 = event.act.before.1 :=
  ⟨projected_of_run run, fun _ member apart => still_of_run run member apart⟩

end Refinement

theorem surface_refines_sample : ∃ events pool,
    Run sqlite true (sampleInstallation.service.pool Db.empty
      (requests sampleInstallation orderAndMessage)) events pool ∧
      ∃ charge ∈ pool.store.charges, charge.id = "chg_1" ∧ charge.status = .paid := by
  have run := Run.scheduled database true
    (sampleInstallation.surface (Db.empty, .empty) orderAndMessage) sampleEnv
    [false, false, true, true, true, true, true]
  have paid : ∃ charge ∈ ((sampleInstallation.surface (Db.empty, .empty) orderAndMessage).schedule
      database sampleEnv [false, false, true, true, true, true, true]).store.1.charges,
        charge.id = "chg_1" ∧ charge.status = .paid := by decide +kernel
  obtain ⟨⟨events, pool, refined, same, _⟩, _⟩ := surface_refines run
  exact ⟨events, pool, refined, by rwa [same]⟩

end SpritexPay
