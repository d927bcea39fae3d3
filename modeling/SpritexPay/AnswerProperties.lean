import SpritexPay.AuthorityProperties

/-! Each route answers in its own terms: one status and one kind of body, or a refusal.
What a client was answered so tells which route it came from. -/

set_option autoImplicit false

namespace SpritexPay

open Resumption

namespace Http

/-- The replies of a route. -/
def Endpoint.Answers (endpoint : Endpoint) : Reply → Prop
  | .refused _ => True
  | .aborted =>
      match endpoint with
      | .smsWebhook _ | .regexSuggestion _ | .reconChat _ => True
      | _ => False
  | .redirect _ =>
      match endpoint with
      | .openLink _ => True
      | _ => False
  | .answered status body =>
      match endpoint, body with
      | .health, .health db => status = if db then .ok else .serviceUnavailable
      | .login _, .token _ | .authStatus, .authRequired _ | .exchangeToken _, .exchanged _
      | .checkoutStatus _, .view _ | .checkoutSelect _ _, .done | .checkoutClaim _ _ _, .done
      | .openLinkAmount _ _, .sapUrl _ | .apiCreateCheckout _, .checkout _
      | .apiVerifyPayment _, .verified _ | .listCharges, .charges _ | .getCharge _, .charge _
      | .listGateways, .gateways _ | .regexSuggestion _, .suggestion _
      | .ledgerQuery _, .reconciliation _ | .fraudScan, .fraud _ | .reconChat _, .chat _
      | .listDevices, .devices _ | .listMerchantKeys, .apiKeys _ | .revokeMerchantKey _, .revoked
      | .listCustomers, .customers _ | .getCustomer _, .customer _ | .listInvoices, .invoices _
      | .getInvoice _, .invoice _ | .issueInvoice _, .sapUrl _ | .listLinks, .links _
      | .listDomains, .domains _ | .getSettings _, .settings _
      | .listActivities, .activities _ | .listSmsEvents, .smsEvents _ => status = .ok
      | .checkoutPage _, .page _ =>
          status = .ok ∨ status = .notFound ∨ status = .internalServerError
      | .smsWebhook _, .ingested _ => status = .accepted
      | .createCharge _, .charge _ | .registerGateway _, .gateway _ | .pairDevice _, .paired _
      | .createMerchantKey _, .apiKey _ | .createCustomer _, .customer _
      | .createInvoice _, .invoice _ | .createLink _, .link _ | .createDomain _, .domain _ =>
          status = .created
      | .deleteDomain _, .empty | .putSetting _ _, .empty => status = .noContent
      | _, _ => False

section Ends

variable {Failure Value : Type} {ends : Except ApiError Reply → Prop}

theorem ends_adapt_bind {Result : Type} {ends : Except ApiError Result → Prop}
    {convert : Failure → ApiError} {site : Site Failure Value}
    {rest : Value → Site ApiError Result}
    (succeeded : ∀ value, (rest value).run.Uses (fun _ => True) ends)
    (refused : ∀ error, ends (.error error)) :
    (site.adapt convert >>= rest).run.Uses (fun _ => True) ends :=
  uses_bind (uses_anything _) (fun value _ => succeeded value) fun failure _ => refused failure

theorem ends_answering {convert : Failure → ApiError} {status : Status} {shown : Value → Body}
    {site : Site Failure Value} (answered : ∀ value, ends (.ok (.answered status (shown value))))
    (refused : ∀ error, ends (.error error)) :
    (answering convert status shown site).run.Uses (fun _ => True) ends :=
  ends_adapt_bind answered refused

theorem ends_finding {convert : Failure → ApiError} {missing : String} {shown : Value → Body}
    {site : Site Failure (Option Value)}
    (answered : ∀ value, ends (.ok (.answered .ok (shown value))))
    (refused : ∀ error, ends (.error error)) :
    (finding convert missing shown site).run.Uses (fun _ => True) ends :=
  ends_adapt_bind (fun found => by
    cases found with
    | some value => exact answered value
    | none => exact refused _) refused

end Ends

section Endpoints

variable {installation : Installation} {incoming : Incoming}

theorem login_answers (password : String) :
    (login installation incoming password).run.Uses (fun _ => True) fun outcome =>
      (Endpoint.login password).Answers (toReply outcome) := by
  unfold login
  cases installation.config.adminPassword with
  | none => trivial
  | some admin =>
      dsimp only
      split
      · exact rfl
      · trivial

theorem smsWebhook_answers (raw : ByteArray) :
    (smsWebhook installation incoming raw).run.Uses (fun _ => True) fun outcome =>
      (Endpoint.smsWebhook raw).Answers (toReply outcome) := by
  unfold smsWebhook
  cases incoming.headers.xSignature with
  | none => trivial
  | some signature =>
      dsimp only
      split
      · cases installation.payloadFromSlice raw with
        | none => trivial
        | some payload =>
            dsimp only
            rw [run_caught_bind]
            refine (uses_anything _).bind fun outcome _ => ?_
            cases outcome with
            | ok result => exact rfl
            | error error => cases error <;> trivial
      · trivial

theorem showPage_answers (payRef : String) :
    (showPage installation payRef).run.Uses (fun _ => True) fun outcome =>
      (Endpoint.checkoutPage payRef).Answers (toReply outcome) := by
  unfold showPage
  rw [run_caught_bind]
  refine (uses_anything _).bind fun outcome _ => ?_
  cases outcome with
  | ok view => exact .inl rfl
  | error error =>
      cases error with
      | notFound => exact .inr (.inl rfl)
      | _ => exact .inr (.inr rfl)

theorem regexSuggestion_answers (gateway : String) :
    (regexSuggestion installation incoming gateway).run.Uses (fun _ => True) fun outcome =>
      (Endpoint.regexSuggestion gateway).Answers (toReply outcome) := by
  unfold regexSuggestion
  rw [run_caught_bind]
  refine (uses_anything _).bind fun outcome _ => ?_
  cases outcome with
  | ok found =>
      cases found with
      | some suggestion => exact rfl
      | none => trivial
  | error panic => trivial

theorem reconChat_answers (question : String) :
    (reconChat installation incoming question).run.Uses (fun _ => True) fun outcome =>
      (Endpoint.reconChat question).Answers (toReply outcome) := by
  unfold reconChat
  cases classifyQuestion installation.intentFromStr incoming.replies with
  | error panic => trivial
  | ok routed =>
      cases routed with
      | none => trivial
      | some intent =>
          dsimp only
          split
          · exact ends_answering (fun _ => rfl) fun _ => trivial
          · split
            · exact ends_answering (fun _ => rfl) fun _ => trivial
            · exact rfl

theorem handle_answers (endpoint : Endpoint) :
    (handle installation incoming endpoint).run.Uses (fun _ => True) fun outcome =>
      endpoint.Answers (toReply outcome) := by
  cases endpoint with
  | health =>
      refine ⟨trivial, fun reply => ?_⟩
      cases reply <;> exact rfl
  | login password => exact login_answers password
  | authStatus => exact rfl
  | exchangeToken token =>
      refine ends_adapt_bind (fun found => ?_) fun _ => trivial
      cases found with
      | some deviceId => exact rfl
      | none => trivial
  | smsWebhook raw => exact smsWebhook_answers raw
  | checkoutPage payRef => exact showPage_answers payRef
  | openLink ref => exact ends_adapt_bind (fun _ => trivial) fun _ => trivial
  | getCustomer _ | getInvoice _ => exact ends_finding (fun _ => rfl) fun _ => trivial
  | regexSuggestion gateway => exact regexSuggestion_answers gateway
  | reconChat question => exact reconChat_answers question
  | revokeMerchantKey id | deleteDomain id =>
      refine ends_adapt_bind (fun found => ?_) fun _ => trivial
      cases found with
      | true => exact rfl
      | false => trivial
  | _ => exact ends_answering (fun _ => rfl) fun _ => trivial

theorem program_answers :
    (incoming.program installation).Uses (fun _ => True) incoming.endpoint.Answers := by
  refine Program.Uses.bind (uses_bind (uses_anything _) (fun _ _ => handle_answers _)
    fun _ _ => trivial) fun _ answers => answers

end Endpoints

end Http

section Run

variable {Thread : Type} [DecidableEq Thread] {installation : Installation} {store : Store}
  {tasks : Thread → Task} {faults : Bool}
  {past : List (Event console.signature Store Thread Outcome)}
  {config : Config console.signature Store Thread Outcome}

/-- A reply comes from the route that it answers. -/
theorem answers_of_run (run : Run database faults (installation.surface store tasks) past config)
    {thread : Thread} {reply : Http.Reply}
    (finished : config.threads thread = .done (.replied reply)) :
    ∃ incoming, tasks thread = .incoming incoming ∧ incoming.endpoint.Answers reply := by
  cases task : tasks thread with
  | poll =>
      have polls : ((tasks thread).program installation).Uses (fun _ => True) (· = .polled) := by
        rw [task]
        exact (uses_anything _).bind fun _ _ => rfl
      have ended := (run.uses_own thread polls).2
      rw [finished] at ended
      cases ended
  | incoming incoming =>
      have answers : ((tasks thread).program installation).Uses (fun _ => True) fun outcome =>
          ∀ reply, outcome = .replied reply → incoming.endpoint.Answers reply := by
        rw [task]
        refine Http.program_answers.bind fun reply answered _ same => ?_
        cases same
        exact answered
      have ended := (run.uses_own thread answers).2
      rw [finished] at ended
      exact ⟨incoming, rfl, ended reply rfl⟩

end Run

/-- What a thread has answered. -/
def Outcome.answer? : Program console.signature Outcome → Option (Http.Status × Http.Body)
  | .done (.replied (.answered status body)) => some (status, body)
  | _ => none

theorem Outcome.eq_of_answer? {program : Program console.signature Outcome} {status : Http.Status}
    {body : Http.Body} (ended : answer? program = some (status, body)) :
    program = .done (.replied (.answered status body)) := by
  unfold answer? at ended
  split at ended
  · cases ended
    rfl
  · cases ended

end SpritexPay
