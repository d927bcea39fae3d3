import SpritexPay.ApiProperties
import SpritexPay.Handlers

/-! Which statements the console and the handlers issue, function by function: a site
issues allowed statements when what it is made of does. -/

set_option autoImplicit false

namespace SpritexPay

open Resumption

section Rules

variable {Failure Value Result : Type} {allowed : Statement ⊕ ConsoleStatement → Prop}

abbrev Issues (allowed : Statement ⊕ ConsoleStatement → Prop) (site : Site Failure Value) : Prop :=
  site.run.Uses allowed anyway

theorem issues_console [FromError SqlError Failure] {op : ConsoleStatement}
    (permitted : allowed (.inr op)) :
    Issues allowed (consoleSql op : Site Failure op.Answer) := ⟨permitted, fun _ => trivial⟩

theorem issues_attempt {op : ConsoleStatement} (permitted : allowed (.inr op)) :
    Issues allowed (tryConsoleSql op : Site Failure (Except SqlError op.Answer)) :=
  ⟨permitted, fun _ => trivial⟩

theorem issues_engine {query : Query Failure Value}
    (uses : query.run.Uses (fun op => allowed (.inl op)) anyway) :
    Issues allowed (engine query) :=
  Program.Uses.mono (uses.lift console fun op => allowed (.inr op))
    (fun op permitted => by cases op <;> exact permitted) fun _ _ => trivial

theorem issues_bind {site : Site Failure Value} {rest : Value → Site Failure Result}
    (first : Issues allowed site) (second : ∀ value, Issues allowed (rest value)) :
    Issues allowed (site >>= rest) :=
  uses_bind first (fun value _ => second value) fun _ _ => trivial

theorem issues_adapt {OtherFailure : Type} {convert : Failure → OtherFailure}
    {site : Site Failure Value} (issues : Issues allowed site) :
    Issues allowed (site.adapt convert) := uses_adapt issues

theorem issues_answering {convert : Failure → Http.ApiError} {status : Http.Status}
    {shown : Value → Http.Body} {site : Site Failure Value} (issues : Issues allowed site) :
    Issues allowed (Http.answering convert status shown site) :=
  issues_bind (issues_adapt issues) fun _ => trivial

theorem issues_finding {convert : Failure → Http.ApiError} {missing : String}
    {shown : Value → Http.Body} {site : Site Failure (Option Value)}
    (issues : Issues allowed site) : Issues allowed (Http.finding convert missing shown site) :=
  issues_bind (issues_adapt issues) fun found => by
    cases found <;> trivial

/-- What is done with an outcome, also with a failure. -/
theorem run_caught_bind {OtherFailure : Type} (site : Site Failure Value)
    (rest : Except Failure Value → Site OtherFailure Result) :
    ((ExceptT.mk (site.run >>= fun outcome => .done (.ok outcome)) >>= rest) :
      Site OtherFailure Result).run = site.run >>= fun outcome => (rest outcome).run := by
  rw [ExceptT.run_bind]
  exact Program.bind_assoc _ _ _

theorem issues_fetchOne (found : Option Value) : Issues allowed (fetchOne found) := by
  cases found <;> trivial

end Rules

section Gates

variable {Failure Value Result : Type} {guarded : console.signature.Op → Prop}
  {opens : (op : console.signature.Op) → console.signature.Reply op → Prop}
  {ends : Except Failure Value → Prop} {endsLater : Except Failure Result → Prop}

theorem gated_bind {site : Site Failure Value} {rest : Value → Site Failure Result}
    (first : site.run.Gated guarded opens ends)
    (second : ∀ value, ends (.ok value) → (rest value).run.Gated guarded opens endsLater)
    (failed : ∀ failure, ends (.error failure) → endsLater (.error failure)) :
    (site >>= rest).run.Gated guarded opens endsLater :=
  Program.Gated.bind first fun outcome ended => by
    cases outcome with
    | ok value => exact second value ended
    | error failure => exact failed failure ended

theorem gated_adapt {OtherFailure : Type} {convert : Failure → OtherFailure}
    {site : Site Failure Value} {endsLater : Except OtherFailure Value → Prop}
    (gated : site.run.Gated guarded opens ends)
    (converted : ∀ outcome, ends outcome → endsLater (outcome.mapError convert)) :
    (site.adapt convert).run.Gated guarded opens endsLater := Program.Gated.bind gated converted

end Gates

/-! ## Functions -/

section Functions

variable {allowed : Statement ⊕ ConsoleStatement → Prop}

namespace Console

theorem issues_createCustomer {uuid : String} {req : CreateCustomer}
    (inserts : allowed (.inr (.insertCustomer ("cus_" ++ uuid) req.name req.email req.msisdn)))
    (finds : ∀ id, allowed (.inr (.customerById id))) : Issues allowed (createCustomer uuid req) :=
  issues_bind (issues_console inserts) fun _ =>
    issues_bind (issues_console (finds _)) issues_fetchOne

theorem issues_registerGateway {uuid : String} {req : RegisterGateway}
    (inserts : allowed (.inr (.insertGateway ("gw_" ++ uuid) req)))
    (finds : ∀ id, allowed (.inr (.gatewayById id))) : Issues allowed (registerGateway uuid req) :=
  issues_bind (issues_console inserts) fun _ =>
    issues_bind (issues_console (finds _)) issues_fetchOne

theorem issues_createDomain {uuid domain : String}
    (inserts : allowed (.inl (.insertDomain ("dom_" ++ uuid) domain)))
    (finds : ∀ id, allowed (.inr (.domainById id))) :
    Issues allowed (createDomain uuid domain) := by
  have creates : (Domain.create uuid domain).run.Uses (fun op => allowed (.inl op)) anyway :=
    ⟨inserts, fun _ => trivial⟩
  exact issues_bind (issues_engine creates) fun _ =>
    issues_bind (issues_console (finds _)) issues_fetchOne

theorem issues_pairDevice {hmac : Hmac} {uuids : PairUuids} {label : Option String}
    (inserts : allowed (.inr (.insertDevice ("dev_" ++ uuids.device) label
      (Device.digest hmac ("spx_" ++ uuids.token.1 ++ uuids.token.2))))) :
    Issues allowed (pairDevice hmac uuids label) :=
  issues_bind (issues_console inserts) fun _ => trivial

theorem issues_exchangeToken {hmac : Hmac} {token : String}
    (looks : allowed (.inr (.activeDevice (Device.digest hmac token))))
    (stamps : ∀ id, allowed (.inr (.stampDevice id))) :
    Issues allowed (exchangeToken hmac token) := by
  refine issues_bind (issues_console looks) fun found => ?_
  cases found with
  | none => trivial
  | some id => exact issues_bind (issues_console (stamps id)) fun _ => trivial

theorem issues_createApiKey {crates : Crates} {json : ScopesJson} {uuids : ApiKeyUuids}
    {req : CreateApiKey}
    (inserts : allowed (.inr (.insertApiKey ("ak_" ++ uuids.id)
      (Merchant.keyDigest crates ("spk_" ++ uuids.key.1 ++ uuids.key.2)) req.label
      ((json.toString (Merchant.grantedScopes req)).getD "[]")))) :
    Issues allowed (createApiKey crates json uuids req) :=
  issues_bind (issues_console inserts) fun _ => trivial

theorem issues_verifyApiKey {crates : Crates} {json : ScopesJson} {raw requiredScope : String}
    (looks : allowed (.inr (.activeApiKey (Merchant.keyDigest crates raw))))
    (stamps : ∀ id, allowed (.inr (.stampApiKey id))) :
    Issues allowed (verifyApiKey crates json raw requiredScope) := by
  refine issues_bind (issues_console looks) fun found => ?_
  cases found with
  | none => trivial
  | some found =>
      dsimp only
      split
      · trivial
      · exact issues_bind (issues_console (stamps _)) fun _ => trivial

theorem issues_revokeApiKey {id : String} (revokes : allowed (.inr (.revokeApiKey id))) :
    Issues allowed (revokeApiKey id) := issues_bind (issues_console revokes) fun _ => trivial

theorem issues_getPublicCharge {payRef : String} (reads : allowed (.inr (.publicRow payRef)))
    (receivers : allowed (.inr .enabledReceivers)) : Issues allowed (getPublicCharge payRef) := by
  refine issues_bind (issues_console reads) fun found => ?_
  cases found with
  | none => trivial
  | some row => exact issues_bind (issues_console receivers) fun _ => trivial

theorem issues_scan (reads : ∀ op, allowed (.inr (.anomalies op))) : Issues allowed scan := by
  change (scanning Fraud.scan.run).Uses allowed anyway
  induction Fraud.scan.run with
  | done value => trivial
  | stmt op next ih => exact ⟨reads op, ih⟩

theorem issues_suggestRegex {fromStr : String → Option RawSuggestion} {compiles : String → Bool}
    {chain : List ProviderReply} {gateway : String}
    (reads : allowed (.inr (.recoveredSamples gateway))) :
    Issues allowed (suggestRegex fromStr compiles chain gateway) := by
  cases chain with
  | nil => trivial
  | cons reply rest =>
      refine issues_bind (issues_attempt reads) fun read => ?_
      cases read with
      | error error => trivial
      | ok samples =>
          dsimp only
          split
          · trivial
          · cases reply.content with
            | none => trivial
            | some content =>
                refine issues_bind trivial fun sliced => ?_
                cases sliced with
                | none => trivial
                | some object =>
                    dsimp only
                    cases fromStr object with
                    | none => trivial
                    | some raw =>
                        dsimp only
                        split <;> trivial

end Console

end Functions

/-! ## Handlers -/

namespace Http

section Handlers

variable {allowed : Statement ⊕ ConsoleStatement → Prop} {installation : Installation}
  {incoming : Incoming}

theorem issues_guard {headers : Headers} {now : Nat} {tier : Tier}
    (looks : ∀ scope, tier = .merchant scope →
      allowed (.inr (.activeApiKey (Merchant.keyDigest installation.crates (apiKeyOf headers)))))
    (stamps : ∀ scope, tier = .merchant scope → ∀ id, allowed (.inr (.stampApiKey id))) :
    Issues allowed (guard installation headers now tier) := by
  cases tier with
  | «open» => trivial
  | admin =>
      simp only [guard]
      split <;> trivial
  | merchant scope =>
      refine issues_bind (issues_adapt
        (Console.issues_verifyApiKey (looks scope rfl) (stamps scope rfl))) fun found => ?_
      cases found <;> trivial

theorem issues_health (pings : allowed (.inr .ping)) : Issues allowed health :=
  issues_bind (issues_attempt pings) fun reply => by cases reply <;> trivial

theorem issues_login (password : String) :
    Issues allowed (login installation incoming password) := by
  unfold login
  cases installation.config.adminPassword with
  | none => trivial
  | some admin =>
      dsimp only
      split <;> trivial

theorem issues_exchange {token : String}
    (looks : allowed (.inr (.activeDevice (Device.digest installation.hmac token))))
    (stamps : ∀ id, allowed (.inr (.stampDevice id))) :
    Issues allowed (exchange installation token) := by
  refine issues_bind (issues_adapt (Console.issues_exchangeToken looks stamps)) fun found => ?_
  cases found <;> trivial

theorem issues_showPage {payRef : String} (reads : allowed (.inr (.publicRow payRef)))
    (receivers : allowed (.inr .enabledReceivers)) :
    Issues allowed (showPage installation payRef) := by
  unfold Issues showPage
  rw [run_caught_bind]
  refine Program.Uses.bind (Console.issues_getPublicCharge reads receivers) fun outcome _ => ?_
  cases outcome with
  | ok view => trivial
  | error error => cases error <;> trivial

theorem issues_regexSuggestion {gateway : String}
    (reads : allowed (.inr (.recoveredSamples gateway))) :
    Issues allowed (regexSuggestion installation incoming gateway) := by
  unfold Issues regexSuggestion
  rw [run_caught_bind]
  refine Program.Uses.bind (Console.issues_suggestRegex reads) fun outcome _ => ?_
  cases outcome with
  | ok suggestion => cases suggestion <;> trivial
  | error panic => trivial

theorem issues_revokeMerchantKey {id : String} (revokes : allowed (.inr (.revokeApiKey id))) :
    Issues allowed (revokeMerchantKey id) := by
  refine issues_bind (issues_adapt (Console.issues_revokeApiKey revokes)) fun revoked => ?_
  cases revoked <;> trivial

theorem issues_deleteDomain {id : String} (deletes : allowed (.inl (.deleteDomain id))) :
    Issues allowed (deleteDomain id) := by
  refine issues_bind (issues_adapt (issues_engine (uses_sql deletes fun _ => trivial))) ?_
  intro deleted
  cases deleted <;> trivial

theorem issues_smsWebhook {raw : ByteArray}
    (ingests : ∀ gw rawBody, (Sms.ingest installation.crates incoming.replies
      (ingestUuids incoming.uuids) gw rawBody).run.Uses (fun op => allowed (.inl op)) anyway) :
    Issues allowed (smsWebhook installation incoming raw) := by
  unfold Issues smsWebhook
  cases incoming.headers.xSignature with
  | none => trivial
  | some signature =>
      dsimp only
      split
      · cases installation.payloadFromSlice raw with
        | none => trivial
        | some payload =>
            dsimp only
            rw [run_caught_bind]
            refine Program.Uses.bind (issues_engine (ingests _ _)) fun outcome _ => ?_
            cases outcome with
            | ok result => trivial
            | error error => cases error <;> trivial
      · trivial

theorem issues_reconChat (question : String)
    (reconciles : ∀ gateway, (reconcile gateway).run.Uses (fun op => allowed (.inl op)) anyway)
    (reads : ∀ op, allowed (.inr (.anomalies op))) :
    Issues allowed (reconChat installation incoming question) := by
  unfold Issues reconChat
  cases classifyQuestion installation.intentFromStr incoming.replies with
  | error panic => trivial
  | ok routed =>
      cases routed with
      | none => trivial
      | some intent =>
          dsimp only
          split
          · exact issues_answering (issues_engine (reconciles _))
          · split
            · exact issues_answering (Console.issues_scan reads)
            · trivial

end Handlers

end Http

end SpritexPay
