import SpritexPay.DeviceProperties
import SpritexPay.HandlerProperties

/-! The functions of the console, run alone. Each of them computes what the function of its
module computes over the one table it is about, statement by statement, and leaves the rest
of the database as it was. So what is known of the histories of a table holds of the database. -/

set_option autoImplicit false

namespace SpritexPay

open Relational Resumption

variable (envs : Nat → Env) (store : Store)

/-- What a function over one table comes to on the whole database. -/
def Store.put {Row Failure Value : Type} [Indexed Row] (store : Store)
    (replace : Table Row → Console) :
    Except Failure (Value × Table Row) → Except Failure Value × Store
  | .ok (value, table) => (.ok value, (store.1, replace table))
  | .error error => (.error error, store)

section Statements

variable {envs : Nat → Env} {store : Store} {Value : Type} (op : ConsoleStatement)
  {next : console.signature.Reply (.inr op) → Program console.signature Value}

theorem run_executed (answer : op.Answer) (rest : Console)
    (executed : op.exec (envs 0) store.1 store.2 = .ok (answer, rest)) :
    database.run (.stmt (.inr op) next) envs store =
      database.run (next (.ok answer)) (fun n => envs (n + 1)) (store.1, rest) := by
  refine Machine.run_stmt_ok ?_
  change (op.exec (envs 0) store.1 store.2).map _ = _
  rw [executed]
  rfl

theorem run_refused (error : SqlError)
    (refused : op.exec (envs 0) store.1 store.2 = .error error) :
    database.run (.stmt (.inr op) next) envs store =
      database.run (next (.error error)) (fun n => envs (n + 1)) store := by
  refine Machine.run_stmt_error ?_
  change (op.exec (envs 0) store.1 store.2).map _ = _
  rw [refused]
  rfl

end Statements

namespace Console

theorem run_registerGateway (uuid : String) (req : RegisterGateway) :
    database.run (registerGateway uuid req).run envs store =
      store.put (fun gatewayConfigs => { store.2 with gatewayConfigs })
        (GatewayConfig.register uuid req (envs 0).now store.2.gatewayConfigs) := by
  cases inserted : store.2.gatewayConfigs.insert? ⟨"gw_" ++ uuid, req.gateway, req.label,
      req.accountMsisdn, 1, (envs 0).now⟩ with
  | none =>
      have refused : (ConsoleStatement.insertGateway ("gw_" ++ uuid) req).exec (envs 0) store.1
          store.2 = .error .uniqueViolation := by
        simp only [ConsoleStatement.exec, insertGateway, inserted]
        rfl
      refine (run_refused _ _ refused).trans ?_
      simp only [GatewayConfig.register, inserted]
      rfl
  | some gatewayConfigs =>
      have executed : (ConsoleStatement.insertGateway ("gw_" ++ uuid) req).exec (envs 0) store.1
          store.2 = .ok ((), { store.2 with gatewayConfigs }) := by
        simp only [ConsoleStatement.exec, insertGateway, inserted]
        rfl
      -- the row that was inserted is the one that is read back
      have found : gatewayConfigs.find? (·.id == "gw_" ++ uuid) = some ⟨"gw_" ++ uuid, req.gateway,
          req.label, req.accountMsisdn, 1, (envs 0).now⟩ := by
        refine Table.find?_eq_some_of_mem ((Table.mem_insert? inserted).mpr (.inr rfl))
          (beq_self_eq_true _) fun other _ same => ?_
        simpa [key, clash] using same
      refine (run_executed _ _ _ executed).trans ?_
      refine (run_executed (.gatewayById ("gw_" ++ uuid)) _ _ rfl).trans ?_
      rw [found]
      simp only [GatewayConfig.register, inserted]
      rfl

/-! ## Devices -/

theorem run_pairDevice (hmac : Hmac) (uuids : PairUuids) (label : Option String) :
    database.run (pairDevice hmac uuids label).run envs store =
      store.put (fun devices => { store.2 with devices })
        (Device.pair hmac uuids label (envs 0).now store.2.devices) := by
  cases inserted : store.2.devices.insert? ⟨"dev_" ++ uuids.device, label,
      Device.digest hmac ("spx_" ++ uuids.token.1 ++ uuids.token.2), .active, none,
      (envs 0).now⟩ with
  | none =>
      refine (run_refused _ .uniqueViolation ?_).trans ?_
      · simp only [ConsoleStatement.exec, insertDevice, inserted]
        rfl
      · simp only [Device.pair, inserted]
        rfl
  | some devices =>
      refine (run_executed _ () { store.2 with devices } ?_).trans ?_
      · simp only [ConsoleStatement.exec, insertDevice, inserted]
        rfl
      · simp only [Device.pair, inserted]
        rfl

theorem run_exchangeToken (hmac : Hmac) (token : String) :
    database.run (exchangeToken hmac token).run envs store =
      store.put (fun devices => { store.2 with devices })
        (.ok (Device.exchangeToken hmac token (envs 1).now store.2.devices)) := by
  cases found : store.2.devices.find? fun device =>
      device.tokenSha256 == Device.digest hmac token && device.status == .active with
  | none =>
      refine (run_executed _ none store.2 ?_).trans ?_
      · simp only [ConsoleStatement.exec, found, Option.map_none]
      · simp only [Device.exchangeToken, found]
        rfl
  | some device =>
      refine (run_executed _ (some device.id) store.2 ?_).trans ?_
      · simp only [ConsoleStatement.exec, found, Option.map_some]
      · refine (run_executed (.stampDevice device.id) _ _ rfl).trans ?_
        simp only [Device.exchangeToken, found]
        rfl

/-! ## Keys -/

theorem run_createApiKey (crates : Crates) (json : ScopesJson) (uuids : ApiKeyUuids)
    (req : CreateApiKey) : database.run (createApiKey crates json uuids req).run envs store =
      store.put (fun apiKeys => { store.2 with apiKeys })
        (Merchant.createApiKey crates json uuids req (envs 0).now store.2.apiKeys) := by
  cases inserted : store.2.apiKeys.insert? ⟨"ak_" ++ uuids.id,
      Merchant.keyDigest crates ("spk_" ++ uuids.key.1 ++ uuids.key.2), req.label,
      (json.toString (Merchant.grantedScopes req)).getD "[]", .active, (envs 0).now, none⟩ with
  | none =>
      refine (run_refused _ .uniqueViolation ?_).trans ?_
      · simp only [ConsoleStatement.exec, insertApiKey, inserted]
        rfl
      · simp only [Merchant.createApiKey, inserted]
        rfl
  | some apiKeys =>
      refine (run_executed _ () { store.2 with apiKeys } ?_).trans ?_
      · simp only [ConsoleStatement.exec, insertApiKey, inserted]
        rfl
      · simp only [Merchant.createApiKey, inserted]
        rfl

theorem run_verifyApiKey (crates : Crates) (json : ScopesJson) (raw requiredScope : String) :
    database.run (verifyApiKey crates json raw requiredScope).run envs store =
      store.put (fun apiKeys => { store.2 with apiKeys })
        (.ok (Merchant.verifyApiKey crates json raw requiredScope (envs 1).now
          store.2.apiKeys)) := by
  cases found : store.2.apiKeys.find? fun apiKey =>
      apiKey.keySha256 == Merchant.keyDigest crates raw && apiKey.status == .active with
  | none =>
      refine (run_executed _ none store.2 ?_).trans ?_
      · simp only [ConsoleStatement.exec, found, Option.map_none]
      · simp only [Merchant.verifyApiKey, found]
        rfl
  | some apiKey =>
      refine (run_executed _ (some (apiKey.id, apiKey.scopes)) store.2 ?_).trans ?_
      · simp only [ConsoleStatement.exec, found, Option.map_some]
      · change database.run (ExceptT.run (if !(Merchant.parseScopes json apiKey.scopes).any
            (· == requiredScope) then _ else _ : Site SqlError (Option KeyContext))) _ _ = _
        simp only [Merchant.verifyApiKey, found]
        split
        · rfl
        · exact run_executed (.stampApiKey apiKey.id) _ _ rfl

theorem run_revokeApiKey (id : String) :
    database.run (revokeApiKey id).run envs store =
      store.put (fun apiKeys => { store.2 with apiKeys })
        (.ok (Merchant.revokeApiKey id store.2.apiKeys)) := rfl

/-! ## Histories -/

section Histories

variable {envs store} {crates : Crates} {json : ScopesJson} {calls : List Merchant.Call}

/-- A call for the keys, made alone on the whole database. -/
inductive KeyCall where
  | create (uuids : ApiKeyUuids) (req : CreateApiKey)
  | verify (raw requiredScope : String)
  | revoke (id : String)

/-- The call with its outcome, and the database afterwards. -/
def KeyCall.serve (crates : Crates) (json : ScopesJson) (envs : Nat → Env) (store : Store) :
    KeyCall → Option Merchant.Call × Store
  | .create uuids req =>
      let (outcome, after) := database.run (createApiKey crates json uuids req).run envs store
      (some (.created req outcome), after)
  | .verify raw requiredScope =>
      let (outcome, after) :=
        database.run (verifyApiKey crates json raw requiredScope).run envs store
      (outcome.toOption.map (.verified raw requiredScope), after)
  | .revoke id =>
      let (found, after) := database.run (revokeApiKey id).run envs store
      (found.toOption.map (.revoked id), after)

/-- The calls one after the other, each at its own times, and what was served before. -/
def KeyCall.serveAll (crates : Crates) (json : ScopesJson) :
    List ((Nat → Env) × KeyCall) → List Merchant.Call → Store → List Merchant.Call × Store
  | [], past, store => (past, store)
  | (envs, call) :: rest, past, store =>
      let (served, after) := call.serve crates json envs store
      serveAll crates json rest (served.toList ++ past) after

theorem KeyCall.history_serve (call : KeyCall)
    (history : Merchant.History crates json calls store.2.apiKeys) :
    ∃ served, (call.serve crates json envs store).1 = some served ∧
      Merchant.History crates json (served :: calls)
        (call.serve crates json envs store).2.2.apiKeys := by
  cases call with
  | create uuids req =>
      simp only [serve, run_createApiKey]
      cases made : Merchant.createApiKey crates json uuids req (envs 0).now store.2.apiKeys with
      | error error => exact ⟨_, rfl, history.refuse uuids (envs 0).now made⟩
      | ok created => exact ⟨_, rfl, history.create uuids (envs 0).now made⟩
  | verify raw requiredScope =>
      simp only [serve, run_verifyApiKey]
      exact ⟨_, rfl, history.verify raw requiredScope (envs 1).now⟩
  | revoke id =>
      simp only [serve, run_revokeApiKey]
      exact ⟨_, rfl, history.revoke id⟩

/-- So what is served on the database, call by call, is a history of its keys. -/
theorem KeyCall.history_serveAll {asked : List ((Nat → Env) × KeyCall)} :
    ∀ {past : List Merchant.Call} {store : Store},
      Merchant.History crates json past store.2.apiKeys →
      Merchant.History crates json (serveAll crates json asked past store).1
        (serveAll crates json asked past store).2.2.apiKeys := by
  induction asked with
  | nil => exact fun history => history
  | cons first rest ih =>
      obtain ⟨envs, call⟩ := first
      intro past store history
      obtain ⟨served, same, longer⟩ := call.history_serve history
      have next : (call.serve crates json envs store).1.toList ++ past = served :: past := by
        rw [same]
        rfl
      rw [← next] at longer
      exact ih longer

end Histories

/-! ## The public page -/

theorem run_getPublicCharge (payRef : String) :
    database.run (getPublicCharge payRef).run envs store =
      (Checkout.getPublicCharge payRef store.1.charges store.2.gatewayConfigs, store) := by
  cases found : store.1.charges.find? (·.payRef == some payRef) with
  | none =>
      refine (run_executed _ none store.2 ?_).trans ?_
      · simp only [ConsoleStatement.exec, found, Option.map_none]
      · simp only [Checkout.getPublicCharge, found]
        rfl
  | some charge =>
      refine (run_executed _ (some charge.publicRow) store.2 ?_).trans ?_
      · simp only [ConsoleStatement.exec, found, Option.map_some]
      · refine (run_executed (.enabledReceivers) _ _ rfl).trans ?_
        simp only [Checkout.getPublicCharge, found]
        rfl

end Console

/-! ## Routes -/

namespace Http

variable (installation : Installation)

theorem run_exchange (token : String) :
    database.run (exchange installation token).run envs store =
      let exchanged := exchangeToken installation.hmac installation.config token (envs 1).now
        store.2.devices
      (match exchanged.1 with
        | some exchanged => .ok (.answered .ok (.exchanged exchanged))
        | none => .error ⟨.unauthorized, "unknown or revoked pairing token"⟩,
        (store.1, { store.2 with devices := exchanged.2 })) := by
  have finishes : (exchange installation token).run =
      (Console.exchangeToken installation.hmac token).run >>= fun outcome =>
        .done (match outcome with
        | .ok (some deviceId) =>
            .ok (.answered .ok (.exchanged ⟨deviceId, installation.config.smsHmacSecret⟩))
        | .ok none => .error ⟨.unauthorized, "unknown or revoked pairing token"⟩
        | .error error => .error (dbError error)) := by
    rw [exchange, run_adapt_bind]
    refine Program.bind_congr fun outcome => ?_
    rcases outcome with error | _ | deviceId <;> rfl
  rw [finishes, Machine.run_bind_done, Console.run_exchangeToken, exchangeToken]
  obtain ⟨_ | deviceId, devices⟩ :=
    Device.exchangeToken installation.hmac token (envs 1).now store.2.devices <;> rfl

/-- The status and the page for what was found. -/
def paged (unicode : Textual.UnicodeTables) :
    Except CheckoutError PublicCharge → Status × String
  | .ok view => (.ok, CheckoutPage.render unicode view)
  | .error .notFound => (.notFound, CheckoutPage.notFound)
  | .error _ => (.internalServerError, "internal error")

theorem run_showPage (payRef : String) :
    let reply := paged installation.unicode
      (Checkout.getPublicCharge payRef store.1.charges store.2.gatewayConfigs)
    checkoutPage installation.unicode payRef store.1.charges store.2.gatewayConfigs =
        (reply.1.code, reply.2) ∧
      database.run (showPage installation payRef).run envs store =
        (.ok (.answered reply.1 (.page reply.2)), store) := by
  have finishes : (showPage installation payRef).run =
      (Console.getPublicCharge payRef).run >>= fun outcome =>
        .done (.ok (.answered (paged installation.unicode outcome).1
          (.page (paged installation.unicode outcome).2))) := by
    rw [showPage, run_caught_bind]
    refine Program.bind_congr fun outcome => ?_
    rcases outcome with error | view
    · cases error <;> rfl
    · rfl
  constructor
  · rw [checkoutPage]
    rcases Checkout.getPublicCharge payRef store.1.charges store.2.gatewayConfigs with error | view
    · cases error <;> rfl
    · rfl
  · rw [finishes, Machine.run_bind_done, Console.run_getPublicCharge]

end Http

/-! ## Calls of the devices -/

namespace DeviceCall

variable (installation : Installation)

theorem serve_pair (uuids : PairUuids) (label : Option String) :
    (DeviceCall.pair uuids label (envs 0).now).serve installation.hmac installation.config
        store.2.devices =
      (none, (database.run (Console.pairDevice installation.hmac uuids label).run envs
        store).2.2.devices) := by
  rw [Console.run_pairDevice]
  cases paired : Device.pair installation.hmac uuids label (envs 0).now store.2.devices with
  | error error => simp only [serve, paired, Store.put]
  | ok made => simp only [serve, paired, Store.put]

/-- The caller is told what the route answers. -/
theorem serve_exchange (token : String) :
    let served := (DeviceCall.exchange token (envs 1).now).serve installation.hmac
      installation.config store.2.devices
    let (reply, after) := database.run (Http.exchange installation token).run envs store
    served.2 = after.2.devices ∧
      ∀ exchanged, served.1 = some exchanged ↔
        reply = .ok (.answered .ok (.exchanged exchanged)) := by
  simp only [serve, Http.run_exchange]
  cases (Http.exchangeToken installation.hmac installation.config token (envs 1).now
      store.2.devices).1 with
  | none => simp
  | some told => simp

end DeviceCall

end SpritexPay
