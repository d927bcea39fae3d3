import SpritexPay.MerchantProperties
import SpritexPay.SignatureProperties

/-! Who writes the tables of the console. In every run of the surface each row of a
customer, a gateway, a device, a key or a setting comes from a request that showed a
session, with the values of that request; a request of the merchants' API acts after it
was found to hold a live key; and the secret of the forwarders is only shown to the
holder of a paired token. -/

set_option autoImplicit false

namespace SpritexPay

open Relational Resumption

theorem uses_anything {Value : Type} {sig : Signature} (program : Program sig Value) :
    program.Uses (fun _ => True) anyway := by
  induction program with
  | done value => trivial
  | stmt op next ih => exact ⟨trivial, ih⟩

/-- The statements behind the session of the console. -/
def ConsoleStatement.administers : ConsoleStatement → Bool
  | .insertCustomer _ _ _ _ | .insertGateway _ _ | .insertDevice _ _ _ | .insertApiKey _ _ _ _
  | .revokeApiKey _ | .setSetting _ _ => true
  | _ => false

namespace Http

section Endpoints

variable (installation : Installation)

/-- What a request writes to the console, and what it looks up of a credential. -/
def Incoming.Enters (incoming : Incoming) : ConsoleStatement → Prop
  | .insertCustomer id name email msisdn =>
      incoming.endpoint = .createCustomer ⟨name, email, msisdn⟩ ∧ id = "cus_" ++ incoming.uuids 0
  | .insertGateway id req =>
      incoming.endpoint = .registerGateway req ∧ id = "gw_" ++ incoming.uuids 0
  | .insertDevice id label tokenSha256 =>
      incoming.endpoint = .pairDevice label ∧ id = "dev_" ++ incoming.uuids 0 ∧
      tokenSha256 = Device.digest installation.hmac
        ("spx_" ++ incoming.uuids 1 ++ incoming.uuids 2)
  | .activeDevice tokenSha256 => ∃ token, incoming.endpoint = .exchangeToken token ∧
      tokenSha256 = Device.digest installation.hmac token
  | .stampDevice _ => ∃ token, incoming.endpoint = .exchangeToken token
  | .insertApiKey id keySha256 label scopes => ∃ req, incoming.endpoint = .createMerchantKey req ∧
      id = "ak_" ++ incoming.uuids 0 ∧ label = req.label ∧
      keySha256 = Merchant.keyDigest installation.crates
        ("spk_" ++ incoming.uuids 1 ++ incoming.uuids 2) ∧
      scopes = (installation.json.toString (Merchant.grantedScopes req)).getD "[]"
  | .activeApiKey keySha256 => ∃ scope, incoming.endpoint.tier = .merchant scope ∧
      keySha256 = Merchant.keyDigest installation.crates (apiKeyOf incoming.headers)
  | .stampApiKey _ => ∃ scope, incoming.endpoint.tier = .merchant scope
  | .revokeApiKey id => incoming.endpoint = .revokeMerchantKey id
  | .setSetting key value => incoming.endpoint = .putSetting key value
  | _ => True

/-- Whatever is asked of the engine. -/
abbrev Incoming.Entry (incoming : Incoming) : Statement ⊕ ConsoleStatement → Prop :=
  Sum.elim (fun _ => True) (incoming.Enters installation)

variable {installation} {incoming : Incoming}

theorem handle_enters :
    Issues (incoming.Entry installation) (handle installation incoming incoming.endpoint) := by
  cases asked : incoming.endpoint with
  | health => exact issues_health trivial
  | login password => exact issues_login password
  | authStatus => trivial
  | exchangeToken token => exact issues_exchange ⟨token, asked, rfl⟩ fun _ => ⟨token, asked⟩
  | smsWebhook raw => exact issues_smsWebhook fun _ _ => uses_anything _
  | checkoutPage payRef => exact issues_showPage trivial trivial
  | checkoutStatus payRef =>
      exact issues_answering (Console.issues_getPublicCharge trivial trivial)
  | openLink ref =>
      exact issues_bind (issues_adapt (issues_engine (uses_anything _))) fun _ => trivial
  | checkoutSelect _ _ | checkoutClaim _ _ _ | openLinkAmount _ _ | apiCreateCheckout _
  | apiVerifyPayment _ | createCharge _ | getCharge _ | ledgerQuery _ | createInvoice _
  | issueInvoice _ | createLink _ =>
      exact issues_answering (issues_engine (uses_anything _))
  | getInvoice id => exact issues_finding (issues_adapt (issues_engine (uses_anything _)))
  | registerGateway req =>
      exact issues_answering (Console.issues_registerGateway ⟨asked, rfl⟩ fun _ => trivial)
  | createCustomer req =>
      exact issues_answering (Console.issues_createCustomer ⟨asked, rfl⟩ fun _ => trivial)
  | createDomain domain =>
      exact issues_answering (Console.issues_createDomain trivial fun _ => trivial)
  | regexSuggestion gateway => exact issues_regexSuggestion trivial
  | fraudScan => exact issues_answering (Console.issues_scan fun _ => trivial)
  | reconChat question =>
      exact issues_reconChat question (fun _ => uses_anything _) fun _ => trivial
  | pairDevice label =>
      exact issues_answering (Console.issues_pairDevice ⟨asked, rfl, rfl⟩)
  | createMerchantKey req =>
      exact issues_answering (Console.issues_createApiKey ⟨req, asked, rfl, rfl, rfl, rfl⟩)
  | revokeMerchantKey id => exact issues_revokeMerchantKey asked
  | deleteDomain id => exact issues_deleteDomain trivial
  | getCustomer id =>
      refine issues_finding ?_
      exact issues_console trivial
  | putSetting key value =>
      refine issues_answering ?_
      exact issues_console asked
  | listCharges | listGateways | listDevices | listMerchantKeys | listCustomers | listInvoices
  | listLinks | listDomains | getSettings _ | listActivities | listSmsEvents =>
      refine issues_answering ?_
      exact issues_console trivial

/-- A request enters what its endpoint says, and nothing without its session. -/
theorem program_enters : (incoming.program installation).Uses
    (fun op => incoming.admitted installation = true ∧ incoming.Entry installation op) anyway := by
  unfold Incoming.program
  rw [ExceptT.run_bind, Program.bind_assoc]
  cases admitted : incoming.admitted installation with
  | false =>
      rw [guard_of_not_admitted installation incoming admitted]
      trivial
  | true =>
      refine Program.Uses.bind (issues_guard ?_ ?_) fun passed _ => ?_
      · exact fun scope tier => ⟨rfl, scope, tier, rfl⟩
      · exact fun scope tier _ => ⟨rfl, scope, tier⟩
      · cases passed with
        | error refused => trivial
        | ok _ =>
            refine Program.Uses.bind (handle_enters.mono ?_ fun _ _ => trivial) fun _ _ => trivial
            exact fun op entry => ⟨rfl, entry⟩

end Endpoints

end Http

theorem ConsoleStatement.tier_of_enters {installation : Installation} {incoming : Http.Incoming}
    {op : ConsoleStatement} (enters : incoming.Enters installation op)
    (administers : op.administers = true) : incoming.endpoint.tier = .admin := by
  cases op with
  | insertCustomer | insertGateway | insertDevice =>
      obtain ⟨endpoint, _⟩ := enters
      rw [endpoint]
      rfl
  | insertApiKey =>
      obtain ⟨_, endpoint, _⟩ := enters
      rw [endpoint]
      rfl
  | revokeApiKey | setSetting =>
      rw [show incoming.endpoint = _ from enters]
      rfl
  | _ => cases administers

section Run

variable {Thread : Type} [DecidableEq Thread] {installation : Installation} {store : Store}
  {tasks : Thread → Task} {faults : Bool}
  {past : List (Event console.signature Store Thread Outcome)}
  {config : Config console.signature Store Thread Outcome}

/-- Who issues a statement of the console. -/
theorem entered_of_run (run : Run database faults (installation.surface store tasks) past config)
    {event : Event console.signature Store Thread Outcome} (member : event ∈ past)
    {op : ConsoleStatement} (issued : event.act.op = .inr op) :
    ∃ incoming, tasks event.thread = .incoming incoming ∧
      incoming.admitted installation = true ∧ incoming.Enters installation op := by
  cases task : tasks event.thread with
  | poll =>
      have uses : ((tasks event.thread).program installation).Uses
          (Sum.elim (fun _ => True) fun _ => False) fun _ => True := by
        rw [task]
        exact Program.Uses.bind ((uses_anything _).lift console fun _ => False) fun _ _ => trivial
      have allowed := (run.uses_own event.thread uses).1 event member rfl
      rw [issued] at allowed
      exact allowed.elim
  | incoming incoming =>
      have uses : ((tasks event.thread).program installation).Uses
          (fun op => incoming.admitted installation = true ∧ incoming.Entry installation op)
          fun _ => True := by
        rw [task]
        exact Program.Uses.bind Http.program_enters fun _ _ => trivial
      have allowed := (run.uses_own event.thread uses).1 event member rfl
      rw [issued] at allowed
      exact ⟨incoming, rfl, allowed⟩

end Run

/-! ## Origins of the rows -/

def Device.Seen (old new : Device) : Prop := new = { old with lastSeenAt := new.lastSeenAt }

theorem Device.Seen.refl (device : Device) : device.Seen device := rfl

theorem Device.Seen.trans {first second third : Device} (before : first.Seen second)
    (after : second.Seen third) : first.Seen third := by
  unfold Seen at before after ⊢
  rw [after, before]

def sameRow {Row : Type} (old new : Row) : Prop := new = old

section Origins

variable (entered : ConsoleStatement → Prop)

/-- A key keeps its columns, and is only revoked by a statement that names it. -/
structure ApiKey.Kept (old new : ApiKey) : Prop where
  columns : new = { old with status := new.status, lastUsedAt := new.lastUsedAt }
  status : new.status = old.status ∨ new.status = .revoked ∧ entered (.revokeApiKey old.id)

def Customer.Entered (customer : Customer) : Prop :=
  customer.status = .active ∧
    entered (.insertCustomer customer.id customer.name customer.email customer.msisdn)

def GatewayConfig.Entered (config : GatewayConfig) : Prop :=
  config.enabled = 1 ∧
    entered (.insertGateway config.id ⟨config.gateway, config.label, config.accountMsisdn⟩)

def Device.Entered (device : Device) : Prop :=
  device.status = .active ∧ entered (.insertDevice device.id device.label device.tokenSha256)

/-- A new key is live, unless it was revoked since. -/
structure ApiKey.Entered (apiKey : ApiKey) : Prop where
  columns : entered (.insertApiKey apiKey.id apiKey.keySha256 apiKey.label apiKey.scopes)
  status : apiKey.status = .active ∨ apiKey.status = .revoked ∧ entered (.revokeApiKey apiKey.id)

def SettingRow.Entered (row : SettingRow) : Prop :=
  ∃ value, row.value = some value ∧ entered (.setSetting row.key value)

def SettingRow.Kept (old new : SettingRow) : Prop :=
  new.key = old.key ∧ (new = old ∨ new.Entered entered)

/-- Whatever the console holds it held before, or it was entered. -/
structure Console.Origins (before after : Console) : Prop where
  customers : Extends sameRow (Customer.Entered entered) before.customers.rows after.customers.rows
  gatewayConfigs : Extends sameRow (GatewayConfig.Entered entered) before.gatewayConfigs.rows
    after.gatewayConfigs.rows
  devices : Extends Device.Seen (Device.Entered entered) before.devices.rows after.devices.rows
  apiKeys : Extends (ApiKey.Kept entered) (ApiKey.Entered entered) before.apiKeys.rows
    after.apiKeys.rows
  settings : Extends (SettingRow.Kept entered) (SettingRow.Entered entered)
    before.settings.rows after.settings.rows
  auditLog : after.auditLog = before.auditLog

variable {entered}

theorem sameRow_refl {Row : Type} (row : Row) : sameRow row row := rfl

theorem sameRow_trans {Row : Type} {first second third : Row} (before : sameRow first second)
    (after : sameRow second third) : sameRow first third := after.trans before

theorem sameRow_stable {Row : Type} {fresh : Row → Prop} (old new : Row) (same : sameRow old new)
    (entry : fresh old) : fresh new := by
  rw [show new = old from same]
  exact entry

theorem ApiKey.Kept.refl (apiKey : ApiKey) : apiKey.Kept entered apiKey := ⟨rfl, .inl rfl⟩

theorem ApiKey.Kept.trans {first second third : ApiKey} (before : first.Kept entered second)
    (after : second.Kept entered third) : first.Kept entered third where
  columns := by
    have last := after.columns
    rw [before.columns] at last
    exact last
  status := by
    have same : second.id = first.id := by rw [before.columns]
    rcases after.status with kept | ⟨revoked, asked⟩
    · rw [kept]
      exact before.status
    · rw [same] at asked
      exact .inr ⟨revoked, asked⟩

theorem Device.Seen.stable (old new : Device) (seen : old.Seen new)
    (entry : old.Entered entered) : new.Entered entered := by
  rw [seen]
  exact entry

theorem ApiKey.Kept.stable (old new : ApiKey) (kept : old.Kept entered new)
    (entry : old.Entered entered) : new.Entered entered where
  columns := by
    rw [kept.columns]
    exact entry.columns
  status := by
    have same : new.id = old.id := by rw [kept.columns]
    rw [same]
    rcases kept.status with status | revoked
    · rw [status]
      exact entry.status
    · exact .inr revoked

theorem SettingRow.Kept.refl (row : SettingRow) : row.Kept entered row := ⟨rfl, .inl rfl⟩

theorem SettingRow.Kept.trans {first second third : SettingRow}
    (before : first.Kept entered second) (after : second.Kept entered third) :
    first.Kept entered third := by
  obtain ⟨same, rfl | set⟩ := after
  · exact before
  · exact ⟨same.trans before.1, .inr set⟩

theorem SettingRow.Kept.stable (old new : SettingRow) (kept : old.Kept entered new)
    (set : old.Entered entered) : new.Entered entered := by
  obtain ⟨_, rfl | again⟩ := kept
  · exact set
  · exact again

namespace Console.Origins

theorem refl (rest : Console) : rest.Origins entered rest where
  customers := .refl sameRow_refl _
  gatewayConfigs := .refl sameRow_refl _
  devices := .refl Device.Seen.refl _
  apiKeys := .refl ApiKey.Kept.refl _
  settings := .refl SettingRow.Kept.refl _
  auditLog := rfl

theorem trans {first second third : Console} (before : first.Origins entered second)
    (after : second.Origins entered third) : first.Origins entered third where
  customers := before.customers.trans sameRow_trans sameRow_stable after.customers
  gatewayConfigs := before.gatewayConfigs.trans sameRow_trans sameRow_stable after.gatewayConfigs
  devices := before.devices.trans Device.Seen.trans Device.Seen.stable after.devices
  apiKeys := before.apiKeys.trans ApiKey.Kept.trans ApiKey.Kept.stable after.apiKeys
  settings := before.settings.trans SettingRow.Kept.trans SettingRow.Kept.stable after.settings
  auditLog := after.auditLog.trans before.auditLog

end Console.Origins

theorem Console.Origins.mono {wider : ConsoleStatement → Prop} {before after : Console}
    (origins : before.Origins entered after) (more : ∀ op, entered op → wider op) :
    before.Origins wider after where
  customers := origins.customers.mono (fun _ _ same => same) fun _ => And.imp_right (more _)
  gatewayConfigs :=
    origins.gatewayConfigs.mono (fun _ _ same => same) fun _ => And.imp_right (more _)
  devices := origins.devices.mono (fun _ _ same => same) fun _ => And.imp_right (more _)
  apiKeys := origins.apiKeys.mono
    (fun _ _ kept => ⟨kept.columns, kept.status.imp_right (And.imp_right (more _))⟩)
    fun _ entry => ⟨more _ entry.columns, entry.status.imp_right (And.imp_right (more _))⟩
  settings := origins.settings.mono
    (fun _ _ kept => ⟨kept.1, kept.2.imp_right fun ⟨value, set, asked⟩ =>
      ⟨value, set, more _ asked⟩⟩) fun _ ⟨value, set, asked⟩ => ⟨value, set, more _ asked⟩
  auditLog := origins.auditLog

/-! ## Statements -/

section Tables

variable {rest : Console}

theorem origins_customers {customers : Table Customer}
    (grown : Extends sameRow (Customer.Entered entered) rest.customers.rows customers.rows) :
    rest.Origins entered { rest with customers } :=
  { Console.Origins.refl rest with customers := grown }

theorem origins_gatewayConfigs {gatewayConfigs : Table GatewayConfig}
    (grown : Extends sameRow (GatewayConfig.Entered entered) rest.gatewayConfigs.rows
      gatewayConfigs.rows) :
    rest.Origins entered { rest with gatewayConfigs } :=
  { Console.Origins.refl rest with gatewayConfigs := grown }

theorem origins_devices {devices : Table Device}
    (grown : Extends Device.Seen (Device.Entered entered) rest.devices.rows devices.rows) :
    rest.Origins entered { rest with devices } :=
  { Console.Origins.refl rest with devices := grown }

theorem origins_apiKeys {apiKeys : Table ApiKey}
    (grown : Extends (ApiKey.Kept entered) (ApiKey.Entered entered) rest.apiKeys.rows
      apiKeys.rows) : rest.Origins entered { rest with apiKeys } :=
  { Console.Origins.refl rest with apiKeys := grown }

theorem extends_set {now : Timestamp} {key value : String} {settings : Table SettingRow}
    (asked : entered (.setSetting key value)) :
    Extends (SettingRow.Kept entered) (SettingRow.Entered entered) settings.rows
      (Settings.set now key value settings).rows := by
  unfold Settings.set
  cases stored : settings.insert? ⟨⟨key, some value⟩, now⟩ with
  | some inserted =>
      exact Table.extends_insert? SettingRow.Kept.refl ⟨value, rfl, asked⟩ stored
  | none =>
      dsimp only
      rw [Table.rows_update]
      refine .map (fun row => ?_) _
      by_cases chosen : (row.key == key) = true
      · rw [if_pos chosen]
        rw [beq_iff_eq] at chosen
        subst chosen
        exact ⟨rfl, .inr ⟨value, rfl, asked⟩⟩
      · rw [if_neg chosen]
        exact .refl row

theorem extends_revoked {id : String} {apiKeys : Table ApiKey}
    (asked : entered (.revokeApiKey id)) :
    Extends (ApiKey.Kept entered) (ApiKey.Entered entered) apiKeys.rows
      (Merchant.setRevoked id apiKeys).rows := by
  unfold Merchant.setRevoked
  rw [Table.rows_update]
  refine .map (fun apiKey => ?_) _
  by_cases chosen : (apiKey.id == id) = true
  · rw [if_pos chosen]
    rw [beq_iff_eq] at chosen
    subst chosen
    exact ⟨rfl, .inr ⟨rfl, asked⟩⟩
  · rw [if_neg chosen]
    exact .refl apiKey

end Tables

theorem console_ok {stored : Except SqlError Console} {answer : Unit} {after : Console}
    (executed : (do return ((), ← stored) : Except SqlError (Unit × Console)) =
      .ok (answer, after)) : stored = .ok after := by
  cases stored with
  | error error => cases executed
  | ok rest =>
      cases executed
      rfl

/-- A statement of the console enters a row of its own, or none. -/
theorem origins_exec {env : Env} {op : ConsoleStatement} {db : Db} {rest after : Console}
    {answer : op.Answer} (executed : op.exec env db rest = .ok (answer, after)) :
    rest.Origins (fun other => other = op ∧ op.administers = true) after := by
  cases op with
  | insertCustomer id name email msisdn =>
      have stored := console_ok executed
      unfold Console.insertCustomer at stored
      split at stored
      · rename_i customers inserted
        cases stored
        exact origins_customers (Table.extends_insert? sameRow_refl ⟨rfl, rfl, rfl⟩ inserted)
      · cases stored
  | insertGateway id req =>
      have stored := console_ok executed
      unfold Console.insertGateway at stored
      split at stored
      · rename_i gatewayConfigs inserted
        cases stored
        exact origins_gatewayConfigs
          (Table.extends_insert? sameRow_refl ⟨rfl, rfl, rfl⟩ inserted)
      · cases stored
  | insertDevice id label tokenSha256 =>
      have stored := console_ok executed
      unfold Console.insertDevice at stored
      split at stored
      · rename_i devices inserted
        cases stored
        exact origins_devices (Table.extends_insert? Device.Seen.refl ⟨rfl, rfl, rfl⟩ inserted)
      · cases stored
  | stampDevice id =>
      cases executed
      exact origins_devices (Table.extends_update Device.Seen.refl fun _ => rfl)
  | insertApiKey id keySha256 label scopes =>
      have stored := console_ok executed
      unfold Console.insertApiKey at stored
      split at stored
      · rename_i apiKeys inserted
        cases stored
        exact origins_apiKeys
          (Table.extends_insert? ApiKey.Kept.refl ⟨⟨rfl, rfl⟩, .inl rfl⟩ inserted)
      · cases stored
  | stampApiKey id =>
      cases executed
      exact origins_apiKeys (Table.extends_update ApiKey.Kept.refl fun _ => ⟨rfl, .inl rfl⟩)
  | revokeApiKey id =>
      cases executed
      exact origins_apiKeys (extends_revoked ⟨rfl, rfl⟩)
  | setSetting key value =>
      cases executed
      exact { Console.Origins.refl rest with settings := extends_set ⟨rfl, rfl⟩ }
  | _ =>
      cases executed
      exact .refl rest

end Origins

section Run

variable {Thread : Type} [DecidableEq Thread] {installation : Installation} {store : Store}
  {tasks : Thread → Task} {faults : Bool}
  {past : List (Event console.signature Store Thread Outcome)}
  {config : Config console.signature Store Thread Outcome}

theorem origins_reply {op : console.signature.Op} {before after : Store}
    {reply : console.signature.Reply op} (replied : database.Replies faults op before reply after) :
    before.2.Origins (fun entry => op = .inr entry ∧ reply.isOk = true ∧ entry.administers = true)
      after.2 := by
  cases op with
  | inl op =>
      rw [(Machine.replies_inl replied).2]
      exact .refl _
  | inr op =>
      rcases (Machine.replies_inr replied).2 with ⟨env, answer, executed, rfl⟩ | ⟨_, _, same⟩
      · refine (origins_exec executed).mono fun entry => ?_
        rintro ⟨rfl, administers⟩
        exact ⟨rfl, rfl, administers⟩
      · rw [same]
        exact .refl _

end Run

/-- A request that showed its session has executed the statement. -/
def Task.Entered {Thread : Type} (installation : Installation) (tasks : Thread → Task)
    (past : List (Event console.signature Store Thread Outcome)) (entry : ConsoleStatement) :
    Prop :=
  ∃ event ∈ past, event.act.op = .inr entry ∧ event.act.reply.isOk = true ∧
    ∃ incoming, tasks event.thread = .incoming incoming ∧ incoming.endpoint.tier = .admin ∧
    Http.requireAuth installation.hmac installation.config incoming.headers.authorization
      incoming.now = true ∧
    incoming.Enters installation entry

section Entries

variable {Thread : Type} [DecidableEq Thread] {installation : Installation} {store : Store}
  {tasks : Thread → Task} {faults : Bool}
  {past : List (Event console.signature Store Thread Outcome)}
  {config : Config console.signature Store Thread Outcome}

theorem task_entered_of_run
    (run : Run database faults (installation.surface store tasks) past config)
    {event : Event console.signature Store Thread Outcome} (member : event ∈ past)
    {recent : List (Event console.signature Store Thread Outcome)} (recently : event ∈ recent)
    {entry : ConsoleStatement} (issued : event.act.op = .inr entry)
    (answered : event.act.reply.isOk = true) (administers : entry.administers = true) :
    Task.Entered installation tasks recent entry := by
  obtain ⟨incoming, task, admitted, enters⟩ := entered_of_run run member issued
  have tier := ConsoleStatement.tier_of_enters enters administers
  unfold Http.Incoming.admitted at admitted
  rw [tier] at admitted
  exact ⟨event, recently, issued, answered, incoming, task, tier, admitted, enters⟩

theorem origins_of_run {start : Config console.signature Store Thread Outcome}
    {entered : ConsoleStatement → Prop} (run : Run database faults start past config)
    (issued : ∀ event ∈ past, ∀ entry : ConsoleStatement, event.act.op = .inr entry →
      event.act.reply.isOk = true → entry.administers = true → entered entry) :
    start.store.2.Origins entered config.store.2 := by
  induction run with
  | start => exact .refl _
  | step earlier waiting replied ih =>
      refine (ih fun event member => issued event (List.mem_cons_of_mem _ member)).trans ?_
      refine (origins_reply replied).mono fun entry => ?_
      rintro ⟨same, answered, administers⟩
      exact issued _ List.mem_cons_self entry same answered administers

end Entries

/-- In every run, from any moment to any later one, each row of the console was there
before, or a request that showed a session entered it in the meantime with its own values;
and what was there still is, but for what such a request has revoked or set again and for
the stamps. -/
theorem console_entered_with_session {Thread : Type} [DecidableEq Thread]
    {installation : Installation} {store : Store} {tasks : Thread → Task} {faults : Bool}
    {newer older : List (Event console.signature Store Thread Outcome)}
    {earlier config : Config console.signature Store Thread Outcome}
    (before : Run database faults (installation.surface store tasks) older earlier)
    (run : Run database faults (installation.surface store tasks) (newer ++ older) config) :
    earlier.store.2.Origins (Task.Entered installation tasks newer) config.store.2 := by
  obtain ⟨middle, reached, after⟩ := run.split
  obtain rfl := before.unique reached
  refine origins_of_run after fun event recently _ issued answered administers => ?_
  exact task_entered_of_run run (List.mem_append_left older recently) recently issued answered
    administers

/-- A key that is made and then revoked. -/
def keyAndRevocation : Bool → Task
  | false => .incoming (sampleIncoming (.createMerchantKey ⟨none, none⟩) sampleHeaders)
  | true => .incoming (sampleIncoming (.revokeMerchantKey "ak_1") sampleHeaders)

/-- Between the two requests the key is only revoked, and by the second. -/
theorem console_entered_with_session_sample : ∃ newer older config,
    Run database true (sampleInstallation.surface (Db.empty, .empty) keyAndRevocation)
      (newer ++ older) config ∧
      ∃ apiKey ∈ config.store.2.apiKeys, apiKey.status = .revoked ∧
        Task.Entered sampleInstallation keyAndRevocation newer (.revokeApiKey apiKey.id) := by
  have made := Run.scheduled database true
    (sampleInstallation.surface (Db.empty, .empty) keyAndRevocation) sampleEnv [false]
  have live : ∀ apiKey ∈ ((sampleInstallation.surface (Db.empty, .empty)
      keyAndRevocation).schedule database sampleEnv [false]).store.2.apiKeys,
        apiKey.status = .active := by
    decide +kernel
  have revoked : ∃ apiKey ∈ (((sampleInstallation.surface (Db.empty, .empty)
      keyAndRevocation).schedule database sampleEnv [false]).schedule database sampleEnv
        [true]).store.2.apiKeys, apiKey.status = .revoked := by
    decide +kernel
  obtain ⟨apiKey, member, ended⟩ := revoked
  have run := made.schedule sampleEnv [true]
  refine ⟨_, _, _, run, apiKey, member, ended, ?_⟩
  rcases (console_entered_with_session made run).apiKeys.source member with
    ⟨old, oldMember, kept⟩ | entered
  · rcases kept.status with same | ⟨_, asked⟩
    · rw [live old oldMember, ended] at same
      cases same
    · rw [kept.columns]
      exact asked
  · rcases entered.status with same | ⟨_, asked⟩
    · rw [ended] at same
      cases same
    · exact asked

/-! ## Keys -/

/-- A statement of the engine. -/
def OfEngine : Statement ⊕ ConsoleStatement → Prop := fun op => op.isLeft = true

/-- A lookup that found a live key with the scope. -/
def KeyFound (crates : Crates) (json : ScopesJson) (raw scope : String) :
    (op : console.signature.Op) → console.signature.Reply op → Prop
  | .inr (.activeApiKey keySha256), .ok (some (_, scopesJson)) =>
      keySha256 = Merchant.keyDigest crates raw ∧
        scope ∈ Merchant.parseScopes json scopesJson
  | _, _ => False

theorem Console.gated_verifyApiKey {crates : Crates} {json : ScopesJson} {raw scope : String} :
    (verifyApiKey crates json raw scope).run.Gated OfEngine (KeyFound crates json raw scope)
      fun outcome => ∀ context, outcome ≠ .ok (some context) := by
  have looks : (consoleSql (.activeApiKey (Merchant.keyDigest crates raw)) :
      Site SqlError (Option (String × String))).run.Gated OfEngine
        (KeyFound crates json raw scope) fun outcome =>
          ∀ id scopesJson, outcome = .ok (some (id, scopesJson)) →
            scope ∉ Merchant.parseScopes json scopesJson := by
    refine ⟨Bool.false_ne_true, fun reply => ?_⟩
    cases reply with
    | error error => exact .inr fun _ _ same => by cases same
    | ok found =>
        cases found with
        | none => exact .inr fun _ _ same => by cases same
        | some found =>
            obtain ⟨id, scopesJson⟩ := found
            by_cases granted : scope ∈ Merchant.parseScopes json scopesJson
            · exact .inl ⟨rfl, granted⟩
            · refine .inr fun _ _ same => ?_
              cases same
              exact granted
  refine gated_bind looks (fun found ended => ?_) fun failure _ context same => by cases same
  cases found with
  | none => exact fun context same => by cases same
  | some found =>
      obtain ⟨id, scopesJson⟩ := found
      have absent := ended id scopesJson rfl
      dsimp only
      split
      · exact fun context same => by cases same
      · rename_i granted
        simp [absent] at granted

/-- A request of the merchants' API asks nothing of the engine, and is answered with
nothing but a refusal, before its key was found. -/
theorem Http.gated_program {installation : Installation} {incoming : Incoming} {scope : String}
    (tier : incoming.endpoint.tier = .merchant scope) :
    (incoming.program installation).Gated OfEngine
      (KeyFound installation.crates installation.json (apiKeyOf incoming.headers) scope)
      fun reply => ∃ error, reply = .refused error := by
  have guards : (guard installation incoming.headers incoming.now
      incoming.endpoint.tier).run.Gated OfEngine
        (KeyFound installation.crates installation.json (apiKeyOf incoming.headers) scope)
        fun outcome => outcome ≠ .ok () := by
    rw [tier]
    have found : ((Console.verifyApiKey installation.crates installation.json
        (apiKeyOf incoming.headers) scope).adapt dbError).run.Gated OfEngine
          (KeyFound installation.crates installation.json (apiKeyOf incoming.headers) scope)
          fun outcome => ∀ context, outcome ≠ .ok (some context) := by
      refine gated_adapt Console.gated_verifyApiKey fun outcome refused context same => ?_
      cases outcome with
      | error error => cases same
      | ok found => exact refused context (by rw [Except.ok.inj same])
    refine gated_bind found (fun context refused => ?_) fun _ _ same => by cases same
    cases context with
    | none => exact fun same => by cases same
    | some context => exact absurd rfl (refused context)
  unfold Incoming.program
  have refused : (guard installation incoming.headers incoming.now incoming.endpoint.tier >>=
      fun _ => handle installation incoming incoming.endpoint).run.Gated OfEngine
        (KeyFound installation.crates installation.json (apiKeyOf incoming.headers) scope)
        fun outcome => ∃ error, outcome = .error error :=
    gated_bind guards (fun _ passed => absurd rfl passed) fun failure _ => ⟨failure, rfl⟩
  refine refused.bind fun outcome ended => ?_
  obtain ⟨error, rfl⟩ := ended
  exact ⟨error, rfl⟩

section Run

variable {Thread : Type} [DecidableEq Thread] {installation : Installation} {store : Store}
  {tasks : Thread → Task} {faults : Bool}
  {past : List (Event console.signature Store Thread Outcome)}
  {config : Config console.signature Store Thread Outcome}

/-- The console keeps its rows, whatever was entered. -/
def Store.Keeps (before after : Store) : Prop := before.2.Origins (fun _ => True) after.2

theorem Store.Keeps.refl (store : Store) : store.Keeps store := Console.Origins.refl store.2

theorem Store.Keeps.trans {first second third : Store} (before : first.Keeps second)
    (after : second.Keeps third) : first.Keeps third := Console.Origins.trans before after

theorem Store.Keeps.apiKeys {before after : Store} (keeps : before.Keeps after) :
    Extends (ApiKey.Kept fun _ => True) (ApiKey.Entered fun _ => True) before.2.apiKeys.rows
      after.2.apiKeys.rows := Console.Origins.apiKeys keeps

theorem keeps_database (env : Env) (op : console.signature.Op) (store : Store) :
    store.Keeps (database.apply env op store).2 :=
  (origins_reply (.commit env : database.Replies false op store _ _)).mono fun _ _ => trivial

/-- The key that a lookup has found. -/
theorem found_of_event {newer older : List (Event console.signature Store Thread Outcome)}
    {event : Event console.signature Store Thread Outcome} {raw scope : String}
    (run : Run database faults (installation.surface store tasks) (newer ++ event :: older) config)
    (found : KeyFound installation.crates installation.json raw scope event.act.op
      event.act.reply) :
    ∃ apiKey ∈ event.act.before.2.apiKeys, apiKey.status = .active ∧
      apiKey.keySha256 = Merchant.keyDigest installation.crates raw ∧
      scope ∈ Merchant.parseScopes installation.json apiKey.scopes := by
  obtain ⟨_, _, _, _, _, _, replied, _⟩ := run.event_cases
  obtain ⟨thread, ⟨op, reply, before, after⟩, threads⟩ := event
  cases op with
  | inl op => exact found.elim
  | inr op =>
      cases op with
      | activeApiKey keySha256 =>
          cases reply with
          | error error => exact found.elim
          | ok answer =>
              cases answer with
              | none => exact found.elim
              | some key =>
                  obtain ⟨digest, granted⟩ := found
                  subst digest
                  rcases (Machine.replies_inr replied).2 with ⟨env, answer, executed, same⟩ |
                    ⟨_, refused, _⟩
                  · cases same
                    obtain ⟨looked, _⟩ := Prod.mk.inj (Except.ok.inj executed)
                    obtain ⟨apiKey, stored, rfl⟩ := Option.map_eq_some_iff.mp looked
                    obtain ⟨member, matching⟩ := Table.mem_of_find?_eq_some stored
                    simp only [Bool.and_eq_true, beq_iff_eq] at matching
                    exact ⟨apiKey, member, matching.2, matching.1, granted⟩
                  · cases refused
      | _ => exact found.elim

/-- A key that is live was not there to be revoked before. -/
theorem live_not_revoked {newer older : List (Event console.signature Store Thread Outcome)}
    {event revocation : Event console.signature Store Thread Outcome} {apiKey : ApiKey}
    {affected : Nat} {before after : Store}
    (run : Run database faults (installation.surface store tasks) (newer ++ event :: older) config)
    (stored : apiKey ∈ event.act.before.2.apiKeys) (live : apiKey.status = .active)
    (earlier : revocation ∈ older)
    (revoked : revocation.act = ⟨.inr (.revokeApiKey apiKey.id), .ok affected, before, after⟩) :
    affected = 0 := by
  obtain ⟨middle, _, olderRun, seen, _⟩ := run.event_cases
  have kept : after.Keeps event.act.before := by
    have grown : revocation.act.after.Keeps middle.store :=
      olderRun.store_relates_event Store.Keeps.refl Store.Keeps.trans keeps_database earlier
    rw [seen, revoked] at grown
    exact grown
  obtain ⟨_, _, rfl⟩ := List.append_of_mem earlier
  obtain ⟨_, _, _, _, _, _, replied, _⟩ := olderRun.event_cases
  rw [revoked] at replied
  rcases (Machine.replies_inr replied).2 with ⟨env, answer, executed, same⟩ | ⟨_, refused, _⟩
  · cases same
    obtain ⟨counted, rewritten⟩ := Prod.mk.inj (Except.ok.inj executed)
    by_contra some
    rw [← counted] at some
    obtain ⟨old, oldMember, named⟩ := Table.count_pos_iff.mp (Nat.pos_of_ne_zero some)
    have revokedMember : { old with status := .revoked } ∈ after.2.apiKeys := by
      rw [← rewritten]
      exact Merchant.mem_setRevoked.mpr ⟨old, oldMember, by rw [if_pos named]⟩
    obtain ⟨later, laterMember, still⟩ := kept.apiKeys.mem revokedMember
    have identified : later.id = apiKey.id := by
      rw [still.columns]
      exact beq_iff_eq.mp named
    obtain rfl : later = apiKey :=
      Table.eq_of_clash laterMember stored (by simp [key, clash, identified])
    have ended : later.status = .revoked := by
      rcases still.status with same | ⟨ended, _⟩
      · exact same
      · exact ended
    rw [ended] at live
    cases live
  · cases refused

end Run

/-- A request of the merchants' API that has asked anything of the engine was found,
before that, to present a key that was live, held the scope of its route and had not been
revoked. The key was there at the start, or a session had made it with these scopes. -/
theorem merchants_hold_live_keys {Thread : Type} [DecidableEq Thread]
    {installation : Installation} {store : Store} {tasks : Thread → Task} {faults : Bool}
    {newer older : List (Event console.signature Store Thread Outcome)}
    {event : Event console.signature Store Thread Outcome}
    {config : Config console.signature Store Thread Outcome}
    (run : Run database faults (installation.surface store tasks) (newer ++ event :: older) config)
    {incoming : Http.Incoming} {scope : String} {op : Statement}
    (asked : tasks event.thread = .incoming incoming)
    (tier : incoming.endpoint.tier = .merchant scope) (issued : event.act.op = .inl op) :
    ∃ later lookup earlier apiKey, older = later ++ lookup :: earlier ∧
      lookup.thread = event.thread ∧ apiKey ∈ lookup.act.before.2.apiKeys ∧
      apiKey.status = .active ∧
      apiKey.keySha256 =
        Merchant.keyDigest installation.crates (Http.apiKeyOf incoming.headers) ∧
      scope ∈ Merchant.parseScopes installation.json apiKey.scopes ∧
      (∀ revocation ∈ earlier, ∀ (affected : Nat) before after,
        revocation.act = ⟨.inr (.revokeApiKey apiKey.id), .ok affected, before, after⟩ →
          affected = 0) ∧
      ((∃ old ∈ store.2.apiKeys, old.id = apiKey.id ∧ old.keySha256 = apiKey.keySha256 ∧
        old.scopes = apiKey.scopes) ∨
        Task.Entered installation tasks earlier
          (.insertApiKey apiKey.id apiKey.keySha256 apiKey.label apiKey.scopes)) := by
  have gated : (((tasks event.thread).program installation)).Gated OfEngine
      (KeyFound installation.crates installation.json (Http.apiKeyOf incoming.headers) scope)
      fun _ => True := by
    rw [asked]
    exact Program.Gated.bind (Http.gated_program tier) fun _ _ => trivial
  obtain ⟨lookup, member, same, found⟩ := run.opened gated (by rw [issued]; rfl)
  obtain ⟨later, earlier, rfl⟩ := List.append_of_mem member
  rw [← List.cons_append, ← List.append_assoc] at run
  obtain ⟨apiKey, stored, live, digest, granted⟩ := found_of_event run found
  refine ⟨later, lookup, earlier, apiKey, rfl, same, stored, live, digest, granted, ?_, ?_⟩
  · intro revocation revocationMember affected before after revoked
    exact live_not_revoked run stored live revocationMember revoked
  · obtain ⟨middle, _, earlierRun, seen, _⟩ := run.event_cases
    have origins := (origins_of_run earlierRun fun _ member _ issued answered administers =>
      task_entered_of_run earlierRun member member issued answered administers).apiKeys
    rw [seen] at origins
    rcases origins.source stored with ⟨old, oldMember, kept⟩ | entered
    · refine .inl ⟨old, oldMember, ?_⟩
      rw [kept.columns]
      exact ⟨rfl, rfl, rfl⟩
    · exact .inr entered.columns

theorem merchants_hold_live_keys_sample : ∃ past config,
    Run database true (sampleInstallation.surface (Db.empty, .empty) keyAndVerification) past
      config ∧
      ∃ lookup ∈ past, lookup.thread = true ∧
        ∃ apiKey ∈ lookup.act.before.2.apiKeys, apiKey.status = .active := by
  have run := Run.scheduled database true
    (sampleInstallation.surface (Db.empty, .empty) keyAndVerification) sampleEnv
    [false, true, true, true]
  have asked : ∃ event ∈ (sampleInstallation.surface (Db.empty, .empty) keyAndVerification).trace
      database sampleEnv [false, true, true, true],
        event.thread = true ∧ Sum.getLeft? event.act.op = some (.chargeByPayRef "sap_1") := by
    decide +kernel
  have tier : (Http.Endpoint.apiVerifyPayment "sap_1").tier = .merchant "verify_payment" := rfl
  obtain ⟨event, member, verifier, issued⟩ := asked
  obtain ⟨newer, older, split⟩ := List.append_of_mem member
  have happened := run
  rw [split] at run
  obtain ⟨later, lookup, earlier, apiKey, found, same, stored, live, _⟩ :=
    merchants_hold_live_keys run (by rw [verifier]; rfl) tier
      (Sum.getLeft?_eq_some_iff.mp issued)
  refine ⟨_, _, happened, lookup, ?_, same.trans verifier, apiKey, stored, live⟩
  rw [split, found]
  simp

end SpritexPay
