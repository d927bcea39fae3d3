import SpritexPay.AuthorityProperties
import SpritexPay.Resumption.Purge

/-! What the records of the console decide. The customers, the settings and the audit log
are kept for the console alone: no other request, and no poll, does anything else or is
answered anything else whatever they hold, and whatever is recorded in the meantime. -/

set_option autoImplicit false

namespace SpritexPay

open Relational Resumption

/-! ## Records -/

def ConsoleStatement.records : ConsoleStatement → Bool
  | .insertCustomer _ _ _ _ | .customerById _ | .recentCustomers _ | .settingsOf _
  | .setSetting _ _ | .recentActivities _ => true
  | _ => false

def Http.Endpoint.records : Endpoint → Bool
  | .createCustomer _ | .listCustomers | .getCustomer _ | .getSettings _ | .putSetting _ _
  | .listActivities => true
  | _ => false

/-- The requests of the console that keep or read its records. -/
def Task.records : Task → Bool
  | .incoming request => request.endpoint.records
  | .poll => false

def Console.unrecorded (rest : Console) : Console :=
  { rest with customers := ∅, settings := ∅, auditLog := [] }

/-- The stores differ in the records only. -/
def Store.Alike (left right : Store) : Prop :=
  left.1 = right.1 ∧ left.2.unrecorded = right.2.unrecorded

section Statements

variable {env : Env} {op : ConsoleStatement} {db : Db} {rest after : Console}

theorem ConsoleStatement.exec_unrecorded (other : op.records = false) :
    op.exec env db rest.unrecorded =
      (op.exec env db rest).map fun result => (result.1, result.2.unrecorded) := by
  cases op with
  | insertGateway id req =>
      simp only [exec, Console.insertGateway, Console.unrecorded]
      cases rest.gatewayConfigs.insert? _ <;> rfl
  | insertDevice id label tokenSha256 =>
      simp only [exec, Console.insertDevice, Console.unrecorded]
      cases rest.devices.insert? _ <;> rfl
  | insertApiKey id keySha256 label scopes =>
      simp only [exec, Console.insertApiKey, Console.unrecorded]
      cases rest.apiKeys.insert? _ <;> rfl
  | insertCustomer | customerById | recentCustomers | settingsOf | setSetting | recentActivities =>
      cases other
  | _ => rfl

theorem ConsoleStatement.exec_alike {left right : Console} (other : op.records = false)
    (same : left.unrecorded = right.unrecorded) :
    (∃ answer later since, op.exec env db left = .ok (answer, later) ∧
      op.exec env db right = .ok (answer, since) ∧ later.unrecorded = since.unrecorded) ∨
    ∃ error, op.exec env db left = .error error ∧ op.exec env db right = .error error := by
  have executed : (op.exec env db left).map (fun result => (result.1, result.2.unrecorded)) =
      (op.exec env db right).map fun result => (result.1, result.2.unrecorded) := by
    rw [← exec_unrecorded other, ← exec_unrecorded other, same]
  cases leftRun : op.exec env db left with
  | ok later =>
      cases rightRun : op.exec env db right with
      | ok since =>
          rw [leftRun, rightRun] at executed
          obtain ⟨answers, rests⟩ := Prod.mk.inj (Except.ok.inj executed)
          exact .inl ⟨later.1, later.2, since.2, rfl, by rw [answers], rests⟩
      | error error =>
          rw [leftRun, rightRun] at executed
          cases executed
  | error error =>
      cases rightRun : op.exec env db right with
      | ok since =>
          rw [leftRun, rightRun] at executed
          cases executed
      | error otherError =>
          rw [leftRun, rightRun] at executed
          cases executed
          exact .inr ⟨error, rfl, rfl⟩

theorem ConsoleStatement.unrecorded_of_exec {answer : op.Answer} (record : op.records = true)
    (executed : op.exec env db rest = .ok (answer, after)) :
    after.unrecorded = rest.unrecorded := by
  cases op with
  | insertCustomer id name email msisdn =>
      have stored := console_ok executed
      unfold Console.insertCustomer at stored
      split at stored <;> cases stored
      rfl
  | customerById | recentCustomers | settingsOf | setSetting | recentActivities =>
      cases executed
      rfl
  | _ => cases record

end Statements

def Unrecorded : Statement ⊕ ConsoleStatement → Prop :=
  Sum.elim (fun _ => True) fun op => op.records = false

def Recorded : Statement ⊕ ConsoleStatement → Prop :=
  Sum.elim (fun _ => False) fun op => op.records = true

section Veils

variable {faults : Bool}

theorem apply_alike (env : Env) {op : console.signature.Op} {left right : Store}
    (shown : Unrecorded op) (alike : left.Alike right) :
    (database.apply env op left).1 = (database.apply env op right).1 ∧
      (database.apply env op left).2.Alike (database.apply env op right).2 := by
  obtain ⟨db, leftRest⟩ := left
  obtain ⟨other, rightRest⟩ := right
  obtain ⟨rfl, unrecorded⟩ : db = other ∧ leftRest.unrecorded = rightRest.unrecorded := alike
  cases op with
  | inl op =>
      have applied : ∀ rest, database.apply env (.inl op) (db, rest) =
          ((sqlite.apply env op db).1, ((sqlite.apply env op db).2, rest)) :=
        fun rest => Machine.apply_annexed_inl env op (db, rest)
      rw [applied, applied]
      exact ⟨rfl, rfl, unrecorded⟩
  | inr op =>
      have entered : ∀ {rest result}, op.exec env db rest = result →
          database.exec env (.inr op) (db, rest) =
            result.map fun result => (result.1, (db, result.2)) := fun executed =>
        congrArg (Except.map _) executed
      rcases ConsoleStatement.exec_alike (show op.records = false from shown) unrecorded with
        ⟨answer, later, since, leftRun, rightRun, rests⟩ | ⟨error, leftRun, rightRun⟩
      · rw [Machine.apply_ok (entered leftRun), Machine.apply_ok (entered rightRun)]
        exact ⟨rfl, rfl, rests⟩
      · rw [Machine.apply_error (entered leftRun), Machine.apply_error (entered rightRun)]
        exact ⟨rfl, rfl, unrecorded⟩

theorem database_veils : database.Veils faults Store.Alike Unrecorded Recorded where
  sees := by
    intro op reply before after other shown replied alike
    cases replied with
    | commit env =>
        obtain ⟨same, agree⟩ := apply_alike env shown alike
        rw [same]
        exact ⟨_, .commit env, agree⟩
    | fault allowed => exact ⟨other, .fault allowed, alike⟩
  leaves := by
    intro op reply before after other record replied alike
    cases op with
    | inl op => exact record.elim
    | inr op =>
        obtain ⟨same, ⟨env, _, executed, _⟩ | ⟨_, _, kept⟩⟩ := Machine.replies_inr replied
        · exact ⟨same.trans alike.1,
            (ConsoleStatement.unrecorded_of_exec record executed).trans alike.2⟩
        · rw [Store.Alike, same, kept]
          exact alike

end Veils

/-! ## Requests -/

namespace Http

variable {installation : Installation} {incoming : Incoming}

theorem issues_program {allowed : Statement ⊕ ConsoleStatement → Prop}
    (guards : Issues allowed
      (guard installation incoming.headers incoming.now incoming.endpoint.tier))
    (handles : Issues allowed (handle installation incoming incoming.endpoint)) :
    ((Task.incoming incoming).program installation).Uses allowed fun _ => True := by
  refine Program.Uses.bind (?_ : (incoming.program installation).Uses allowed anyway) fun _ _ =>
    trivial
  exact Program.Uses.bind (issues_bind guards fun _ => handles) fun _ _ => trivial

theorem guard_recorded (records : incoming.endpoint.records = true) : Issues Recorded
    (guard installation incoming.headers incoming.now incoming.endpoint.tier) := by
  have admin : incoming.endpoint.tier = .admin := by
    cases asked : incoming.endpoint with
    | createCustomer | listCustomers | getCustomer | getSettings | putSetting | listActivities =>
        rfl
    | _ =>
        rw [asked] at records
        cases records
  rw [admin]
  exact issues_guard (fun _ merchant => by cases merchant) fun _ merchant => by cases merchant

theorem handle_unrecorded {endpoint : Endpoint} (other : endpoint.records = false) :
    Issues Unrecorded (handle installation incoming endpoint) := by
  cases endpoint with
  | health => exact issues_health rfl
  | login password => exact issues_login password
  | authStatus => trivial
  | exchangeToken token => exact issues_exchange rfl fun _ => rfl
  | smsWebhook raw => exact issues_smsWebhook fun _ _ => uses_anything _
  | checkoutPage payRef => exact issues_showPage rfl rfl
  | checkoutStatus payRef => exact issues_answering (Console.issues_getPublicCharge rfl rfl)
  | openLink ref =>
      exact issues_bind (issues_adapt (issues_engine (uses_anything _))) fun _ => trivial
  | checkoutSelect _ _ | checkoutClaim _ _ _ | openLinkAmount _ _ | apiCreateCheckout _
  | apiVerifyPayment _ | createCharge _ | getCharge _ | ledgerQuery _ | createInvoice _
  | issueInvoice _ | createLink _ => exact issues_answering (issues_engine (uses_anything _))
  | getInvoice id => exact issues_finding (issues_adapt (issues_engine (uses_anything _)))
  | registerGateway req =>
      exact issues_answering (Console.issues_registerGateway rfl fun _ => rfl)
  | createDomain domain =>
      exact issues_answering (Console.issues_createDomain trivial fun _ => rfl)
  | regexSuggestion gateway => exact issues_regexSuggestion rfl
  | fraudScan => exact issues_answering (Console.issues_scan fun _ => rfl)
  | reconChat question => exact issues_reconChat question (fun _ => uses_anything _) fun _ => rfl
  | pairDevice label => exact issues_answering (Console.issues_pairDevice rfl)
  | createMerchantKey req => exact issues_answering (Console.issues_createApiKey rfl)
  | revokeMerchantKey id => exact issues_revokeMerchantKey rfl
  | deleteDomain id => exact issues_deleteDomain trivial
  | createCustomer | listCustomers | getCustomer | getSettings | putSetting | listActivities =>
      cases other
  | _ =>
      refine issues_answering ?_
      exact issues_console rfl

theorem handle_recorded {endpoint : Endpoint} (records : endpoint.records = true) :
    Issues Recorded (handle installation incoming endpoint) := by
  cases endpoint with
  | createCustomer req =>
      exact issues_answering (Console.issues_createCustomer rfl fun _ => rfl)
  | getCustomer id =>
      refine issues_finding ?_
      exact issues_console rfl
  | listCustomers | getSettings _ | putSetting _ _ | listActivities =>
      refine issues_answering ?_
      exact issues_console rfl
  | _ => cases records

end Http

variable {installation : Installation}

theorem Task.shows {task : Task} (other : task.records = false) :
    (task.program installation).Uses Unrecorded fun _ => True := by
  cases task with
  | poll => exact (issues_engine (uses_anything _)).bind fun _ _ => trivial
  | incoming incoming =>
      exact Http.issues_program (Http.issues_guard (fun _ _ => rfl) fun _ _ _ => rfl)
        (Http.handle_unrecorded other)

theorem Task.hides {task : Task} (records : task.records = true) :
    (task.program installation).Uses Recorded fun _ => True := by
  cases task with
  | poll => cases records
  | incoming incoming =>
      exact Http.issues_program (Http.guard_recorded records) (Http.handle_recorded records)

/-- No record of the console decides anything outside it. Whatever run the surface makes,
the threads that keep no records can make it alone, from a store with any other customers,
settings and audit log, and beside any other requests for records: they say the same to the
database, hear the same of it and reply the same. -/
theorem records_decide_nothing {Thread : Type} [DecidableEq Thread] {installation : Installation}
    {store other : Store} {tasks otherTasks : Thread → Task} {faults : Bool}
    {past : List (Event console.signature Store Thread Outcome)}
    {config : Config console.signature Store Thread Outcome}
    (run : Run database faults (installation.surface store tasks) past config)
    (alike : store.Alike other)
    (same : ∀ thread, (tasks thread).records = false → otherTasks thread = tasks thread) :
    ∃ events final, Run database faults (installation.surface other otherTasks) events final ∧
      config.store.Alike final.store ∧
      (∀ thread, (tasks thread).records = false → final.threads thread = config.threads thread) ∧
      events.map Event.exchange =
        (past.filter fun event => !(tasks event.thread).records).map Event.exchange :=
  run.purged database_veils alike
    (fun thread shown => congrArg (Task.program installation) (same thread shown))
    (fun _ shown => Task.shows shown) fun _ hidden => Task.hides hidden

/-- An order, and a customer entered beside it. -/
def orderAndCustomer : Bool → Task
  | false => .incoming (sampleIncoming
      (.createCharge ⟨"order-1", 50000, "BDT", none, none, none⟩) sampleHeaders)
  | true => .incoming (sampleIncoming
      (.createCustomer ⟨some "Rahim", none, none⟩) sampleHeaders)

/-- The order alone, beside a setting. -/
theorem records_decide_nothing_sample : ∃ events final,
    Run database true (sampleInstallation.surface
      (Db.empty, { Console.empty with settings := Settings.set 0 "brand.name" "Shop" ∅ })
      orderAndCustomer) events final ∧
      events.length = 2 ∧ ∃ charge ∈ final.store.1.charges, charge.id = "chg_1" := by
  have run := Run.scheduled database true
    (sampleInstallation.surface (Db.empty, .empty) orderAndCustomer) sampleEnv
    [true, false, true, false]
  have ordered : ∃ charge ∈ ((sampleInstallation.surface (Db.empty, .empty)
      orderAndCustomer).schedule database sampleEnv [true, false, true, false]).store.1.charges,
        charge.id = "chg_1" := by
    decide +kernel
  obtain ⟨events, final, alone, alike, _, exchanges⟩ := records_decide_nothing run
    (⟨rfl, rfl⟩ : Store.Alike (Db.empty, .empty)
      (Db.empty, { Console.empty with settings := Settings.set 0 "brand.name" "Shop" ∅ }))
    fun _ _ => rfl
  refine ⟨events, final, alone, ?_, ?_⟩
  · rw [← List.length_map Event.exchange, exchanges, List.length_map]
    decide +kernel
  · rw [← alike.1]
    exact ordered

end SpritexPay
