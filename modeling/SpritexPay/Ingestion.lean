import SpritexPay.Resumption.Interruption
import SpritexPay.SmsProperties

/-! How far an ingested message gets. Under any plan for its statements a
message is not recorded, is recorded without a match, or settles a charge up to
some statement of the line. -/

set_option autoImplicit false

namespace SpritexPay

open Relational Resumption

namespace Db

def Records (before after : Db) (columns : NewSmsEvent) : Prop :=
  ∃ now smsEvents aiParseLog, before.smsEvents.insert? (columns.row now) = some smsEvents ∧
    after = { before with smsEvents, aiParseLog }

def Posts (before after : Db) (uuid : String) (charge : Charge) : Prop :=
  ∃ now ledgerTransactions,
    before.ledgerTransactions.insert?
      ⟨"ltx_" ++ uuid, charge.id, Charge.settlementMemo charge, now⟩ = some ledgerTransactions ∧
    after = { before with
      ledgerTransactions
      ledgerEntries := before.ledgerEntries ++
        (Charge.settlementEntries charge).map (·.row ("ltx_" ++ uuid) now) }

def Queues (before after : Db) (columns : NewWebhook) : Prop :=
  ∃ now webhookDeliveries,
    before.webhookDeliveries.insert? (columns.row now) = some webhookDeliveries ∧
    after = { before with webhookDeliveries }

end Db

theorem unfinished_of_failed {Failure Value : Type} {result : Option (Except Failure Value)}
    {failed : SqlError → Failure} {value : Value}
    (ends : ∀ outcome, result = some outcome → ∃ error, outcome = (Except.error ∘ failed) error) :
    result ≠ some (.ok value) := by
  rintro rfl
  obtain ⟨error, same⟩ := ends _ rfl
  cases same

namespace Charge

def notification (crates : Crates) (uuid : String) (charge : Charge) (url : String) :
    NewWebhook where
  id := "whd_" ++ uuid
  chargeId := charge.id
  url := url
  payload := paidPayload crates charge
  event := "charge.paid"

def settlementWrites (uuid : String) (charge : Charge) : List LedgerWrite :=
  Db.postingWrites ("ltx_" ++ uuid) charge.id (settlementMemo charge) (settlementEntries charge)

variable (crates : Crates) (uuids : SettlementUuids) (plan : Statement → Fate) (charge : Charge)
  (before : Db)

structure Posting (posted : Db) : Prop where
  found : plan (.chargeById charge.id) = .commit
  written : plan (.ledgerTransaction (settlementWrites uuids.ledger charge)) = .commit
  posts : before.Posts posted uuids.ledger charge

/-- How far settling a charge got, its result and the database it left. -/
inductive Settling : Option (Except ChargeError Unit) → Db → Prop where
  | unposted {result : Option (Except ChargeError Unit)} (unfinished : result ≠ some (.ok ()))
      (reason : plan (.chargeById charge.id) ≠ .commit ∨
        plan (.ledgerTransaction (settlementWrites uuids.ledger charge)) ≠ .commit ∨
        ∃ txn ∈ before.ledgerTransactions, txn.id = "ltx_" ++ uuids.ledger) :
      Settling result before
  | unpaid {result : Option (Except ChargeError Unit)} {posted : Db}
      (posting : Posting uuids plan charge before posted) (unfinished : result ≠ some (.ok ()))
      (reason : plan (.setChargePaid charge.id) ≠ .commit) : Settling result posted
  | uncollected {result : Option (Except ChargeError Unit)} {posted : Db} (paidAt : Timestamp)
      (posting : Posting uuids plan charge before posted)
      (paid : plan (.setChargePaid charge.id) = .commit) (unfinished : result ≠ some (.ok ()))
      (reason : plan (.settleInvoices charge.id) ≠ .commit) :
      Settling result (posted.setChargePaid paidAt charge.id)
  | unannounced {result : Option (Except ChargeError Unit)} {posted : Db}
      (paidAt collectedAt : Timestamp) {url : String}
      (posting : Posting uuids plan charge before posted)
      (paid : plan (.setChargePaid charge.id) = .commit)
      (collected : plan (.settleInvoices charge.id) = .commit)
      (callback : charge.callbackUrl = some url) (unfinished : result ≠ some (.ok ()))
      (reason : plan (.insertWebhook (notification crates uuids.webhook charge url)) ≠ .commit ∨
        ∃ delivery ∈ before.webhookDeliveries, delivery.id = "whd_" ++ uuids.webhook) :
      Settling result ((posted.setChargePaid paidAt charge.id).settleInvoices collectedAt charge.id)
  | silent {posted : Db} (paidAt collectedAt : Timestamp)
      (posting : Posting uuids plan charge before posted) (callback : charge.callbackUrl = none) :
      Settling (some (.ok ()))
        ((posted.setChargePaid paidAt charge.id).settleInvoices collectedAt charge.id)
  | announced {posted after : Db} (paidAt collectedAt : Timestamp) {url : String}
      (posting : Posting uuids plan charge before posted) (callback : charge.callbackUrl = some url)
      (queues : ((posted.setChargePaid paidAt charge.id).settleInvoices collectedAt
        charge.id).Queues after (notification crates uuids.webhook charge url)) :
      Settling (some (.ok ())) after

variable {crates uuids plan charge before}

theorem exec_settlementWrites {env : Env} {uuid : String} :
    sqlite.exec env (.ledgerTransaction (settlementWrites uuid charge)) before =
      match before.ledgerTransactions.insert?
        ⟨"ltx_" ++ uuid, charge.id, settlementMemo charge, env.now⟩ with
      | none => .error .uniqueViolation
      | some ledgerTransactions => .ok ((), { before with
          ledgerTransactions
          ledgerEntries := before.ledgerEntries ++
            (settlementEntries charge).map (·.row ("ltx_" ++ uuid) env.now) }) := by
  rw [exec_ledgerTransaction, settlementWrites, Db.post_eq]
  cases before.ledgerTransactions.insert?
    ⟨"ltx_" ++ uuid, charge.id, settlementMemo charge, env.now⟩ <;> rfl

theorem posts_of_exec {env : Env} {uuid : String} {answer : Unit} {after : Db}
    (executed : sqlite.exec env (.ledgerTransaction (settlementWrites uuid charge)) before =
      .ok (answer, after)) : before.Posts after uuid charge := by
  rw [exec_settlementWrites] at executed
  split at executed
  · cases executed
  · rename_i ledgerTransactions stored
    cases executed
    exact ⟨env.now, ledgerTransactions, stored, rfl⟩

theorem taken_of_refused {env : Env} {uuid : String} {error : SqlError}
    (refused : sqlite.exec env (.ledgerTransaction (settlementWrites uuid charge)) before =
      .error error) : ∃ txn ∈ before.ledgerTransactions, txn.id = "ltx_" ++ uuid := by
  rw [exec_settlementWrites] at refused
  split at refused
  · rename_i stored
    obtain ⟨txn, member, same⟩ := Table.insert?_eq_none_iff.mp stored
    exact ⟨txn, member, by simpa [key, clash] using same⟩
  · cases refused

theorem queues_of_exec {env : Env} {columns : NewWebhook} {answer : Unit} {after : Db}
    (executed : sqlite.exec env (.insertWebhook columns) before = .ok (answer, after)) :
    before.Queues after columns := by
  obtain ⟨webhookDeliveries, stored, _, same⟩ := Db.insertWebhook_ok (Statement.stored_ok executed)
  exact ⟨env.now, webhookDeliveries, stored, same⟩

theorem queued_of_refused {env : Env} {columns : NewWebhook} {error : SqlError}
    (known : before.hasCharge columns.chargeId = true)
    (refused : sqlite.exec env (.insertWebhook columns) before = .error error) :
    ∃ delivery ∈ before.webhookDeliveries, delivery.id = columns.id := by
  have rejected := Statement.stored_error refused
  unfold Db.insertWebhook at rejected
  split at rejected
  · rename_i stored
    obtain ⟨delivery, member, same⟩ := Table.insert?_eq_none_iff.mp stored
    have sameId : delivery.id = (columns.row env.now).id := by simpa [key, clash] using same
    exact ⟨delivery, member, sameId⟩
  · rw [if_pos known] at rejected
    cases rejected

theorem settling_of_settleFound {result : Option (Except ChargeError Unit)} {after : Db}
    (member : charge ∈ before.charges)
    (found : plan (.chargeById charge.id) = .commit)
    (runs : sqlite.RunsUnder plan (settleFound crates uuids charge.id charge) before result after) :
    Settling crates uuids plan charge before result after := by
  rcases Machine.runsUnder_issue runs with ⟨written, env, _, posted, executed, rest⟩ |
    ⟨rfl, ends, reason⟩
  swap
  · refine .unposted (unfinished_of_failed ends) (.inr ?_)
    rcases reason with planned | ⟨env, error, refused⟩
    · exact .inl planned
    · exact .inr (taken_of_refused refused)
  have posting : Posting uuids plan charge before posted := ⟨found, written, posts_of_exec executed⟩
  rcases Machine.runsUnder_issue rest with ⟨paid, paidEnv, _, middle, paying, rest⟩ |
    ⟨rfl, ends, reason⟩
  swap
  · rcases reason with planned | ⟨env, error, refused⟩
    · exact .unpaid posting (unfinished_of_failed ends) planned
    · cases refused
  cases paying
  rcases Machine.runsUnder_issue rest with ⟨collected, collectedEnv, _, middle, collecting, rest⟩ |
    ⟨rfl, ends, reason⟩
  swap
  · rcases reason with planned | ⟨env, error, refused⟩
    · exact .uncollected paidEnv.now posting paid (unfinished_of_failed ends) planned
    · cases refused
  cases collecting
  rw [run_notifyPaid] at rest
  cases callback : charge.callbackUrl with
  | none =>
      rw [callback] at rest
      obtain ⟨rfl, rfl⟩ := Machine.runsUnder_done rest
      exact .silent paidEnv.now collectedEnv.now posting callback
  | some url =>
      rw [callback] at rest
      rcases Machine.runsUnder_issue rest with ⟨queued, env, _, middle, executed, rest⟩ |
        ⟨rfl, ends, reason⟩
      · obtain ⟨rfl, rfl⟩ := Machine.runsUnder_done rest
        exact .announced paidEnv.now collectedEnv.now posting callback (queues_of_exec executed)
      · refine .unannounced paidEnv.now collectedEnv.now posting paid collected callback
          (unfinished_of_failed ends) ?_
        rcases reason with planned | ⟨env, error, refused⟩
        · exact .inl planned
        · obtain ⟨now, ledgerTransactions, stored, rfl⟩ := posting.posts
          refine .inr (queued_of_refused (Db.hasCharge_iff.mpr ?_) refused)
          exact ⟨_, Db.mem_setChargePaid.mpr ⟨charge, member, rfl⟩, by split <;> rfl⟩

theorem settling_of_markPaid {result : Option (Except ChargeError Unit)} {after : Db}
    (member : charge ∈ before.charges)
    (runs : sqlite.RunsUnder plan (markPaid crates uuids charge.id).run before result after) :
    Settling crates uuids plan charge before result after := by
  rw [run_markPaid] at runs
  rcases Machine.runsUnder_issue runs with ⟨found, env, answer, looked, executed, rest⟩ |
    ⟨rfl, ends, reason⟩
  · cases executed
    rw [Db.find_charge member] at rest
    exact settling_of_settleFound member found rest
  · refine .unposted (unfinished_of_failed ends) (.inl ?_)
    rcases reason with planned | ⟨env, error, refused⟩
    · exact planned
    · cases refused

end Charge

namespace Sms

variable (crates : Crates) (replies : List ProviderReply) (uuids : IngestUuids)
  (gw rawBody : String)

/-- The row a message is recorded as where it finds the database. -/
def recordedAs (db : Db) : Option NewSmsEvent :=
  (resolve gw).bind fun gateway =>
    (parsed crates replies gateway rawBody).toOption.map fun (transaction, source) =>
      newSmsEvent uuids (crates.sign "sms-audit" rawBody) transaction source
        (pick transaction.senderMsisdn (db.pendingByAmount transaction.amountMinor))

def answered (gateway : Gateway) (reply : ProviderReply) :
    Except Panic (Option ParsedTxn) :=
  reply.content.elim (.ok none) (parseExtraction crates gateway)

def attempt (gateway : Gateway) (rawSha256 : String) (reply : ProviderReply)
    (outcome : Option ParsedTxn) : NewAiParse where
  gateway := gateway
  rawSha256 := rawSha256
  rawBody := rawBody
  provider := reply.provider
  success := outcome.isSome
  txnId := outcome.map (·.txnId)
  amountMinor := outcome.map (·.amountMinor)
  senderMsisdn := outcome.bind (·.senderMsisdn)

def attempts (gateway : Gateway) (rawSha256 : String) : List ProviderReply → List NewAiParse
  | [] => []
  | reply :: rest =>
      match answered crates gateway reply with
      | .error _ => []
      | .ok (some transaction) => [attempt rawBody gateway rawSha256 reply (some transaction)]
      | .ok none =>
          attempt rawBody gateway rawSha256 reply none :: attempts gateway rawSha256 rest

/-- The attempts at a message that the regular expressions do not fit. -/
def fallbackAttempts : List NewAiParse :=
  match resolve gw with
  | none => []
  | some gateway =>
      match gateway.parseSms crates rawBody with
      | .ok _ => []
      | .error _ => attempts crates rawBody gateway (crates.sign "sms-audit" rawBody) replies

variable (plan : Statement → Fate) (before : Db)

/-- Why a message is not recorded. -/
def Unrecorded : Prop :=
  recordedAs crates replies uuids gw rawBody before = none ∨
  (∃ columns ∈ fallbackAttempts crates replies gw rawBody, plan (.insertAiParse columns) = .stop) ∨
  ∃ columns, recordedAs crates replies uuids gw rawBody before = some columns ∧
    (plan (.pendingByAmount columns.amountMinor) ≠ .commit ∨
      plan (.insertSmsEvent columns) ≠ .commit ∨ ¬before.recordable columns)

/-- How far an ingested message got, its result and the database it left. -/
inductive Ingesting : Option (Except IngestError Ingested) → Db → Prop where
  | unrecorded {result : Option (Except IngestError Ingested)} {after : Db}
      (same : before.SameMoney after) (unfinished : ∀ value, result ≠ some (.ok value))
      (reason : Unrecorded crates replies uuids gw rawBody plan before) : Ingesting result after
  | unmatched {columns : NewSmsEvent} {after : Db}
      (row : recordedAs crates replies uuids gw rawBody before = some columns)
      (reached : ¬Unrecorded crates replies uuids gw rawBody plan before)
      (records : before.Records after columns) (alone : columns.chargeId = none) :
      Ingesting (some (.ok ⟨columns.id, columns.txnId, none⟩)) after
  | matched {columns : NewSmsEvent} {charge : Charge} {recorded after : Db}
      {result : Option (Except ChargeError Unit)}
      (row : recordedAs crates replies uuids gw rawBody before = some columns)
      (reached : ¬Unrecorded crates replies uuids gw rawBody plan before)
      (records : before.Records recorded columns) (reference : columns.chargeId = some charge.id)
      (member : charge ∈ before.charges) (pending : charge.status = .pending)
      (amount : charge.amountMinor = columns.amountMinor)
      (settling : Charge.Settling crates uuids.settlement plan charge recorded result after) :
      Ingesting (result.map fun outcome => (outcome.mapError IngestError.charge).map fun _ =>
        ⟨columns.id, columns.txnId, some charge.id⟩) after

variable {crates replies uuids gw rawBody plan before}

theorem run_extract_cons (gateway : Gateway) (rawSha256 : String) (reply : ProviderReply)
    (rest : List ProviderReply) :
    (extract crates gateway rawBody rawSha256 (reply :: rest)).run =
      match answered crates gateway reply with
      | .error panic => .done (.error panic)
      | .ok outcome =>
          .stmt (.insertAiParse (attempt rawBody gateway rawSha256 reply outcome)) fun _ =>
            outcome.elim (extract crates gateway rawBody rawSha256 rest).run
              fun transaction => .done (.ok (some transaction)) := by
  simp only [extract, answered]
  cases reply.content with
  | none => rfl
  | some content =>
      simp only [Option.elim]
      cases parseExtraction crates gateway content with
      | error panic => rfl
      | ok outcome => cases outcome <;> rfl

theorem extracted_cons (gateway : Gateway) (reply : ProviderReply) (rest : List ProviderReply) :
    extracted crates gateway (reply :: rest) =
      match answered crates gateway reply with
      | .error panic => .error panic
      | .ok (some transaction) => .ok (some transaction)
      | .ok none => extracted crates gateway rest := by
  simp only [extracted, answered]
  cases reply.content <;> rfl

/-- An attempt is logged, or its logging fails and is ignored, or it stops there. -/
theorem log_under {Value : Type} {columns : NewAiParse} {rest : Program signature Value}
    {result : Option Value} {after : Db}
    (runs : sqlite.RunsUnder plan (.stmt (.insertAiParse columns) fun _ => rest) before result
      after) :
    (plan (.insertAiParse columns) = .stop ∧ result = none ∧ after = before) ∨
      plan (.insertAiParse columns) ≠ .stop ∧ ∃ aiParseLog,
        sqlite.RunsUnder plan rest { before with aiParseLog } result after := by
  cases runs with
  | commit planned env rest => exact .inr ⟨by simp [planned], _, rest⟩
  | fail planned rest => exact .inr ⟨by simp [planned], _, rest⟩
  | stop planned => exact .inl ⟨planned, rfl, rfl⟩

/-- The fallback writes nothing but its log, and only stops where the plan says. -/
theorem extract_under {gateway : Gateway} {rawSha256 : String}
    {result : Option (Except Panic (Option ParsedTxn))} {after : Db}
    (runs : sqlite.RunsUnder plan (extract crates gateway rawBody rawSha256 replies).run before
      result after) :
    (∃ aiParseLog, after = { before with aiParseLog }) ∧
      (result = none ∧ (∃ columns ∈ attempts crates rawBody gateway rawSha256 replies,
          plan (.insertAiParse columns) = .stop) ∨
        result = some (extracted crates gateway replies) ∧
          ∀ columns ∈ attempts crates rawBody gateway rawSha256 replies,
            plan (.insertAiParse columns) ≠ .stop) := by
  induction replies generalizing before with
  | nil =>
      obtain ⟨rfl, rfl⟩ := Machine.runsUnder_done runs
      exact ⟨⟨_, rfl⟩, .inr ⟨rfl, by simp [attempts]⟩⟩
  | cons reply rest ih =>
      rw [run_extract_cons] at runs
      rw [extracted_cons]
      simp only [attempts]
      cases outcome : answered crates gateway reply with
      | error panic =>
          rw [outcome] at runs
          obtain ⟨rfl, rfl⟩ := Machine.runsUnder_done runs
          exact ⟨⟨_, rfl⟩, .inr ⟨rfl, by simp⟩⟩
      | ok transaction =>
          rw [outcome] at runs
          rcases log_under runs with ⟨stops, rfl, rfl⟩ | ⟨goesOn, aiParseLog, later⟩
          · refine ⟨⟨_, rfl⟩, .inl ⟨rfl, _, ?_, stops⟩⟩
            cases transaction <;> simp
          · cases transaction with
            | some transaction =>
                obtain ⟨rfl, rfl⟩ := Machine.runsUnder_done later
                exact ⟨⟨_, rfl⟩, .inr ⟨rfl, by simpa using goesOn⟩⟩
            | none =>
                obtain ⟨⟨finalLog, rfl⟩, ended⟩ := ih later
                refine ⟨⟨finalLog, rfl⟩, ?_⟩
                rcases ended with ⟨rfl, columns, member, stops⟩ | ⟨rfl, passes⟩
                · exact .inl ⟨rfl, columns, List.mem_cons_of_mem _ member, stops⟩
                · exact .inr ⟨rfl, by simpa using ⟨goesOn, passes⟩⟩

def fallbackResult (regexError : ParseError) :
    Except Panic (Option ParsedTxn) → Except IngestError (ParsedTxn × ParseSource)
  | .error _ => .error .panicked
  | .ok (some transaction) => .ok (transaction, .ai)
  | .ok none => .error (.parse regexError)

theorem run_parse (gateway : Gateway) (rawSha256 : String) :
    (parse crates replies gateway rawBody rawSha256).run =
      match gateway.parseSms crates rawBody with
      | .ok transaction => .done (.ok (transaction, .regex))
      | .error regexError =>
          (extract crates gateway rawBody rawSha256 replies).run >>= fun extraction =>
            .done (fallbackResult regexError extraction) := by
  unfold parse
  cases gateway.parseSms crates rawBody with
  | ok transaction => rfl
  | error regexError =>
      refine (Program.bind_assoc _ _ _).trans (Program.bind_congr fun extraction => ?_)
      rcases extraction with panic | extraction
      · rfl
      · cases extraction <;> rfl

/-- Parsing comes to what the request decides, unless it is stopped. -/
theorem parse_under {gateway : Gateway} (resolved : resolve gw = some gateway)
    {result : Option (Except IngestError (ParsedTxn × ParseSource))} {after : Db}
    (runs : sqlite.RunsUnder plan
      (parse crates replies gateway rawBody (crates.sign "sms-audit" rawBody)).run before result
      after) :
    (∃ aiParseLog, after = { before with aiParseLog }) ∧
      (result = none ∧ (∃ columns ∈ fallbackAttempts crates replies gw rawBody,
          plan (.insertAiParse columns) = .stop) ∨
        result = some (parsed crates replies gateway rawBody) ∧
          ∀ columns ∈ fallbackAttempts crates replies gw rawBody,
            plan (.insertAiParse columns) ≠ .stop) := by
  rw [run_parse] at runs
  simp only [fallbackAttempts, resolved]
  unfold parsed
  cases outcome : gateway.parseSms crates rawBody with
  | ok transaction =>
      rw [outcome] at runs
      obtain ⟨rfl, rfl⟩ := Machine.runsUnder_done runs
      exact ⟨⟨_, rfl⟩, .inr ⟨rfl, by simp⟩⟩
  | error regexError =>
      rw [outcome] at runs
      rcases Machine.runsUnder_bind runs with ⟨extraction, middle, first, finish⟩ | ⟨first, rfl⟩
      · obtain ⟨logged, ⟨none, _⟩ | ⟨same, passes⟩⟩ := extract_under first
        · cases none
        · obtain ⟨rfl, rfl⟩ := Machine.runsUnder_done finish
          cases same
          refine ⟨logged, .inr ⟨?_, passes⟩⟩
          cases extracted crates gateway replies with
          | error panic => rfl
          | ok found => cases found <;> rfl
      · obtain ⟨logged, ⟨_, stops⟩ | ⟨none, _⟩⟩ := extract_under first
        · exact ⟨logged, .inl ⟨rfl, stops⟩⟩
        · cases none

theorem recordedAs_id {columns : NewSmsEvent}
    (row : recordedAs crates replies uuids gw rawBody before = some columns) :
    columns.id = "sms_" ++ uuids.event := by
  obtain ⟨gateway, _, parsing⟩ := Option.bind_eq_some_iff.mp row
  obtain ⟨_, _, rfl⟩ := Option.map_eq_some_iff.mp parsing
  rfl

theorem recordedAs_matched {columns : NewSmsEvent}
    (row : recordedAs crates replies uuids gw rawBody before = some columns) :
    columns.matched = columns.chargeId.isSome := by
  obtain ⟨gateway, _, parsing⟩ := Option.bind_eq_some_iff.mp row
  obtain ⟨_, _, rfl⟩ := Option.map_eq_some_iff.mp parsing
  rfl

theorem recordedAs_charge {columns : NewSmsEvent} {chargeId : String}
    (row : recordedAs crates replies uuids gw rawBody before = some columns)
    (reference : columns.chargeId = some chargeId) : ∃ charge ∈ before.charges,
      charge.id = chargeId ∧ charge.status = .pending ∧
        charge.amountMinor = columns.amountMinor := by
  obtain ⟨gateway, _, parsing⟩ := Option.bind_eq_some_iff.mp row
  obtain ⟨_, _, rfl⟩ := Option.map_eq_some_iff.mp parsing
  obtain ⟨_, member, rfl⟩ := mem_of_pick reference
  obtain ⟨charge, chargeMember, amount, pending, rfl⟩ := Db.mem_pendingByAmount.mp member
  exact ⟨charge, chargeMember, rfl, pending, amount⟩

theorem ingesting_of_recording {columns : NewSmsEvent} {aiParseLog : List AiParse}
    {result : Option (Except IngestError Ingested)} {after : Db}
    (row : recordedAs crates replies uuids gw rawBody before = some columns)
    (passes : ∀ columns ∈ fallbackAttempts crates replies gw rawBody,
      plan (.insertAiParse columns) ≠ .stop)
    (looked : plan (.pendingByAmount columns.amountMinor) = .commit)
    (runs : sqlite.RunsUnder plan
      (.issue (.insertSmsEvent columns) (.error ∘ refusal) fun _ =>
        conclude crates uuids columns.txnId columns.chargeId)
      { before with aiParseLog } result after) :
    Ingesting crates replies uuids gw rawBody plan before result after := by
  rcases Machine.runsUnder_issue runs with ⟨inserted, env, _, recorded, executed, rest⟩ |
    ⟨rfl, ends, reason⟩
  swap
  · refine .unrecorded ⟨rfl, rfl, rfl, rfl, rfl, rfl⟩ (fun _ => unfinished_of_failed ends) ?_
    refine .inr (.inr ⟨columns, row, .inr ?_⟩)
    rcases reason with planned | ⟨env, error, refused⟩
    · exact .inl planned
    · have rejected := Db.not_recordable_of_refused (Statement.stored_error refused)
      exact .inr rejected
  obtain ⟨smsEvents, stored, known, rfl⟩ := Db.insertSmsEvent_ok (Statement.stored_ok executed)
  have records : before.Records { before with smsEvents, aiParseLog } columns :=
    ⟨env.now, smsEvents, aiParseLog, stored, rfl⟩
  have reached : ¬Unrecorded crates replies uuids gw rawBody plan before := by
    rintro (nothing | ⟨other, member, stops⟩ | ⟨other, same, reasons⟩)
    · rw [row] at nothing
      cases nothing
    · exact passes other member stops
    · cases Option.some.inj (row.symm.trans same)
      rcases reasons with lookup | insertion | refused
      · exact lookup looked
      · exact insertion inserted
      · exact refused (Db.recordable_of_stored stored known)
  have named := recordedAs_id row
  cases picked : columns.chargeId with
  | none =>
      rw [picked] at rest
      obtain ⟨rfl, rfl⟩ := Machine.runsUnder_done rest
      rw [← named]
      exact .unmatched row reached records picked
  | some chargeId =>
      rw [picked] at rest
      obtain ⟨charge, member, rfl, pending, amount⟩ := recordedAs_charge row picked
      rcases Machine.runsUnder_bind rest with ⟨outcome, middle, settling, finish⟩ |
        ⟨settling, rfl⟩
      · obtain ⟨rfl, rfl⟩ := Machine.runsUnder_done finish
        rw [← named]
        exact .matched row reached records picked member pending amount
          (Charge.settling_of_markPaid member settling)
      · exact .matched row reached records picked member pending amount
          (Charge.settling_of_markPaid member settling)

theorem ingesting_of_record {gateway : Gateway} {transaction : ParsedTxn} {source : ParseSource}
    {aiParseLog : List AiParse} {result : Option (Except IngestError Ingested)} {after : Db}
    (resolved : resolve gw = some gateway)
    (outcome : parsed crates replies gateway rawBody = .ok (transaction, source))
    (passes : ∀ columns ∈ fallbackAttempts crates replies gw rawBody,
      plan (.insertAiParse columns) ≠ .stop)
    (runs : sqlite.RunsUnder plan
      (record crates uuids (crates.sign "sms-audit" rawBody) transaction source).run
      { before with aiParseLog } result after) :
    Ingesting crates replies uuids gw rawBody plan before result after := by
  have row : recordedAs crates replies uuids gw rawBody before =
      some (newSmsEvent uuids (crates.sign "sms-audit" rawBody) transaction source
        (pick transaction.senderMsisdn (before.pendingByAmount transaction.amountMinor))) := by
    simp [recordedAs, resolved, outcome, Except.toOption]
  rw [run_record] at runs
  rcases Machine.runsUnder_issue runs with ⟨looked, env, candidates, _, executed, rest⟩ |
    ⟨rfl, ends, reason⟩
  · cases executed
    exact ingesting_of_recording row passes looked rest
  · refine .unrecorded ⟨rfl, rfl, rfl, rfl, rfl, rfl⟩ (fun _ => unfinished_of_failed ends) ?_
    rcases reason with planned | ⟨env, error, refused⟩
    · exact .inr (.inr ⟨_, row, .inl planned⟩)
    · cases refused

theorem ingesting_of_ingest {result : Option (Except IngestError Ingested)} {after : Db}
    (runs : sqlite.RunsUnder plan (ingest crates replies uuids gw rawBody).run before result
      after) : Ingesting crates replies uuids gw rawBody plan before result after := by
  rw [run_ingest] at runs
  cases resolved : resolve gw with
  | none =>
      rw [resolved] at runs
      obtain ⟨rfl, rfl⟩ := Machine.runsUnder_done runs
      exact .unrecorded (.refl _) (by simp) (.inl (by simp [recordedAs, resolved]))
  | some gateway =>
      rw [resolved] at runs
      rcases Machine.runsUnder_bind runs with ⟨outcome, middle, first, finish⟩ | ⟨first, rfl⟩
      · obtain ⟨⟨aiParseLog, rfl⟩, ⟨none, _⟩ | ⟨same, passes⟩⟩ := parse_under resolved first
        · cases none
        · cases same
          cases outcome : parsed crates replies gateway rawBody with
          | error error =>
              rw [outcome] at finish
              obtain ⟨rfl, rfl⟩ := Machine.runsUnder_done finish
              refine .unrecorded ⟨rfl, rfl, rfl, rfl, rfl, rfl⟩ (by simp) (.inl ?_)
              simp [recordedAs, resolved, outcome, Except.toOption]
          | ok result =>
              rw [outcome] at finish
              exact ingesting_of_record resolved outcome passes finish
      · obtain ⟨⟨aiParseLog, rfl⟩, ⟨_, stops⟩ | ⟨none, _⟩⟩ := parse_under resolved first
        · exact .unrecorded ⟨rfl, rfl, rfl, rfl, rfl, rfl⟩ (by simp) (.inr (.inl stops))
        · cases none

end Sms

end SpritexPay
