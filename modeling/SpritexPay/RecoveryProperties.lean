import SpritexPay.Api
import SpritexPay.Ingestion

/-! Messages that are interrupted. The unique index that refuses a replay also
refuses the retry of a message that was recorded and then failed, so whatever
the settlement had not written by then stays unwritten. -/

set_option autoImplicit false

namespace SpritexPay

open Relational Resumption

namespace Db

/-- Everything that settling a charge writes is there, once. -/
structure Complete (db : Db) (charge : Charge) : Prop where
  paid : db.isPaid charge.id
  posted : db.postings charge.id = 1
  collected : ∀ invoice ∈ db.invoices, collects charge.id invoice = false
  announced : db.notifications charge.id = if charge.callbackUrl.isSome then 1 else 0

variable {before after : Db} {charge : Charge}

theorem Complete.same (same : before.SameMoney after) (complete : before.Complete charge) :
    after.Complete charge := by
  refine ⟨?_, ?_, ?_, ?_⟩
  · simpa only [isPaid, same.charges] using complete.paid
  · simpa only [postings, same.ledgerTransactions] using complete.posted
  · simpa only [same.invoices] using complete.collected
  · simpa only [notifications, same.webhookDeliveries] using complete.announced

theorem SameMoney.symm (same : before.SameMoney after) : after.SameMoney before where
  smsEvents := same.smsEvents.symm
  charges := same.charges.symm
  ledgerTransactions := same.ledgerTransactions.symm
  ledgerEntries := same.ledgerEntries.symm
  invoices := same.invoices.symm
  webhookDeliveries := same.webhookDeliveries.symm

theorem Posts.postings {uuid : String} (posts : before.Posts after uuid charge) :
    after.postings charge.id = before.postings charge.id + 1 := by
  obtain ⟨now, ledgerTransactions, stored, rfl⟩ := posts
  simpa using postings_post stored _ charge.id

theorem Posts.unused {uuid : String} (posts : before.Posts after uuid charge) :
    ∀ txn ∈ before.ledgerTransactions, txn.id ≠ "ltx_" ++ uuid := by
  obtain ⟨now, ledgerTransactions, stored, rfl⟩ := posts
  intro txn member
  simpa [key, clash] using (Table.insert?_eq_some_iff.mp stored).2 txn member

theorem Posts.isPaid {uuid : String} (posts : before.Posts after uuid charge)
    (member : charge ∈ before.charges) (now : Timestamp) :
    (after.setChargePaid now charge.id).isPaid charge.id := by
  obtain ⟨_, ledgerTransactions, stored, rfl⟩ := posts
  exact isPaid_setChargePaid.mpr (.inr ⟨rfl, charge, member, rfl⟩)

theorem settleInvoices_collected (now : Timestamp) (chargeId : String) :
    ∀ invoice ∈ (before.settleInvoices now chargeId).invoices,
      collects chargeId invoice = false := by
  intro invoice member
  obtain ⟨old, _, rfl⟩ := mem_settleInvoices.mp member
  by_cases chosen : collects chargeId old = true
  · rw [if_pos chosen]
    simp [collects]
  · rw [if_neg chosen]
    simpa using chosen

end Db

namespace Charge

variable (crates : Crates) (uuids : SettlementUuids) (plan : Statement → Fate) (charge : Charge)
  (db : Db)

/-- An interrupted settlement gets far enough: the status is flipped, nothing
was posted before, and whatever comes after the flip is done or not needed. -/
structure GetsThrough : Prop where
  found : plan (.chargeById charge.id) = .commit
  written : plan (.ledgerTransaction (settlementWrites uuids.ledger charge)) = .commit
  unused : ∀ txn ∈ db.ledgerTransactions, txn.id ≠ "ltx_" ++ uuids.ledger
  paid : plan (.setChargePaid charge.id) = .commit
  unposted : db.postings charge.id = 0
  collected : plan (.settleInvoices charge.id) = .commit ∨
    ∀ invoice ∈ db.invoices, Db.collects charge.id invoice = false
  announced : db.notifications charge.id = if charge.callbackUrl.isSome then 1 else 0

variable {crates uuids plan charge db}

theorem Settling.complete_iff {result : Option (Except ChargeError Unit)} {after : Db}
    (settling : Settling crates uuids plan charge db result after)
    (unfinished : result ≠ some (.ok ())) (member : charge ∈ db.charges)
    (pending : charge.status = .pending) :
    after.Complete charge ↔ GetsThrough uuids plan charge db := by
  cases settling with
  | unposted _ reason =>
      constructor
      · intro complete
        exact absurd complete.paid (Db.not_paid_of_pending member pending)
      · intro through
        rcases reason with found | written | ⟨txn, txnMember, taken⟩
        · exact absurd through.found found
        · exact absurd through.written written
        · exact absurd taken (through.unused txn txnMember)
  | unpaid posting _ reason =>
      constructor
      · intro complete
        obtain ⟨now, ledgerTransactions, stored, rfl⟩ := posting.posts
        exact absurd complete.paid (Db.not_paid_of_pending member pending)
      · intro through
        exact absurd through.paid reason
  | uncollected paidAt posting paid _ reason =>
      have counted := posting.posts.postings
      have isPaid := posting.posts.isPaid member paidAt
      have unused := posting.posts.unused
      have ⟨found, written, posts⟩ := posting
      obtain ⟨now, ledgerTransactions, stored, rfl⟩ := posts
      constructor
      · intro complete
        refine ⟨found, written, unused, paid, ?_, .inr complete.collected, complete.announced⟩
        exact Nat.succ.inj (counted.symm.trans complete.posted)
      · intro through
        refine ⟨isPaid, counted.trans (by rw [through.unposted]), ?_, through.announced⟩
        rcases through.collected with collected | none
        · exact absurd collected reason
        · exact none
  | unannounced paidAt collectedAt posting paid collected callback _ reason =>
      have counted := posting.posts.postings
      have isPaid := posting.posts.isPaid member paidAt
      have unused := posting.posts.unused
      have ⟨found, written, posts⟩ := posting
      obtain ⟨now, ledgerTransactions, stored, rfl⟩ := posts
      constructor
      · intro complete
        refine ⟨found, written, unused, paid, ?_, .inl collected, complete.announced⟩
        exact Nat.succ.inj (counted.symm.trans complete.posted)
      · intro through
        refine ⟨isPaid, counted.trans (by rw [through.unposted]), ?_, through.announced⟩
        exact Db.settleInvoices_collected collectedAt charge.id
  | silent => exact absurd rfl unfinished
  | announced => exact absurd rfl unfinished

theorem Settling.smsEvents {result : Option (Except ChargeError Unit)} {after : Db}
    (settling : Settling crates uuids plan charge db result after) :
    after.smsEvents = db.smsEvents := by
  cases settling with
  | unposted => rfl
  | unpaid posting | uncollected _ posting | unannounced _ _ posting | silent _ _ posting =>
      obtain ⟨_, _, _, rfl⟩ := posting.posts
      rfl
  | announced _ _ posting _ queues =>
      obtain ⟨_, _, _, rfl⟩ := queues
      obtain ⟨_, _, _, rfl⟩ := posting.posts
      rfl

end Charge

namespace Sms

variable (crates : Crates) (replies : List ProviderReply) (uuids : IngestUuids)
  (gw rawBody : String)

def matchedCharge (db : Db) : Option String :=
  (recordedAs crates replies uuids gw rawBody db).bind (·.chargeId)

/-- What is asked of a message that did not succeed: it changed no money, or its
retry completes the settlement of the charge it was matched to. -/
def Recovers (retried : List ProviderReply) (retry : IngestUuids) (db interrupted : Db) : Prop :=
  db.SameMoney interrupted ∨ ∀ outcome after,
    sqlite.Runs (ingest crates retried retry gw rawBody).run interrupted outcome after →
      ∃ charge ∈ db.charges, matchedCharge crates replies uuids gw rawBody db = some charge.id ∧
        after.Complete charge

/-- The interruption does no harm: it comes before the message is recorded, or
late enough in the settlement. -/
def Harmless (plan : Statement → Fate) (db : Db) : Prop :=
  Unrecorded crates replies uuids gw rawBody plan db ∨
  ∃ charge ∈ db.charges, matchedCharge crates replies uuids gw rawBody db = some charge.id ∧
    Charge.GetsThrough uuids.settlement plan charge db

variable {crates replies uuids gw rawBody}

theorem recordedAs_transaction {db : Db} {columns : NewSmsEvent}
    (row : recordedAs crates replies uuids gw rawBody db = some columns) :
    (transaction crates replies gw rawBody).map (fun parsed => (parsed.gateway, parsed.txnId)) =
      some (columns.gateway, columns.txnId) := by
  obtain ⟨gateway, resolved, parsing⟩ := Option.bind_eq_some_iff.mp row
  obtain ⟨⟨parsed, source⟩, accepted, rfl⟩ := Option.map_eq_some_iff.mp parsing
  simp [transaction, resolved, accepted, newSmsEvent]

/-- A transaction that is on record is refused, and nothing is done for it. -/
theorem sameMoney_of_recorded {db after : Db} {outcome : Except IngestError Ingested}
    {gateway : Gateway} {txnId : String}
    (recorded : ∃ row ∈ db.smsEvents, row.gateway = gateway ∧ row.txnId = txnId)
    (carried : (transaction crates replies gw rawBody).map
      (fun parsed => (parsed.gateway, parsed.txnId)) = some (gateway, txnId))
    (runs : sqlite.Runs (ingest crates replies uuids gw rawBody).run db outcome after) :
    db.SameMoney after := by
  have unrecordable : ∀ other, recordedAs crates replies uuids gw rawBody db = some other →
      ∀ stored, ¬db.Records stored other := by
    rintro other row stored ⟨now, smsEvents, aiParseLog, inserted, _⟩
    obtain ⟨event, member, sameGateway, sameTxnId⟩ := recorded
    have same := Option.some.inj ((recordedAs_transaction row).symm.trans carried)
    rw [Prod.mk.injEq] at same
    have apart := (Table.insert?_eq_some_iff.mp inserted).2 event member
    simp [key, clash, NewSmsEvent.row, sameGateway, sameTxnId, same] at apart
  have ingesting := ingesting_of_ingest runs.undisturbed
  generalize ended : some outcome = result at ingesting
  cases ingesting with
  | unrecorded same => exact same
  | unmatched row _ records => exact absurd records (unrecordable _ row _)
  | matched row _ records => exact absurd records (unrecordable _ row _)

/-- A message that did not succeed leaves no trace, or its retry completes what
it began, exactly when its interruption was harmless. -/
theorem recovers_iff_harmless {plan : Statement → Fate} {retried : List ProviderReply}
    {retry : IngestUuids} {db interrupted : Db} {result : Option (Except IngestError Ingested)}
    (alike : transaction crates retried gw rawBody = transaction crates replies gw rawBody)
    (runs : sqlite.RunsUnder plan (ingest crates replies uuids gw rawBody).run db result
      interrupted)
    (failed : ∀ value, result ≠ some (.ok value)) :
    Recovers crates replies uuids gw rawBody retried retry db interrupted ↔
      Harmless crates replies uuids gw rawBody plan db := by
  have ingesting := ingesting_of_ingest runs
  cases ingesting with
  | unrecorded same _ reason => exact ⟨fun _ => .inl reason, fun _ => .inl same⟩
  | unmatched => exact absurd rfl (failed _)
  | @matched columns charge recorded _ outcome row reached records reference member pending _
      settling =>
      have unfinished : outcome ≠ some (.ok ()) := by
        rintro rfl
        exact failed _ rfl
      have isMatched : matchedCharge crates replies uuids gw rawBody db = some charge.id := by
        rw [matchedCharge, row]
        exact reference
      have kept := settling.smsEvents
      obtain ⟨now, smsEvents, aiParseLog, stored, rfl⟩ := records
      have through : interrupted.Complete charge ↔
          Charge.GetsThrough uuids.settlement plan charge db :=
        (settling.complete_iff unfinished member pending).trans
          ⟨fun gets => { gets with }, fun gets => { gets with }⟩
      have refused : ∀ {outcome after}, sqlite.Runs
          (ingest crates retried retry gw rawBody).run interrupted outcome after →
          interrupted.SameMoney after := by
        intro outcome after runs
        have onRecord : ∃ row ∈ interrupted.smsEvents,
            row.gateway = columns.gateway ∧ row.txnId = columns.txnId := by
          rw [kept]
          exact ⟨columns.row now, (Table.mem_insert? stored).mpr (.inr rfl), rfl, rfl⟩
        refine sameMoney_of_recorded onRecord ?_ runs
        rw [alike]
        exact recordedAs_transaction row
      constructor
      · intro recovers
        refine .inr ⟨charge, member, isMatched, through.mp ?_⟩
        rcases recovers with same | completes
        · have rows := Table.rows_insert? stored
          rw [← show smsEvents = db.smsEvents from kept.symm.trans same.smsEvents] at rows
          simp at rows
        · have run := sqlite.runs_run (ingest crates retried retry gw rawBody).run
            (fun _ => ⟨0, .status 0⟩) interrupted
          obtain ⟨other, otherMember, otherMatched, complete⟩ := completes _ _ run
          have same : charge.id = other.id := Option.some.inj (isMatched.symm.trans otherMatched)
          rw [Db.eq_of_charge_id member otherMember same]
          exact complete.same (refused run).symm
      · rintro (unrecorded | ⟨other, otherMember, otherMatched, gets⟩)
        · exact absurd unrecorded reached
        · have same : charge.id = other.id := Option.some.inj (isMatched.symm.trans otherMatched)
          rw [← Db.eq_of_charge_id member otherMember same] at gets
          exact .inr fun outcome after runs =>
            ⟨charge, member, isMatched, (through.mpr gets).same (refused runs)⟩

def ledgerDown : Statement → Fate
  | .ledgerTransaction _ => .fail
  | _ => .commit

def interruptedPayment : Option (Except IngestError Ingested) × Db :=
  sqlite.runUnder ledgerDown sampleEnv
    (ingest sampleCrates [] (sampleUuids "a") "bkash" (sampleMessage "TRXA")).run orderedCharge

theorem interruptedPayment_runs : sqlite.RunsUnder ledgerDown
    (ingest sampleCrates [] (sampleUuids "a") "bkash" (sampleMessage "TRXA")).run orderedCharge
    interruptedPayment.1 interruptedPayment.2 :=
  Machine.runsUnder_runUnder _ _ _ _ _

theorem interruptedPayment_failed : ∀ value, interruptedPayment.1 ≠ some (.ok value) := by
  have failed : interruptedPayment.1 = some (.error (.charge (.db .unavailable))) := by
    decide +kernel
  simp [failed]

def collectionDown : Statement → Fate
  | .settleInvoices _ => .fail
  | _ => .commit

def uncollectedPayment : Option (Except IngestError Ingested) × Db :=
  sqlite.runUnder collectionDown sampleEnv
    (ingest sampleCrates [] (sampleUuids "a") "bkash" (sampleMessage "TRXA")).run orderedCharge

/-- Late enough, and the charge collects no invoice. -/
theorem recovers_iff_harmless_sample :
    Recovers sampleCrates [] (sampleUuids "a") "bkash" (sampleMessage "TRXA") [] (sampleUuids "b")
      orderedCharge uncollectedPayment.2 := by
  have failed : uncollectedPayment.1 = some (.error (.charge (.db .unavailable))) := by
    decide +kernel
  obtain ⟨charge, member, isMatched, callback, unposted, unannounced⟩ :
      ∃ charge ∈ orderedCharge.charges,
        matchedCharge sampleCrates [] (sampleUuids "a") "bkash" (sampleMessage "TRXA")
          orderedCharge = some charge.id ∧
        charge.callbackUrl = none ∧ orderedCharge.postings charge.id = 0 ∧
        orderedCharge.notifications charge.id = 0 := by decide +kernel
  refine (recovers_iff_harmless rfl
    (Machine.runsUnder_runUnder sqlite collectionDown sampleEnv _ orderedCharge)
    (by simp [← uncollectedPayment.eq_def, failed])).mpr (.inr ⟨charge, member, isMatched, ?_⟩)
  exact {
    found := rfl
    written := rfl
    unused := by decide +kernel
    paid := rfl
    unposted
    collected := .inr fun invoice listed => by
      have none : orderedCharge.invoices.rows = [] := by decide +kernel
      rw [← Table.mem_rows, none] at listed
      cases listed
    announced := by rw [unannounced, callback]; rfl }

/-- The payment stays on record and its charge pending, however often it is retried. -/
theorem interrupted_payment_is_lost : ∃ result interrupted,
    sqlite.RunsUnder ledgerDown
      (ingest sampleCrates [] (sampleUuids "a") "bkash" (sampleMessage "TRXA")).run orderedCharge
      result interrupted ∧
    (∀ value, result ≠ some (.ok value)) ∧ ¬orderedCharge.SameMoney interrupted ∧
    ∀ retry outcome after, sqlite.Runs
      (ingest sampleCrates [] retry "bkash" (sampleMessage "TRXA")).run interrupted outcome after →
      after.settlements "chg_1" = 1 ∧ ¬after.isPaid "chg_1" := by
  have settled : interruptedPayment.2.settlements "chg_1" = 1 := by decide +kernel
  refine ⟨_, _, interruptedPayment_runs, interruptedPayment_failed, ?_, ?_⟩
  · intro same
    have none : orderedCharge.settlements "chg_1" = 0 := by decide +kernel
    rw [Db.settlements, same.smsEvents, ← Db.settlements, none] at settled
    cases settled
  · intro retry outcome after runs
    have recorded : ∃ row ∈ interruptedPayment.2.smsEvents.rows,
        row.gateway = .bkash ∧ row.txnId = "TRXA" := by decide +kernel
    have unpaid : ¬∃ charge ∈ interruptedPayment.2.charges.rows,
        charge.id = "chg_1" ∧ charge.status = .paid := by decide +kernel
    have same := sameMoney_of_recorded recorded (by decide +kernel) runs
    refine ⟨?_, fun paid => unpaid ?_⟩
    · rw [Db.settlements, same.smsEvents]
      exact settled
    · rw [Db.isPaid, same.charges] at paid
      exact paid

end Sms

end SpritexPay
