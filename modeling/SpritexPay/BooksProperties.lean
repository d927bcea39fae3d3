import SpritexPay.Books
import SpritexPay.SettlementSafety

/-! Sequential runs of a deployment keep their books in order, and the reports
the operator reads off different tables agree. -/

set_option autoImplicit false

namespace SpritexPay

open Relational Resumption

def Request.webhookId : Request → Option String
  | .ingest uuids _ _ _ => some ("whd_" ++ uuids.settlement.webhook)
  | _ => none

/-- The identifiers the requests of a run have drawn are distinct. -/
structure FreshIds (calls : List Call) : Prop where
  ledger : (calls.filterMap (·.request.ledgerId)).Nodup
  webhook : (calls.filterMap (·.request.webhookId)).Nodup

theorem FreshIds.earlier {call : Call} {calls : List Call} (fresh : FreshIds (call :: calls)) :
    FreshIds calls where
  ledger := fresh.ledger.sublist ((List.sublist_cons_self call calls).filterMap _)
  webhook := fresh.webhook.sublist ((List.sublist_cons_self call calls).filterMap _)

theorem FreshIds.ofRequests {calls : List Call} {requests : List Request}
    (asked : calls.map (·.request) = requests)
    (ledger : (requests.filterMap Request.ledgerId).Nodup)
    (webhook : (requests.filterMap Request.webhookId).Nodup) : FreshIds calls := by
  subst asked
  rw [List.filterMap_map] at ledger webhook
  exact ⟨ledger, webhook⟩

namespace Db

/-- The identifiers in the ledger and in the queue were drawn by the calls. -/
structure DrawnBy (db : Db) (calls : List Call) : Prop where
  ledger : ∀ txn ∈ db.ledgerTransactions, txn.id ∈ calls.filterMap (·.request.ledgerId)
  webhook : ∀ delivery ∈ db.webhookDeliveries,
    delivery.id ∈ calls.filterMap (·.request.webhookId)

variable {before after : Db} {call : Call} {calls : List Call}

theorem DrawnBy.cons (drawn : before.DrawnBy calls) : before.DrawnBy (call :: calls) where
  ledger := fun txn member => by
    rw [List.filterMap_cons]
    split
    · exact drawn.ledger txn member
    · exact List.mem_cons_of_mem _ (drawn.ledger txn member)
  webhook := fun delivery member => by
    rw [List.filterMap_cons]
    split
    · exact drawn.webhook delivery member
    · exact List.mem_cons_of_mem _ (drawn.webhook delivery member)

theorem DrawnBy.steady (drawn : before.DrawnBy calls) (steady : before.Steady after) :
    after.DrawnBy calls where
  ledger := by simpa only [steady.ledgerTransactions] using drawn.ledger
  webhook := fun delivery member => by
    rcases steady.webhookDeliveries.source member with ⟨old, oldMember, grown⟩ | never
    · rw [grown.id]
      exact drawn.webhook old oldMember
    · exact never.elim

theorem DrawnBy.kept (drawn : before.DrawnBy calls)
    (ledgerTransactions : after.ledgerTransactions = before.ledgerTransactions)
    (webhookDeliveries : after.webhookDeliveries = before.webhookDeliveries) :
    after.DrawnBy calls where
  ledger := by simpa only [ledgerTransactions] using drawn.ledger
  webhook := by simpa only [webhookDeliveries] using drawn.webhook

theorem DrawnBy.settled {crates : Crates} {uuids : IngestUuids} {columns : NewSmsEvent}
    {charge : Charge} {replies : List ProviderReply} {gw rawBody : String} {response : Response}
    (drawn : before.DrawnBy calls)
    (settled : before.Settled crates uuids.settlement columns charge after) :
    after.DrawnBy (⟨.ingest uuids replies gw rawBody, response⟩ :: calls) where
  ledger := fun txn member => by
    obtain ⟨now, posted, _⟩ := settled.posted
    rcases (Table.mem_insert? posted).mp member with old | rfl
    · exact List.mem_cons_of_mem _ (drawn.ledger txn old)
    · exact List.mem_cons_self
  webhook := fun delivery member => by
    cases callback : charge.callbackUrl with
    | none =>
        rw [settled.silent callback] at member
        exact List.mem_cons_of_mem _ (drawn.webhook delivery member)
    | some url =>
        obtain ⟨now, queued⟩ := settled.announced url callback
        rcases (Table.mem_insert? queued).mp member with old | rfl
        · exact List.mem_cons_of_mem _ (drawn.webhook delivery old)
        · exact List.mem_cons_self

end Db

theorem books_ingest {crates : Crates} {replies : List ProviderReply} {uuids : IngestUuids}
    {gw rawBody : String} {before after : Db} {outcome : Except IngestError Ingested}
    (books : before.Books) (sound : after.Sound)
    (served : Sms.Served crates replies uuids gw rawBody before outcome after) : after.Books := by
  cases served with
  | refused same => exact books.same same
  | unmatched row alone records =>
      refine books.records records ?_
      rw [Sms.recordedAs_matched row, alone]
      rfl
  | settled row reference member pending amount settled =>
      refine books.settle sound settled member pending amount reference ?_
      rw [Sms.recordedAs_matched row, reference]
      rfl

variable {service : Service} {calls : List Call} {db : Db}

theorem books_of_history (history : History service Db.empty calls db) (fresh : FreshIds calls) :
    db.Books ∧ db.DrawnBy calls := by
  induction history with
  | start => exact ⟨Db.books_empty, by simp [Db.empty], by simp [Db.empty]⟩
  | @serve past before after request response earlier served ih =>
      obtain ⟨books, drawn⟩ := ih fresh.earlier
      cases ingests : request.isIngest with
      | false =>
          have steady := steady_served ingests served
          exact ⟨books.steady steady, (drawn.steady steady).cons⟩
      | true =>
          obtain ⟨uuids, replies, gw, rawBody, rfl⟩ := Request.eq_ingest ingests
          obtain ⟨outcome, runs, rfl⟩ := runs_respond_iff.mp served
          obtain ⟨freshLedger, _⟩ := List.nodup_cons.mp fresh.ledger
          obtain ⟨freshWebhook, _⟩ := List.nodup_cons.mp fresh.webhook
          have alone := Sms.served_of_runs runs
            (fun txn member same => freshLedger (same ▸ drawn.ledger txn member))
            (fun delivery member same => freshWebhook (same ▸ drawn.webhook delivery member))
          refine ⟨books_ingest books (Sms.sound_of_runs runs books.sound) alone, ?_⟩
          cases alone with
          | refused same => exact (drawn.kept same.ledgerTransactions same.webhookDeliveries).cons
          | unmatched _ _ records =>
              obtain ⟨_, _, _, _, rfl⟩ := records
              refine Db.DrawnBy.cons ?_
              exact drawn.kept rfl rfl
          | settled _ _ _ _ _ settled => exact drawn.settled settled

/-! ## Reports -/

theorem sumMinor_ok {amounts : List Int64} {sum : Int64} (summed : sumMinor amounts = .ok sum) :
    sum.toInt = (amounts.map Int64.toInt).sum := by
  simp only [sumMinor] at summed
  split at summed
  · rename_i bounds
    cases summed
    have lower : Int64.minValue.toInt = -2 ^ 63 := by decide
    have upper : Int64.maxValue.toInt = 2 ^ 63 - 1 := by decide
    rw [Int64.toInt_ofInt_of_le] <;> omega
  · cases summed

theorem summed_ok {Value : Type} {amounts : List Int64} {answer : Int64 → Value}
    {result : Value × Db} (executed : (do
      let sum ← sumMinor amounts
      return (answer sum, db) : Except SqlError (Value × Db)) = .ok result) :
    ∃ sum : Int64, sum.toInt = (amounts.map Int64.toInt).sum ∧ result = (answer sum, db) := by
  cases summed : sumMinor amounts with
  | error error =>
      rw [summed] at executed
      cases executed
  | ok sum =>
      rw [summed] at executed
      cases executed
      exact ⟨sum, sumMinor_ok summed, rfl⟩

theorem reconcile_ok {gateway : Option String} {report : Reconciliation} {after : Db}
    (runs : sqlite.Runs (reconcile gateway).run db (.ok report) after) :
    report.totalSettledMinor.toInt = db.settledTotal gateway ∧
      report.settledCount = db.smsEvents.count (Db.isSettled gateway) ∧
      report.pendingCharges = db.charges.count (·.status == .pending) := by
  rcases runs_bind_cases runs with ⟨totals, middle, first, rest⟩ | ⟨failure, _, ended⟩
  swap
  · cases ended
  rcases runs_bind_cases rest with ⟨pending, last, second, finish⟩ | ⟨failure, _, ended⟩
  swap
  · cases ended
  obtain ⟨env, executed⟩ := runs_query_ok first
  obtain ⟨laterEnv, counted⟩ := runs_query_ok second
  obtain ⟨same, rfl⟩ := Machine.runs_done_iff.mp finish
  cases counted
  cases same
  obtain ⟨sum, exactly, same⟩ := summed_ok executed
  cases same
  refine ⟨?_, List.countP_eq_length_filter.symm, rfl⟩
  rw [exactly, List.map_map]
  rfl

theorem accountBalance_ok {account : String} {balance : Int64} {after : Db}
    (runs : sqlite.Runs (Ledger.accountBalance account).run db (.ok balance) after) :
    balance.toInt = db.held account fun _ => true := by
  obtain ⟨env, executed⟩ := runs_query_ok runs
  obtain ⟨sum, exactly, same⟩ := summed_ok executed
  cases same
  rw [exactly, List.map_map, Db.held, total]
  simp only [Bool.and_true]
  rfl

/-- An exact sum that 64 bits hold. -/
def Storable (exact : Int) : Prop :=
  Int64.minValue.toInt ≤ exact ∧ exact ≤ Int64.maxValue.toInt

theorem sumMinor_storable {amounts : List Int64}
    (storable : Storable (amounts.map Int64.toInt).sum) :
    ∃ sum, sumMinor amounts = .ok sum ∧ sum.toInt = (amounts.map Int64.toInt).sum := by
  have summed : sumMinor amounts = .ok (Int64.ofInt (amounts.map Int64.toInt).sum) :=
    if_pos storable
  exact ⟨_, summed, sumMinor_ok summed⟩

namespace Db

variable {envs : Nat → Env}

theorem sum_of_account (db : Db) (account : String) :
    (((db.ledgerEntries.filter (·.account == account)).map (·.amountMinor)).map
      Int64.toInt).sum = db.held account fun _ => true := by
  rw [List.map_map, held, total]
  simp only [Bool.and_true]
  rfl

theorem sum_of_settled (db : Db) (gateway : Option String) :
    (((db.smsEvents.rows.filter (isSettled gateway)).map (·.amountMinor)).map
      Int64.toInt).sum = db.settledTotal gateway := by
  rw [List.map_map]
  rfl

theorem balance_of_storable {account : String}
    (storable : Storable (db.held account fun _ => true)) : ∃ balance : Int64,
      sqlite.run (Ledger.accountBalance account).run envs db = (.ok balance, db) ∧
        balance.toInt = db.held account fun _ => true := by
  rw [← sum_of_account] at storable ⊢
  obtain ⟨balance, summed, exactly⟩ := sumMinor_storable storable
  have executed : sqlite.exec (envs 0) (.accountBalance account) db = .ok (balance, db) := by
    change (do return (← sumMinor _, db) : Except SqlError (Int64 × Db)) = _
    rw [summed]
    rfl
  exact ⟨balance, Machine.run_stmt_ok executed, exactly⟩

theorem report_of_storable {gateway : Option String}
    (storable : Storable (db.settledTotal gateway)) : ∃ report,
      sqlite.run (reconcile gateway).run envs db = (.ok report, db) ∧
        report.totalSettledMinor.toInt = db.settledTotal gateway ∧
        report.settledCount = db.smsEvents.count (isSettled gateway) ∧
        report.pendingCharges = db.charges.count (·.status == .pending) := by
  rw [← sum_of_settled] at storable ⊢
  obtain ⟨sum, summed, exactly⟩ := sumMinor_storable storable
  have executed : sqlite.exec (envs 0) (.settledTotals gateway) db =
      .ok ((sum, (db.smsEvents.rows.filter (isSettled gateway)).length), db) := by
    change (do return ((← sumMinor _, _), db) : Except SqlError ((Int64 × Nat) × Db)) = _
    rw [summed]
    rfl
  refine ⟨⟨gateway, sum, _, _⟩, ?_, exactly, List.countP_eq_length_filter.symm, rfl⟩
  exact Machine.run_stmt_ok executed

end Db

/-- Every matched message belongs to one of the two gateways. -/
theorem isSettled_none (event : SmsEvent) : Db.isSettled none event =
    (Db.isSettled (some "bkash") event || Db.isSettled (some "nagad") event) := by
  cases gateway : event.gateway <;> simp [Db.isSettled, gateway, Gateway.id]

theorem isSettled_apart (event : SmsEvent) :
    ¬(Db.isSettled (some "bkash") event = true ∧ Db.isSettled (some "nagad") event = true) := by
  cases gateway : event.gateway <;> simp [Db.isSettled, gateway, Gateway.id]

namespace Db

def Reports (db : Db) (gateway : Option String) (report : Reconciliation) : Prop :=
  sqlite.Runs (reconcile gateway).run db (.ok report) db

def Balances (db : Db) (account : String) (balance : Int64) : Prop :=
  sqlite.Runs (Ledger.accountBalance account).run db (.ok balance) db

/-- The report over all gateways and the balances of both accounts are computed. -/
structure Answered (db : Db) : Prop where
  report : ∃ report, db.Reports none report
  receivable : ∃ balance, db.Balances Charge.merchantReceivable balance
  clearing : ∃ balance, db.Balances Charge.customerClearing balance

structure Agrees (db : Db) (charge : Charge) : Prop where
  posted : charge.status = .paid ↔ db.postings charge.id = 1
  recorded : charge.status = .paid ↔ db.settlements charge.id = 1
  untouched : charge.status ≠ .paid → db.postings charge.id = 0 ∧ db.settlements charge.id = 0
  announced : db.notifications charge.id =
    if charge.status = .paid ∧ charge.callbackUrl.isSome then 1 else 0
  received : ∀ event ∈ db.smsEvents, settles charge.id event = true →
    event.amountMinor = charge.amountMinor
  entered : ∀ txn ∈ db.ledgerTransactions, txn.reference = charge.id →
    db.entriesOf txn.id = Charge.settlementEntries charge

theorem Books.agrees (books : db.Books) {charge : Charge} (member : charge ∈ db.charges) :
    db.Agrees charge := by
  have received : ∀ event ∈ db.smsEvents, settles charge.id event = true →
      event.amountMinor = charge.amountMinor := by
    intro event eventMember settled
    obtain ⟨reference, isMatched⟩ : event.chargeId = some charge.id ∧ event.matched = true := by
      simpa [settles] using settled
    obtain ⟨owner, ownerMember, same, amount⟩ :=
      books.sound.matchedCharge event eventMember isMatched
    have sameId : owner.id = charge.id := Option.some.inj (same.symm.trans reference)
    rw [amount, eq_of_charge_id ownerMember member sameId]
  have entered : ∀ txn ∈ db.ledgerTransactions, txn.reference = charge.id →
      db.entriesOf txn.id = Charge.settlementEntries charge := by
    intro txn txnMember reference
    obtain ⟨owner, ownerMember, same, entries⟩ := books.sound.posted txn txnMember
    rw [entries, eq_of_charge_id ownerMember member (same.symm.trans reference)]
  rcases books.accounts charge member with ⟨pending, accounts⟩ | ⟨paid, accounts⟩
  · refine ⟨?_, ?_, fun _ => ⟨accounts.posted, accounts.recorded⟩, ?_, received, entered⟩
    · simp [pending, accounts.posted]
    · simp [pending, accounts.recorded]
    · simp [pending, accounts.announced]
  · refine ⟨?_, ?_, fun unpaid => absurd paid unpaid, ?_, received, entered⟩
    · simp [paid, accounts.posted]
    · simp [paid, accounts.recorded]
    · simp [paid, accounts.announced]

theorem Books.answered (books : db.Books) (storable : Storable (db.paidIn fun _ => true)) :
    db.Answered := by
  have nonneg : 0 ≤ db.paidIn fun _ => true := by
    refine List.sum_nonneg fun amount listed => ?_
    obtain ⟨charge, _, rfl⟩ := List.mem_map.mp listed
    exact charge.toInt_pos.le
  have lower : Int64.minValue.toInt = -Int64.maxValue.toInt - 1 := by decide
  have received : Storable (db.held Charge.merchantReceivable fun _ => true) := by
    rwa [books.received]
  have cleared : Storable (db.held Charge.customerClearing fun _ => true) := by
    rw [books.cleared]
    obtain ⟨_, upper⟩ := storable
    constructor
    · omega
    · omega
  have collected : Storable (db.settledTotal none) := by
    rwa [books.collected]
  have answers : ∀ {Value : Type} {query : Query SqlError Value} {value : Value},
      sqlite.run query.run (fun _ => ⟨0, .status 0⟩) db = (.ok value, db) →
        sqlite.Runs query.run db (.ok value) db := by
    intro _ query _ computed
    have runs := sqlite.runs_run query.run (fun _ => ⟨0, .status 0⟩) db
    rwa [computed] at runs
  obtain ⟨report, reported, _⟩ := report_of_storable collected
  obtain ⟨receivable, balanced, _⟩ := balance_of_storable received
  obtain ⟨clearing, settled, _⟩ := balance_of_storable cleared
  exact ⟨⟨report, answers reported⟩, ⟨receivable, answers balanced⟩, ⟨clearing, answers settled⟩⟩

theorem Books.pending (books : db.Books) :
    db.charges.count (·.status == .pending) = db.charges.count (·.status != .paid) := by
  refine List.countP_congr fun charge member => ?_
  rcases books.accounts charge member with ⟨pending, _⟩ | ⟨paid, _⟩
  · simp [pending]
  · simp [paid]

theorem settledTotal_split : db.settledTotal none =
    db.settledTotal (some "bkash") + db.settledTotal (some "nagad") :=
  total_split _ (fun event _ => isSettled_none event) fun event _ => isSettled_apart event

theorem settledCount_split : db.smsEvents.count (isSettled none) =
    db.smsEvents.count (isSettled (some "bkash")) +
      db.smsEvents.count (isSettled (some "nagad")) :=
  countP_split _ (fun event _ => isSettled_none event) fun event _ => isSettled_apart event

end Db

/-- Served one at a time, requests leave books that agree: charge by charge, and
in every report that is computed from them. They are computed as long as 64 bits hold what
was paid. -/
theorem books_agree (history : History service Db.empty calls db) (fresh : FreshIds calls) :
    (∀ charge ∈ db.charges, db.Agrees charge) ∧
    (∀ event ∈ db.smsEvents, event.matched = true →
      ∃ charge ∈ db.charges, event.chargeId = some charge.id) ∧
    (∀ txn ∈ db.ledgerTransactions, ∃ charge ∈ db.charges, txn.reference = charge.id) ∧
    db.settledTotal none = db.paidIn (fun _ => true) ∧
    db.held Charge.merchantReceivable (fun _ => true) = db.paidIn (fun _ => true) ∧
    db.held Charge.customerClearing (fun _ => true) = -db.paidIn (fun _ => true) ∧
    (Storable (db.paidIn fun _ => true) → db.Answered) ∧
    ∀ report, db.Reports none report →
      report.totalSettledMinor.toInt = db.paidIn (fun _ => true) ∧
      report.pendingCharges = db.charges.count (·.status != .paid) ∧
      (∀ balance, db.Balances Charge.merchantReceivable balance →
        balance.toInt = report.totalSettledMinor.toInt) ∧
      (∀ balance, db.Balances Charge.customerClearing balance →
        balance.toInt = -report.totalSettledMinor.toInt) ∧
      ∀ bkash nagad, db.Reports (some "bkash") bkash → db.Reports (some "nagad") nagad →
        report.totalSettledMinor.toInt =
          bkash.totalSettledMinor.toInt + nagad.totalSettledMinor.toInt ∧
        report.settledCount = bkash.settledCount + nagad.settledCount := by
  obtain ⟨books, _⟩ := books_of_history history fresh
  refine ⟨fun charge member => books.agrees member, ?_, ?_, books.collected, books.received _,
    books.cleared _, books.answered, fun report reports => ?_⟩
  · intro event member isMatched
    obtain ⟨charge, chargeMember, reference, _⟩ := books.sound.matchedCharge event member isMatched
    exact ⟨charge, chargeMember, reference⟩
  · intro txn member
    obtain ⟨charge, chargeMember, reference, _⟩ := books.sound.posted txn member
    exact ⟨charge, chargeMember, reference⟩
  · obtain ⟨settled, counted, pending⟩ := reconcile_ok reports
    refine ⟨settled.trans books.collected, pending.trans books.pending, ?_, ?_, ?_⟩
    · intro balance balances
      rw [accountBalance_ok balances, books.received, settled, books.collected]
    · intro balance balances
      rw [accountBalance_ok balances, books.cleared, settled, books.collected]
    · intro bkash nagad bkashReports nagadReports
      obtain ⟨bkashSettled, bkashCounted, _⟩ := reconcile_ok bkashReports
      obtain ⟨nagadSettled, nagadCounted, _⟩ := reconcile_ok nagadReports
      rw [settled, bkashSettled, nagadSettled, counted, bkashCounted, nagadCounted]
      exact ⟨Db.settledTotal_split, Db.settledCount_split⟩

/-- One charge and two payments, of which the second comes too late. -/
def sampleDay : List Request := [sampleOrder, samplePayment "a" "TRXA", samplePayment "b" "TRXB"]

theorem books_agree_sample : ∃ calls charge report balance,
    History sampleService Db.empty calls (sampleService.serve sampleDay Db.empty) ∧
    charge ∈ (sampleService.serve sampleDay Db.empty).charges ∧ charge.status = .paid ∧
    (sampleService.serve sampleDay Db.empty).Reports none report ∧
    (sampleService.serve sampleDay Db.empty).Balances Charge.merchantReceivable balance ∧
    report.totalSettledMinor.toInt = 50000 ∧ balance.toInt = 50000 := by
  obtain ⟨calls, history, asked⟩ :=
    (History.start : History sampleService Db.empty [] Db.empty).serve_all sampleDay
  have fresh : FreshIds calls := .ofRequests asked (by decide +kernel) (by decide +kernel)
  obtain ⟨charge, member, posted⟩ :
      ∃ charge ∈ (sampleService.serve sampleDay Db.empty).charges.rows,
        (sampleService.serve sampleDay Db.empty).postings charge.id = 1 := by decide +kernel
  have sold : (sampleService.serve sampleDay Db.empty).paidIn (fun _ => true) = 50000 := by
    decide +kernel
  obtain ⟨agrees, _, _, _, _, _, answered, reports⟩ := books_agree history fresh
  have storable : Storable 50000 := ⟨by decide, by decide⟩
  obtain ⟨⟨report, reported⟩, ⟨balance, balanced⟩, _⟩ := answered (sold ▸ storable)
  obtain ⟨total, _, received, _⟩ := reports report reported
  rw [sold] at total
  exact ⟨calls, charge, report, balance, history, member, (agrees charge member).posted.mpr posted,
    reported, balanced, total, (received balance balanced).trans total⟩

end SpritexPay
