import SpritexPay.BooksProperties
import SpritexPay.RaceProperties
import SpritexPay.Relational.Groups

/-! Whether the summaries can be computed. A charge may be of any amount that 64
bits hold, and nothing limits how many of them are paid. Every sum that is asked
of the database is bounded by what came in with the matched messages, so that
amount decides about all of them. -/

set_option autoImplicit false

namespace SpritexPay

open Relational Resumption

theorem storable_of_bounded {exact bound : Int} (bounded : -bound ≤ exact ∧ exact ≤ bound)
    (small : bound ≤ Int64.maxValue.toInt) : Storable exact := by
  have lower : Int64.minValue.toInt = -Int64.maxValue.toInt - 1 := by decide
  constructor
  · omega
  · omega

/-! ## The summaries of a state -/

/-- Every balance and every reconciliation is answered, with the exact sums. -/
structure Db.Computes (db : Db) : Prop where
  balances : ∀ account envs, ∃ balance : Int64,
    sqlite.run (Ledger.accountBalance account).run envs db = (.ok balance, db) ∧
      balance.toInt = db.held account fun _ => true
  reports : ∀ gateway envs, ∃ report,
    sqlite.run (reconcile gateway).run envs db = (.ok report, db) ∧
      report.totalSettledMinor.toInt = db.settledTotal gateway ∧
      report.settledCount = db.smsEvents.count (Db.isSettled gateway) ∧
      report.pendingCharges = db.charges.count (·.status == .pending)

theorem sumMinor_overflow {amounts : List Int64}
    (outside : ¬Storable (amounts.map Int64.toInt).sum) :
    sumMinor amounts = .error .integerOverflow := if_neg outside

namespace Db

variable {db : Db} {envs : Nat → Env}

theorem report_overflow {gateway : Option String}
    (outside : ¬Storable (db.settledTotal gateway)) :
    sqlite.run (reconcile gateway).run envs db = (.error .integerOverflow, db) := by
  rw [← sum_of_settled] at outside
  have refused : sqlite.exec (envs 0) (.settledTotals gateway) db = .error .integerOverflow := by
    change (do return ((← sumMinor _, _), db) : Except SqlError ((Int64 × Nat) × Db)) = _
    rw [sumMinor_overflow outside]
    rfl
  exact Machine.run_stmt_error refused

/-! ## Sums by charge -/

/-- What one settlement of a charge adds to an account. -/
def share (account : String) (charge : Charge) : Int :=
  total (fun entry => entry.account == account && true) (·.amountMinor.toInt)
    (Charge.settlementEntries charge)

theorem share_bounded (account : String) (charge : Charge) :
    -charge.amountMinor.toInt ≤ share account charge ∧
      share account charge ≤ charge.amountMinor.toInt := by
  have positive := charge.toInt_pos
  by_cases receivable : account = Charge.merchantReceivable
  · have received : share account charge = charge.amountMinor.toInt := by
      rw [receivable]
      exact received_entries charge fun _ => true
    omega
  by_cases clearing : account = Charge.customerClearing
  · have cleared : share account charge = -charge.amountMinor.toInt := by
      rw [clearing]
      exact cleared_entries charge fun _ => true
    omega
  have none : share account charge = 0 := by
    refine total_eq_zero fun entry member => ?_
    simp only [Charge.settlementEntries, List.mem_cons, List.not_mem_nil, or_false] at member
    rcases member with rfl | rfl
    · simp [Entry.debit, Ne.symm receivable]
    · simp [Entry.credit, Ne.symm clearing]
  omega

/-- No row refers to two charges. -/
theorem charges_apart {Row : Type} (db : Db) (reference : Row → Option String) (rows : List Row) :
    db.charges.rows.Pairwise fun left right => ∀ row ∈ rows,
      ¬((reference row == some left.id) = true ∧ (reference row == some right.id) = true) := by
  refine db.charges.distinct.imp fun {left right} apart row _ both => ?_
  have same : left.id = right.id :=
    Option.some.inj ((beq_iff_eq.mp both.1).symm.trans (beq_iff_eq.mp both.2))
  simp [key, clash, same] at apart

theorem matched_of_isSettled {event : SmsEvent} (settled : isSettled none event = true) :
    event.matched = true := by simpa [isSettled] using settled

theorem settled_owned (sound : db.Sound) :
    Owned (fun (charge : Charge) event => event.chargeId == some charge.id) (isSettled none)
      db.charges.rows db.smsEvents.rows where
  apart := db.charges_apart SmsEvent.chargeId _
  owner := by
    intro event member settled
    obtain ⟨charge, chargeMember, reference, _⟩ :=
      sound.matchedCharge event member (matched_of_isSettled settled)
    exact ⟨charge, chargeMember, beq_iff_eq.mpr reference⟩

theorem settledTotal_by_charge (sound : db.Sound) : db.settledTotal none =
    (db.charges.rows.map fun charge =>
      (db.settlements charge.id : Int) * charge.amountMinor.toInt).sum := by
  have summed := (settled_owned sound).total_eq_sum_count (fun charge => charge.amountMinor.toInt)
    fun charge chargeMember event member settled belongs => by
      obtain ⟨other, otherMember, reference, amount⟩ :=
        sound.matchedCharge event member (matched_of_isSettled settled)
      have same : other.id = charge.id :=
        Option.some.inj (reference.symm.trans (beq_iff_eq.mp belongs))
      have equal : event.amountMinor = charge.amountMinor := by
        rw [amount, eq_of_charge_id otherMember chargeMember same]
      exact congrArg Int64.toInt equal
  rw [settledTotal, summed]
  refine congrArg List.sum (List.map_congr_left fun charge _ => ?_)
  refine congrArg (fun times : Nat => (times : Int) * charge.amountMinor.toInt) ?_
  refine List.countP_congr fun event _ => ?_
  simp [isSettled, settles, and_comm]

theorem entries_owned (sound : db.Sound) (test : LedgerEntry → Bool) :
    Owned (fun (txn : LedgerTransaction) entry => entry.txnId == txn.id) test
      db.ledgerTransactions.rows db.ledgerEntries where
  apart := by
    refine db.ledgerTransactions.distinct.imp fun {left right} apart entry _ both => ?_
    have same : left.id = right.id := (beq_iff_eq.mp both.1).symm.trans (beq_iff_eq.mp both.2)
    simp [key, clash, same] at apart
  owner := by
    intro entry member _
    obtain ⟨txn, txnMember, owner⟩ := sound.entryTxn entry member
    exact ⟨txn, txnMember, beq_iff_eq.mpr owner⟩

theorem transactions_owned (sound : db.Sound) :
    Owned (fun (charge : Charge) (txn : LedgerTransaction) => some txn.reference == some charge.id)
      (fun _ => true) db.charges.rows db.ledgerTransactions.rows where
  apart := db.charges_apart (fun txn : LedgerTransaction => some txn.reference) _
  owner := by
    intro txn member _
    obtain ⟨charge, chargeMember, reference, _⟩ := sound.posted txn member
    exact ⟨charge, chargeMember, beq_iff_eq.mpr (congrArg some reference)⟩

/-- What a ledger transaction adds to an account. -/
def posted (db : Db) (account : String) (txn : LedgerTransaction) : Int :=
  total (fun entry => entry.account == account && true) (·.amountMinor.toInt)
    (db.entriesOf txn.id)

theorem held_by_transaction (sound : db.Sound) (account : String) :
    (db.held account fun _ => true) =
      total (fun _ => true) (db.posted account) db.ledgerTransactions.rows := by
  rw [held, (entries_owned sound _).total_eq_sum, total, List.filter_true]
  refine congrArg List.sum (List.map_congr_left fun txn _ => ?_)
  simp only [posted, entriesOf, total, List.filter_map, List.filter_filter, List.map_map]
  rfl

theorem held_by_charge (sound : db.Sound) (account : String) :
    (db.held account fun _ => true) = (db.charges.rows.map fun charge =>
      (db.postings charge.id : Int) * share account charge).sum := by
  have summed := (transactions_owned sound).total_eq_sum_count (share account)
    fun charge chargeMember txn member _ belongs => by
      obtain ⟨other, otherMember, reference, spelled⟩ := sound.posted txn member
      have same : other.id = charge.id :=
        reference.symm.trans (Option.some.inj (beq_iff_eq.mp belongs))
      have equal : db.posted account txn = share account charge := by
        rw [posted, spelled, eq_of_charge_id otherMember chargeMember same, share]
      exact equal
  rw [held_by_transaction sound, summed]
  refine congrArg List.sum (List.map_congr_left fun charge _ => ?_)
  refine congrArg (fun times : Nat => (times : Int) * share account charge) ?_
  refine List.countP_congr fun txn _ => ?_
  simp

/-! ## Bounds -/

theorem settledTotal_bounded (sound : db.Sound) (gateway : Option String) :
    -db.settledTotal none ≤ db.settledTotal gateway ∧
      db.settledTotal gateway ≤ db.settledTotal none := by
  have nonneg : ∀ event ∈ db.smsEvents.rows, event.matched = true →
      0 ≤ event.amountMinor.toInt := by
    intro event member isMatched
    obtain ⟨charge, _, _, amount⟩ := sound.matchedCharge event member isMatched
    rw [amount]
    exact charge.toInt_pos.le
  have own : 0 ≤ db.settledTotal gateway := total_nonneg fun event member settled =>
    nonneg event member (Bool.and_eq_true_iff.mp settled).1
  have below : db.settledTotal gateway ≤ db.settledTotal none := by
    refine total_mono (fun event _ settled => ?_) fun event member settled => ?_
    · exact Bool.and_eq_true_iff.mpr ⟨(Bool.and_eq_true_iff.mp settled).1, rfl⟩
    · exact nonneg event member (matched_of_isSettled settled)
  omega

/-- No account holds more than what the matched messages brought in, on either side. -/
theorem held_bounded (backed : db.Backed) (account : String) :
    -db.settledTotal none ≤ (db.held account fun _ => true) ∧
      (db.held account fun _ => true) ≤ db.settledTotal none := by
  rw [settledTotal_by_charge backed.sound, held_by_charge backed.sound]
  refine sum_bounded fun charge _ => ?_
  obtain ⟨lower, upper⟩ := share_bounded account charge
  have positive := charge.toInt_pos
  have credited : (db.postings charge.id : Int) ≤ db.settlements charge.id :=
    Int.ofNat_le.mpr (backed.credited charge.id)
  have times : (0 : Int) ≤ db.postings charge.id := Int.natCast_nonneg _
  have most : (db.postings charge.id : Int) * charge.amountMinor.toInt ≤
      db.settlements charge.id * charge.amountMinor.toInt :=
    mul_le_mul_of_nonneg_right credited positive.le
  have above := mul_le_mul_of_nonneg_left upper times
  have below := mul_le_mul_of_nonneg_left lower times
  rw [mul_neg] at below
  constructor
  · omega
  · omega

/-- What came in decides whether the summaries can be computed. -/
theorem computes_iff (backed : db.Backed) :
    db.Computes ↔ db.settledTotal none ≤ Int64.maxValue.toInt := by
  constructor
  · intro computes
    by_contra above
    have outside : ¬Storable (db.settledTotal none) := fun storable => above storable.2
    obtain ⟨report, answered, _⟩ := computes.reports none fun _ => ⟨0, .status 0⟩
    rw [report_overflow outside] at answered
    cases answered
  · intro small
    refine ⟨fun account envs => ?_, fun gateway envs => ?_⟩
    · exact balance_of_storable (storable_of_bounded (held_bounded backed account) small)
    · exact report_of_storable
        (storable_of_bounded (settledTotal_bounded backed.sound gateway) small)

end Db

/-! ## Runs -/

/-- The amount of the message that a step records for a charge. -/
def recordedAmount : Act signature Db → Int
  | ⟨.insertSmsEvent columns, .ok _, _, _⟩ =>
      if columns.matched then columns.amountMinor.toInt else 0
  | _ => 0

section Pool

variable {Thread : Type}

/-- What the messages of a run brought in for the charges they were matched to. -/
def recordedTotal (past : List (Event signature Db Thread Response)) : Int :=
  (past.map fun event => recordedAmount event.act).sum

@[simp] theorem recordedTotal_cons (event : Event signature Db Thread Response)
    (past : List (Event signature Db Thread Response)) :
    recordedTotal (event :: past) = recordedAmount event.act + recordedTotal past := List.sum_cons

theorem settledTotal_reply {faults : Bool} {op : Statement} {before after : Db}
    {reply : signature.Reply op} (replied : sqlite.Replies faults op before reply after) :
    after.settledTotal none =
      before.settledTotal none + recordedAmount ⟨op, reply, before, after⟩ := by
  by_cases recording : ∃ columns, op = .insertSmsEvent columns
  · obtain ⟨columns, rfl⟩ := recording
    rcases reply_insertSmsEvent replied with ⟨now, smsEvents, rfl, stored, _, rfl⟩ |
      ⟨rfl, error, rfl⟩
    · rw [Db.settledTotal, Table.rows_insert? stored, total_append]
      simp [Db.settledTotal, Db.isSettled, NewSmsEvent.row, recordedAmount]
    · exact (Int.add_zero _).symm
  · have kept : after.smsEvents = before.smsEvents :=
      smsEvents_reply replied fun columns same => recording ⟨columns, same⟩
    have silent : recordedAmount ⟨op, reply, before, after⟩ = 0 := by
      cases op with
      | insertSmsEvent columns => exact absurd ⟨columns, rfl⟩ recording
      | _ => rfl
    rw [Db.settledTotal, kept, silent, Int.add_zero]
    rfl

variable [DecidableEq Thread] {faults : Bool} {start config : Config signature Db Thread Response}
  {past : List (Event signature Db Thread Response)}

theorem settledTotal_run (run : Run sqlite faults start past config) :
    config.store.settledTotal none = start.store.settledTotal none + recordedTotal past := by
  induction run with
  | start => exact (Int.add_zero _).symm
  | step earlier waiting replied ih =>
      have step := settledTotal_reply replied
      rw [step, ih, recordedTotal_cons, Int.add_assoc, Int.add_comm (recordedTotal _)]

end Pool

/-- In every reachable state all the balances and reconciliations can be computed,
exactly if the messages recorded for charges on the way there amount to no more
than 64 bits hold. -/
theorem summaries_computable_iff {Thread : Type} [DecidableEq Thread] [Fintype Thread]
    {service : Service} {faults : Bool} {requests : Thread → Request}
    {past : List (Event signature Db Thread Response)}
    {config : Config signature Db Thread Response}
    (run : Run sqlite faults (service.pool Db.empty requests) past config) :
    config.store.Computes ↔ recordedTotal past ≤ Int64.maxValue.toInt := by
  have brought : config.store.settledTotal none = recordedTotal past :=
    (settledTotal_run run).trans (Int.zero_add _)
  rw [Db.computes_iff (pool_backed Db.backed_empty run), brought]

theorem summaries_computable_iff_sample : ∃ past config,
    Run sqlite false (sampleService.pool Db.empty orderAndPayment) past config ∧
      recordedTotal past = 50000 ∧ config.store.Computes := by
  have run := Run.scheduled sqlite false (sampleService.pool Db.empty orderAndPayment)
    sampleEnv [false, false, true, true, true, true]
  have brought : recordedTotal ((sampleService.pool Db.empty orderAndPayment).trace sqlite
      sampleEnv [false, false, true, true, true, true]) = 50000 := by decide +kernel
  refine ⟨_, _, run, brought, (summaries_computable_iff run).mpr ?_⟩
  rw [brought]
  decide

/-- Two orders of half the range, each paid in full before the next is placed. -/
def largeOrder (uuid : String) : Request :=
  .createCharge uuid ⟨uuid, 4611686018427387904, "BDT", none, none, none⟩

def largePayment (uuid txnId : String) : Request :=
  .ingest (sampleUuids uuid) [] "bkash"
    ("received Tk 46116860184273879.04 from 01999999999. TrxID " ++ txnId)

def twoLargeOrders : Fin 4 → Request
  | 0 => largeOrder "1"
  | 1 => largePayment "a" "TRXA"
  | 2 => largeOrder "2"
  | 3 => largePayment "b" "TRXB"

theorem large_payments_overflow : ∃ past config,
    Run sqlite false (sampleService.pool Db.empty twoLargeOrders) past config ∧
      config.store.charges.count (·.status == .paid) = 2 ∧
      (sqlite.run (Ledger.accountBalance Charge.merchantReceivable).run (fun _ => sampleEnv)
        config.store).1 = .error .integerOverflow ∧
      (sqlite.run (reconcile none).run (fun _ => sampleEnv) config.store).1 =
        .error .integerOverflow := by
  have run := Run.scheduled sqlite false (sampleService.pool Db.empty twoLargeOrders)
    sampleEnv [0, 0, 1, 1, 1, 1, 1, 1, 2, 2, 3, 3, 3, 3, 3, 3]
  exact ⟨_, _, run, by decide +kernel⟩

end SpritexPay
