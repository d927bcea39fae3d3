import Mathlib.Data.Fintype.EquivFin
import SpritexPay.FraudProperties
import SpritexPay.Hundredths

/-! What the amount rule can see. The average that a message is measured against
contains the message itself, so it takes more than its size to stand out. -/

set_option autoImplicit false

namespace SpritexPay.Fraud

open Binary64 F64 Relational Resumption

/-! ## The threshold -/

theorem clampI64_lt_iff {number : Int} {amount : Int64} (nonneg : 0 ≤ number) :
    clampI64 number < amount ↔ number < amount.toInt := by
  have most : amount.toInt ≤ Int64.maxValue.toInt := Int64.toInt_le amount
  have range : Int64.maxValue.toInt = 2 ^ 63 - 1 := by decide
  rw [Int64.lt_iff_toInt_lt]
  by_cases large : 2 ^ 63 - 1 ≤ number
  · rw [clampI64_of_le large]
    omega
  · rw [toInt_clampI64 nonneg (by omega)]

/-- Whether an amount exceeds ten times the average that it is itself part of. -/
theorem threshold_lt_iff {count : Nat} {total : Int} {amount : Int64}
    (nonneg : 0 ≤ total + amount.toInt) :
    threshold (((total + amount.toInt : Int) : Rat) / ((count + 1 : Nat) : Rat)) < amount ↔
      20 * total + (count + 1) < (2 * count - 18) * amount.toInt := by
  have positive : (0 : Rat) < ((count + 1 : Nat) : Rat) := by positivity
  have least : (0 : Rat) ≤ ((total + amount.toInt : Int) : Rat) := by exact_mod_cast nonneg
  have average :
      (0 : Rat) ≤ ((total + amount.toInt : Int) : Rat) / ((count + 1 : Nat) : Rat) * 10 := by
    positivity
  rw [threshold, amountAnomalyMultiple, halfAway, if_neg (not_lt.mpr average),
    clampI64_lt_iff (Int.floor_nonneg.mpr (by linarith)), Int.floor_lt, div_mul_eq_mul_div,
    div_add_div _ _ positive.ne' two_ne_zero, div_lt_iff₀ (by positivity)]
  have cleared : (((total + amount.toInt : Int) : Rat) * 10 * 2 + ((count + 1 : Nat) : Rat) * 1 <
      (amount.toInt : Rat) * (((count + 1 : Nat) : Rat) * 2)) ↔
      (total + amount.toInt) * 10 * 2 + ((count + 1 : Nat) : Int) * 1 <
        amount.toInt * (((count + 1 : Nat) : Int) * 2) := by
    exact_mod_cast Iff.rfl
  rw [cleared]
  push_cast
  constructor <;> intro below <;> linarith

/-! ## One more message -/

/-- The rule reports the message. -/
def Flagged (db : Db) (event : SmsEvent) : Prop :=
  ∀ outcome after, sqlite.Runs amountOutliers.run db outcome after →
    ∃ anomalies, outcome = .ok anomalies ∧
      amountAnomaly db.matchedAverage.2 (event.txnId, event.amountMinor) ∈ anomalies

/-- There is an amount from which on the next matched message is reported. -/
def CanFire (db : Db) : Prop :=
  ∃ least : Int64, ∀ columns now after, columns.matched = true → least ≤ columns.amountMinor →
    db.insertSmsEvent now columns = .ok after → Flagged after (columns.row now)

section Recorded

variable {db after : Db} {columns : NewSmsEvent} {now : Timestamp}

theorem flagged_of_mem {event : SmsEvent} (listed : event ∈ outliers db) : Flagged db event := by
  intro outcome after runs
  obtain ⟨rfl, _⟩ := runs_amountOutliers runs
  exact ⟨_, rfl, List.mem_map.mpr ⟨event, listed, rfl⟩⟩

theorem exists_mem_of_flagged {event : SmsEvent} (flagged : Flagged db event) :
    ∃ listed ∈ outliers db, listed.txnId = event.txnId := by
  have runs := sqlite.runs_run amountOutliers.run (fun _ => ⟨0, .status 200⟩) db
  obtain ⟨ended, _⟩ := runs_amountOutliers runs
  obtain ⟨anomalies, same, reported⟩ := flagged _ _ runs
  obtain rfl := Except.ok.inj (ended.symm.trans same)
  obtain ⟨listed, member, anomaly⟩ := List.mem_map.mp reported
  exact ⟨listed, member, Option.some.inj (congrArg Anomaly.txnId anomaly)⟩

theorem mem_smsEvents_of_mem_outliers {event : SmsEvent} (listed : event ∈ outliers db) :
    event ∈ db.smsEvents := by
  unfold outliers at listed
  split at listed
  · cases listed
  · exact List.mem_of_mem_filter (List.mem_of_mem_filter listed)

theorem matchedEvents_recorded (isMatched : columns.matched = true)
    (recorded : db.insertSmsEvent now columns = .ok after) :
    after.matchedEvents = db.matchedEvents ++ [columns.row now] := by
  obtain ⟨smsEvents, stored, _, rfl⟩ := Db.insertSmsEvent_ok recorded
  have row : (columns.row now).matched = true := isMatched
  rw [Db.matchedEvents, Table.rows_insert? stored, List.filter_append, List.filter_singleton, row]
  rfl

theorem mem_outliers_recorded (enough : minSampleForAmount ≤ db.matchedEvents.length)
    (isMatched : columns.matched = true) (recorded : db.insertSmsEvent now columns = .ok after)
    (nonneg : 0 ≤ db.matchedAmounts.sum + columns.amountMinor.toInt) :
    columns.row now ∈ outliers after ↔
      20 * db.matchedAmounts.sum + (db.matchedEvents.length + 1) <
        (2 * db.matchedEvents.length - 18) * columns.amountMinor.toInt := by
  have events := matchedEvents_recorded isMatched recorded
  have total : after.matchedAmounts.sum =
      db.matchedAmounts.sum + columns.amountMinor.toInt := by
    rw [Db.matchedAmounts, events, List.map_append, List.sum_append]
    exact congrArg (db.matchedAmounts.sum + ·) (add_zero _)
  have counted : after.matchedAmounts.length = db.matchedEvents.length + 1 := by
    rw [Db.matchedAmounts, events, List.length_map, List.length_append]
    rfl
  have average : after.matchedAverage = (db.matchedEvents.length + 1,
      ((db.matchedAmounts.sum + columns.amountMinor.toInt : Int) : Rat) /
        ((db.matchedEvents.length + 1 : Nat) : Rat)) := by
    simp only [Db.matchedAverage, counted, total, Nat.add_one_ne_zero, if_false]
  rw [outliers, average, if_neg (by omega), Db.matchedAbove, events, List.mem_filter,
    decide_eq_true_eq, ← threshold_lt_iff nonneg]
  exact and_iff_right (List.mem_append_right _ List.mem_cons_self)

end Recorded

theorem sum_nonneg_of_positive {db : Db}
    (positive : ∀ event ∈ db.matchedEvents, 0 < event.amountMinor) :
    0 ≤ db.matchedAmounts.sum := by
  refine List.sum_nonneg fun amount member => ?_
  obtain ⟨event, listed, rfl⟩ := List.mem_map.mp member
  exact (Int64.lt_iff_toInt_lt.mp (positive event listed)).le

/-- A matched message of any amount can be recorded, under an id and a transaction
id that no message has yet. -/
theorem exists_recordable (db : Db) (amountMinor : Int64) (now : Timestamp) :
    ∃ columns after, columns.matched = true ∧ columns.amountMinor = amountMinor ∧
      db.insertSmsEvent now columns = .ok after ∧
      ∀ event ∈ db.smsEvents, event.txnId ≠ columns.txnId := by
  obtain ⟨id, freshId⟩ :=
    Infinite.exists_notMem_finset (db.smsEvents.rows.map (·.id)).toFinset
  obtain ⟨txnId, freshTxnId⟩ :=
    Infinite.exists_notMem_finset (db.smsEvents.rows.map (·.txnId)).toFinset
  simp only [List.mem_toFinset, List.mem_map, not_exists, not_and] at freshId freshTxnId
  let columns : NewSmsEvent :=
    ⟨id, .bkash, txnId, amountMinor, none, none, "", true, .regex⟩
  have recordable : db.recordable columns :=
    ⟨fun row member => ⟨freshId row member, fun same => freshTxnId row member same.2⟩, rfl⟩
  obtain ⟨smsEvents, _, recorded⟩ := Db.insertSmsEvent_recordable recordable now
  exact ⟨columns, _, rfl, rfl, recorded, freshTxnId⟩

/-- The rule sees the largest amount if it sees any. -/
theorem below_of_canFire {db : Db}
    (positive : ∀ event ∈ db.matchedEvents, 0 < event.amountMinor)
    (enough : minSampleForAmount ≤ db.matchedEvents.length) (fires : CanFire db) :
    20 * db.matchedAmounts.sum + (db.matchedEvents.length + 1) <
      (2 * db.matchedEvents.length - 18) * (2 ^ 63 - 1) := by
  obtain ⟨least, fires⟩ := fires
  obtain ⟨columns, after, isMatched, amount, recorded, fresh⟩ :=
    exists_recordable db Int64.maxValue 0
  have most : least ≤ columns.amountMinor := by
    rw [amount]
    exact Int64.le_maxValue least
  have range : columns.amountMinor.toInt = 2 ^ 63 - 1 := by
    rw [amount]
    decide
  have nonneg := sum_nonneg_of_positive positive
  obtain ⟨listed, member, same⟩ :=
    exists_mem_of_flagged (fires columns 0 after isMatched most recorded)
  have alone : listed = columns.row 0 := by
    obtain ⟨smsEvents, stored, _, rfl⟩ := Db.insertSmsEvent_ok recorded
    refine ((Table.mem_insert? stored).mp (mem_smsEvents_of_mem_outliers member)).resolve_left ?_
    exact fun old => fresh listed old same
  rw [alone, mem_outliers_recorded enough isMatched recorded (by omega), range] at member
  exact member

/-- The rule can report a further amount exactly if it would report the largest
one. It takes ten earlier messages for that, whatever they amount to. -/
theorem canFire_iff {db : Db} (positive : ∀ event ∈ db.matchedEvents, 0 < event.amountMinor)
    (enough : minSampleForAmount ≤ db.matchedEvents.length) :
    CanFire db ↔ 20 * db.matchedAmounts.sum + (db.matchedEvents.length + 1) <
      (2 * db.matchedEvents.length - 18) * (2 ^ 63 - 1) := by
  refine ⟨below_of_canFire positive enough, fun below => ⟨Int64.maxValue, ?_⟩⟩
  intro columns now after isMatched most recorded
  have range : columns.amountMinor.toInt = 2 ^ 63 - 1 := by
    rw [Int64.le_antisymm (Int64.le_maxValue _) most]
    decide
  have nonneg := sum_nonneg_of_positive positive
  refine flagged_of_mem ((mem_outliers_recorded enough isMatched recorded (by omega)).mpr ?_)
  rw [range]
  exact below

/-- Customers who each pay 500 taka for an order of their own. -/
def customers (uuids : List String) : List Request :=
  uuids.flatMap fun uuid =>
    [anonymousOrder uuid, (paidBy uuid ("TRX" ++ uuid) "01711111111").request]

def fivePaid : Db := sampleService.serve (customers ["1", "2", "3", "4", "5"]) Db.empty

def tenPaid : Db :=
  sampleService.serve (customers ["1", "2", "3", "4", "5", "6", "7", "8", "9", "10"]) Db.empty

/-- What there is to know of messages that all carry one amount. -/
theorem even_history {db : Db} {count : Nat} {amount : Int64} (positive : 0 < amount)
    (amounts : db.matchedEvents.map (·.amountMinor) = List.replicate count amount) :
    (∀ event ∈ db.matchedEvents, 0 < event.amountMinor) ∧ db.matchedEvents.length = count ∧
      db.matchedAmounts.sum = count * amount.toInt := by
  refine ⟨fun event member => ?_, ?_, ?_⟩
  · have listed : event.amountMinor ∈ db.matchedEvents.map (·.amountMinor) :=
      List.mem_map.mpr ⟨event, member, rfl⟩
    rw [amounts] at listed
    rwa [List.eq_of_mem_replicate listed]
  · simpa using congrArg List.length amounts
  · have whole : db.matchedAmounts =
        (db.matchedEvents.map (·.amountMinor)).map Int64.toInt := by
      rw [Db.matchedAmounts, List.map_map]
      rfl
    rw [whole, amounts, List.map_replicate, List.sum_replicate, nsmul_eq_mul]

theorem canFire_iff_sample : CanFire tenPaid := by
  have amounts : tenPaid.matchedEvents.map (·.amountMinor) = List.replicate 10 50000 := by
    decide +kernel
  obtain ⟨positive, count, total⟩ := even_history (by decide) amounts
  refine (canFire_iff positive (by rw [count]; decide)).mpr ?_
  rw [count, total]
  decide

/-- After five ordinary payments no further one is reported, whatever it amounts to. -/
theorem jackpot_unnoticed : (∃ calls, History sampleService Db.empty calls fivePaid) ∧
    (∀ event ∈ fivePaid.matchedEvents, 0 < event.amountMinor) ∧
    fivePaid.matchedEvents.length = 5 ∧ ¬CanFire fivePaid := by
  obtain ⟨calls, history, _⟩ := (History.start :
    History sampleService Db.empty [] Db.empty).serve_all (customers ["1", "2", "3", "4", "5"])
  have amounts : fivePaid.matchedEvents.map (·.amountMinor) = List.replicate 5 50000 := by
    decide +kernel
  obtain ⟨positive, count, total⟩ := even_history (by decide) amounts
  refine ⟨⟨calls, history⟩, positive, count, fun fires => ?_⟩
  have below := below_of_canFire positive (by rw [count]; decide) fires
  rw [count, total] at below
  exact absurd below (by decide)

end SpritexPay.Fraud
