import SpritexPay.Fraud
import SpritexPay.PairingProperties
import SpritexPay.RaceProperties

/-! The sender rule against the matcher. The scan compares the texts of two
numbers, the matcher their last ten digits; they agree as long as every message
that was recorded for a charge wrote the number the way the charge declares it,
or wrote another number. -/

set_option autoImplicit false

namespace SpritexPay

open Relational Resumption

namespace Fraud

/-- The messages above the threshold of the amount rule, while it is enabled. -/
def outliers (db : Db) : List SmsEvent :=
  if db.matchedAverage.1 < minSampleForAmount then []
  else db.matchedAbove (threshold db.matchedAverage.2)

def report (db : Db) : FraudReport :=
  let anomalies := db.sharedTxids.map sharedTxid ++ db.differingSenders.map senderMismatch ++
    (outliers db).map fun event =>
      amountAnomaly db.matchedAverage.2 (event.txnId, event.amountMinor)
  { anomalyCount := anomalies.length, anomalies }

section Runs

variable {db after : Db}

theorem runs_select {Value : Type} {op : Select} {rest : op.Answer → Scan Value}
    {outcome : Except SqlError Value}
    (runs : sqlite.Runs (select op >>= rest).run db outcome after) :
    sqlite.Runs (rest (op.rows db)).run db outcome after :=
  runs_query_bind (fun _ => rfl) runs

theorem runs_duplicateTxids {outcome : Except SqlError (List Anomaly)}
    (runs : sqlite.Runs duplicateTxids.run db outcome after) :
    outcome = .ok (db.sharedTxids.map sharedTxid) ∧ after = db :=
  Machine.runs_done_iff.mp (runs_select runs)

theorem runs_senderMismatches {outcome : Except SqlError (List Anomaly)}
    (runs : sqlite.Runs senderMismatches.run db outcome after) :
    outcome = .ok (db.differingSenders.map senderMismatch) ∧ after = db :=
  Machine.runs_done_iff.mp (runs_select runs)

theorem runs_amountOutliers {outcome : Except SqlError (List Anomaly)}
    (runs : sqlite.Runs amountOutliers.run db outcome after) :
    outcome = .ok ((outliers db).map fun event =>
      amountAnomaly db.matchedAverage.2 (event.txnId, event.amountMinor)) ∧ after = db := by
  have averaged : sqlite.Runs (if db.matchedAverage.1 < minSampleForAmount then pure []
      else select (.matchedAbove (threshold db.matchedAverage.2)) >>= fun rows =>
        pure (rows.map (amountAnomaly db.matchedAverage.2)) : Scan (List Anomaly)).run db outcome
      after := runs_select runs
  by_cases few : db.matchedAverage.1 < minSampleForAmount
  · rw [if_pos few] at averaged
    rw [outliers, if_pos few]
    exact Machine.runs_done_iff.mp averaged
  · rw [if_neg few] at averaged
    rw [outliers, if_neg few]
    have ended := Machine.runs_done_iff.mp (runs_select averaged)
    rwa [Select.rows, List.map_map] at ended

/-- The scan of a state that nothing else writes in the meantime. -/
theorem runs_scan {outcome : Except SqlError FraudReport}
    (runs : sqlite.Runs scan.run db outcome after) : outcome = .ok (report db) ∧ after = db := by
  have shared := runs_bind_of_ends runs_duplicateTxids runs
  have mismatches := runs_bind_of_ends runs_senderMismatches shared
  have outlying := runs_bind_of_ends runs_amountOutliers mismatches
  exact Machine.runs_done_iff.mp outlying

end Runs

/-! ## The sender rule -/

/-- Two numbers that the matcher takes for one are the same text. -/
def Alike (sender declared : Option String) : Prop :=
  ∀ got expected, sender = some got → declared = some expected →
    Sms.normalizeMsisdn got = Sms.normalizeMsisdn expected → got = expected

def PaidByOther (event : SmsEvent) (charge : Charge) : Prop :=
  ∃ got expected, event.senderMsisdn = some got ∧ charge.customerMsisdn = some expected ∧
    Sms.normalizeMsisdn got ≠ Sms.normalizeMsisdn expected

/-- The scan agrees with the matcher on who paid. -/
structure Agrees (db : Db) (report : FraudReport) : Prop where
  mismatched : ∀ charge ∈ db.charges,
    (∃ anomaly ∈ report.anomalies,
      anomaly.kind = "sender_mismatch" ∧ anomaly.chargeId = some charge.id) ↔
    ∃ event ∈ db.smsEvents, event.chargeId = some charge.id ∧ PaidByOther event charge
  /-- What the matcher attributes by its sender number is not reported. -/
  attributed : ∀ event ∈ db.smsEvents, ∀ charge ∈ db.charges, event.chargeId = some charge.id →
    ∀ got expected, event.senderMsisdn = some got → charge.customerMsisdn = some expected →
      Sms.declares (Sms.normalizeMsisdn got) (charge.id, charge.customerMsisdn) = true →
        senderMismatch (charge.id, got, expected) ∉ report.anomalies

variable {db : Db}

theorem mem_differingSenders {chargeId got expected : String} :
    (chargeId, got, expected) ∈ db.differingSenders ↔
      ∃ event ∈ db.smsEvents, ∃ charge ∈ db.charges, event.chargeId = some charge.id ∧
        charge.id = chargeId ∧ event.senderMsisdn = some got ∧
        charge.customerMsisdn = some expected ∧ got ≠ expected := by
  simp only [Db.differingSenders, List.mem_flatMap, List.mem_filterMap, List.mem_filter,
    beq_iff_eq, Table.mem_rows]
  constructor
  · rintro ⟨event, recorded, charge, ⟨member, reference⟩, row⟩
    split at row
    · rename_i sent declared sender customer
      split at row
      · cases row
      · rename_i differ
        cases row
        exact ⟨event, recorded, charge, member, reference, rfl, sender, customer, differ⟩
    · cases row
  · rintro ⟨event, recorded, charge, member, reference, rfl, sender, customer, differ⟩
    exact ⟨event, recorded, charge, ⟨member, reference⟩, by simp [sender, customer, differ]⟩

theorem mismatch_mem_report {anomaly : Anomaly} (kind : anomaly.kind = "sender_mismatch") :
    anomaly ∈ (report db).anomalies ↔
      ∃ row ∈ db.differingSenders, senderMismatch row = anomaly := by
  simp only [report, List.mem_append, List.mem_map]
  constructor
  · rintro ((⟨row, _, rfl⟩ | listed) | ⟨event, _, rfl⟩)
    · simp [sharedTxid] at kind
    · exact listed
    · simp [amountAnomaly] at kind
  · exact fun listed => .inl (.inr listed)

/-- The charge declares the sender of the message as it is, or another number. -/
def PaidAlike (db : Db) (sender chargeId : Option String) : Prop :=
  ∀ charge ∈ db.charges, chargeId = some charge.id → Alike sender charge.customerMsisdn

def AllAlike (db : Db) : Prop :=
  ∀ event ∈ db.smsEvents, PaidAlike db event.senderMsisdn event.chargeId

theorem agrees_iff : Agrees db (report db) ↔ AllAlike db := by
  constructor
  · intro agrees event recorded charge member reference got expected sender customer same
    by_contra differ
    have declares : Sms.declares (Sms.normalizeMsisdn got) (charge.id, charge.customerMsisdn) =
        true := by
      simp [Sms.declares, customer, same]
    refine agrees.attributed event recorded charge member reference got expected sender customer
      declares ((mismatch_mem_report rfl).mpr ⟨_, ?_, rfl⟩)
    exact mem_differingSenders.mpr
      ⟨event, recorded, charge, member, reference, rfl, sender, customer, differ⟩
  · intro alike
    refine ⟨fun charge member => ⟨?_, ?_⟩, ?_⟩
    · rintro ⟨anomaly, listed, kind, names⟩
      obtain ⟨⟨chargeId, got, expected⟩, row, rfl⟩ := (mismatch_mem_report kind).mp listed
      obtain ⟨event, recorded, other, otherMember, reference, id, sender, customer, differ⟩ :=
        mem_differingSenders.mp row
      have same : chargeId = charge.id := Option.some.inj names
      obtain rfl := Db.eq_of_charge_id otherMember member (id.trans same)
      exact ⟨event, recorded, reference, got, expected, sender, customer,
        fun normal => differ (alike event recorded other member reference got expected sender
          customer normal)⟩
    · rintro ⟨event, recorded, reference, got, expected, sender, customer, differ⟩
      have apart : got ≠ expected := fun same => differ (congrArg Sms.normalizeMsisdn same)
      refine ⟨senderMismatch (charge.id, got, expected),
        (mismatch_mem_report rfl).mpr ⟨_, ?_, rfl⟩, rfl, rfl⟩
      exact mem_differingSenders.mpr
        ⟨event, recorded, charge, member, reference, rfl, sender, customer, apart⟩
    · intro event recorded charge member reference got expected sender customer declares listed
      obtain ⟨row, listed, same⟩ := (mismatch_mem_report rfl).mp listed
      obtain ⟨paying, paid, other, otherMember, otherReference, id, sent, declared, differ⟩ :=
        mem_differingSenders.mp listed
      have names : row.1 = charge.id := Option.some.inj (congrArg Anomaly.chargeId same)
      obtain rfl := Db.eq_of_charge_id otherMember member (id.trans names)
      have texts : row.2.2 = expected := Option.some.inj (declared.symm.trans customer)
      have detail := congrArg Anomaly.detail same
      simp only [senderMismatch, texts] at detail
      rw [String.append_left_inj, String.append_left_inj, String.append_right_inj] at detail
      have normal : Sms.normalizeMsisdn expected = Sms.normalizeMsisdn got := by
        simpa [Sms.declares, customer] using declares
      have written := alike event recorded other member reference got expected sender customer
        normal.symm
      exact differ (detail.trans (written.trans texts.symm))

/-! ## Runs -/

/-- The charges that messages were recorded for exist. -/
def Linked (db : Db) : Prop := ∀ event ∈ db.smsEvents, event.chargeId.all db.hasCharge = true

/-- If the step records a message, it is paid from the number that its charge
declares, spelled alike, or from another one. -/
def RecordsAlike (act : Act SpritexPay.signature Db) : Prop :=
  ∀ columns after, act = ⟨.insertSmsEvent columns, .ok (), act.before, after⟩ →
    PaidAlike act.before columns.senderMsisdn columns.chargeId

section Steps

variable {before after : Db} {sender chargeId : Option String}

theorem paidAlike_evolves (evolved : before.Evolves after)
    (known : chargeId.all before.hasCharge = true) :
    PaidAlike after sender chargeId ↔ PaidAlike before sender chargeId := by
  constructor
  · rintro alike charge member rfl
    obtain ⟨later, laterMember, grown⟩ := evolved.charges.mem member
    rw [← grown.customerMsisdn]
    exact alike later laterMember (congrArg some grown.id.symm)
  · rintro alike charge member rfl
    obtain ⟨old, oldMember, id⟩ := Db.hasCharge_iff.mp known
    obtain ⟨later, laterMember, grown⟩ := evolved.charges.mem oldMember
    obtain rfl := Db.eq_of_charge_id laterMember member (grown.id.trans id)
    rw [grown.customerMsisdn]
    exact alike old oldMember (congrArg some id.symm)

variable {faults : Bool} {op : Statement} {reply : SpritexPay.signature.Reply op}

/-- A statement records a message, or leaves the recorded messages as they are. -/
theorem reply_records_cases (replied : SpritexPay.sqlite.Replies faults op before reply after) :
    (∃ columns now smsEvents, (⟨op, reply, before, after⟩ : Act SpritexPay.signature Db) =
        ⟨.insertSmsEvent columns, .ok (), before, { before with smsEvents }⟩ ∧
      before.smsEvents.insert? (columns.row now) = some smsEvents ∧
      columns.chargeId.all before.hasCharge = true) ∨
    after.smsEvents = before.smsEvents ∧ RecordsAlike ⟨op, reply, before, after⟩ := by
  by_cases recording : ∃ columns, op = .insertSmsEvent columns
  · obtain ⟨columns, rfl⟩ := recording
    rcases reply_insertSmsEvent replied with ⟨now, smsEvents, rfl, stored, known, rfl⟩ |
      ⟨rfl, error, rfl⟩
    · exact .inl ⟨columns, now, smsEvents, rfl, stored, known⟩
    · refine .inr ⟨rfl, fun other _ same => ?_⟩
      cases same
  · refine .inr ⟨smsEvents_reply replied fun columns same => recording ⟨columns, same⟩, ?_⟩
    intro columns _ same
    exact absurd ⟨columns, congrArg Act.op same⟩ recording

theorem linked_reply (linked : Linked before)
    (replied : SpritexPay.sqlite.Replies faults op before reply after) : Linked after := by
  have evolved := evolves_reply replied
  rcases reply_records_cases replied with ⟨columns, now, smsEvents, same, stored, known⟩ |
    ⟨same, _⟩
  · cases same
    refine Table.forall_mem_insert? linked ?_ stored
    exact known
  · intro event member
    rw [same] at member
    have known := linked event member
    cases reference : event.chargeId with
    | none => rfl
    | some chargeId =>
        rw [reference] at known
        exact evolved.hasCharge known

theorem allAlike_reply (linked : Linked before)
    (replied : SpritexPay.sqlite.Replies faults op before reply after) :
    AllAlike after ↔ AllAlike before ∧ RecordsAlike ⟨op, reply, before, after⟩ := by
  rcases reply_records_cases replied with ⟨columns, now, smsEvents, same, stored, _⟩ |
    ⟨same, silent⟩
  · cases same
    constructor
    · intro alike
      refine ⟨fun event member => ?_, fun other _ same => ?_⟩
      · exact alike event ((Table.mem_insert? stored).mpr (.inl member))
      · cases same
        exact alike _ ((Table.mem_insert? stored).mpr (.inr rfl))
    · intro both
      refine Table.forall_mem_insert? both.1 ?_ stored
      exact both.2 columns _ rfl
  · rw [and_iff_left silent, AllAlike, same]
    exact forall₂_congr fun event member =>
      paidAlike_evolves (evolves_reply replied) (linked event member)

end Steps

section Pool

variable {Thread Value : Type} [DecidableEq Thread] {faults : Bool}
  {start config : Config SpritexPay.signature Db Thread Value}
  {past : List (Event SpritexPay.signature Db Thread Value)}

theorem allAlike_run (linked : Linked start.store)
    (run : Run SpritexPay.sqlite faults start past config) :
    Linked config.store ∧
      (AllAlike config.store ↔ AllAlike start.store ∧ ∀ event ∈ past, RecordsAlike event.act) := by
  induction run with
  | start => exact ⟨linked, by simp⟩
  | step earlier waiting replied ih =>
      obtain ⟨linkedBefore, alike⟩ := ih
      refine ⟨linked_reply linkedBefore replied, ?_⟩
      rw [allAlike_reply linkedBefore replied, alike, List.forall_mem_cons, and_assoc,
        and_comm (b := RecordsAlike _)]

end Pool

/-- In every reachable state the scan agrees with the matcher on who paid,
exactly if every message recorded on the way there was paid from the number that
its charge declares, spelled alike, or from another one. -/
theorem scan_agrees_iff {Thread : Type} [DecidableEq Thread] {service : Service} {faults : Bool}
    {requests : Thread → Request} {past : List (Event SpritexPay.signature Db Thread Response)}
    {config : Config SpritexPay.signature Db Thread Response}
    (run : Run SpritexPay.sqlite faults (service.pool Db.empty requests) past config)
    {outcome : Except SqlError FraudReport} {after : Db}
    (scans : sqlite.Runs scan.run config.store outcome after) :
    (∃ report, outcome = .ok report ∧ Agrees config.store report) ↔
      ∀ event ∈ past, RecordsAlike event.act := by
  obtain ⟨rfl, rfl⟩ := runs_scan scans
  have empty : AllAlike Db.empty := by simp [AllAlike, Db.empty]
  have linked : Linked Db.empty := by simp [Linked, Db.empty]
  obtain ⟨_, alike⟩ := allAlike_run linked run
  constructor
  · rintro ⟨report, same, agrees⟩
    cases same
    exact (alike.mp (agrees_iff.mp agrees)).2
  · intro records
    exact ⟨report _, rfl, agrees_iff.mpr (alike.mpr ⟨empty, records⟩)⟩

/-- A customer declares a number, another one of the same amount declares theirs,
and the first one pays from `01711111111`. -/
def declaringFirst (declared : String) : Fin 3 → Request
  | 0 => orderBy "1" declared
  | 1 => orderBy "2" "01722222222"
  | 2 => firstPayment.request

def declaredFirst (declared : String) : Config SpritexPay.signature Db (Fin 3) Response :=
  (sampleService.pool Db.empty (declaringFirst declared)).schedule SpritexPay.sqlite sampleEnv
    [0, 0, 1, 1, 2, 2]

theorem runs_report (db : Db) : sqlite.Runs scan.run db (.ok (report db)) db := by
  have scans := sqlite.runs_run scan.run (fun _ => sampleEnv) db
  obtain ⟨ended, unchanged⟩ := runs_scan scans
  rwa [ended, unchanged] at scans

theorem scan_agrees_iff_sample : Agrees (declaredFirst "01711111111").store
    (report (declaredFirst "01711111111").store) := by
  have run := Run.scheduled SpritexPay.sqlite false
    (sampleService.pool Db.empty (declaringFirst "01711111111")) sampleEnv [0, 0, 1, 1, 2, 2]
  have same : ∀ event ∈ (declaredFirst "01711111111").store.smsEvents,
      event.senderMsisdn = some "01711111111" ∧ event.chargeId = some "chg_1" := by decide +kernel
  have declared : ∀ charge ∈ (declaredFirst "01711111111").store.charges,
      charge.id = "chg_1" → charge.customerMsisdn = some "01711111111" := by decide +kernel
  have alike : AllAlike (declaredFirst "01711111111").store := by
    intro event recorded charge member reference got expected sender customer _
    obtain ⟨sent, matched⟩ := same event recorded
    have number := declared charge member (Option.some.inj (reference.symm.trans matched))
    exact Option.some.inj (sender.symm.trans (sent.trans (number.symm.trans customer)))
  have linked : Linked Db.empty := by simp [Linked, Db.empty]
  obtain ⟨_, steps⟩ := allAlike_run linked run
  obtain ⟨found, ended, agrees⟩ :=
    (scan_agrees_iff run (runs_report _)).mpr (steps.mp alike).2
  cases ended
  exact agrees

/-- A payment that is attributed by its sender is reported as paid by another. -/
theorem attributed_payment_reported : ∃ past config,
    Run SpritexPay.sqlite false (sampleService.pool Db.empty (declaringFirst "+8801711111111"))
      past config ∧
    sqlite.Runs scan.run config.store (.ok (report config.store)) config.store ∧
    (∃ event ∈ config.store.smsEvents, event.chargeId = some "chg_1" ∧
      event.senderMsisdn = some "01711111111") ∧
    Sms.normalizeMsisdn "01711111111" = Sms.normalizeMsisdn "+8801711111111" ∧
    senderMismatch ("chg_1", "01711111111", "+8801711111111") ∈ (report config.store).anomalies ∧
    ¬Agrees config.store (report config.store) := by
  have run := Run.scheduled SpritexPay.sqlite false
    (sampleService.pool Db.empty (declaringFirst "+8801711111111")) sampleEnv [0, 0, 1, 1, 2, 2]
  have recorded : ∃ event ∈ (declaredFirst "+8801711111111").store.smsEvents,
      event.chargeId = some "chg_1" ∧ event.senderMsisdn = some "01711111111" := by decide +kernel
  have declared : ∃ charge ∈ (declaredFirst "+8801711111111").store.charges,
      charge.id = "chg_1" ∧ charge.customerMsisdn = some "+8801711111111" := by decide +kernel
  have listed : ("chg_1", "01711111111", "+8801711111111") ∈
      (declaredFirst "+8801711111111").store.differingSenders := by decide +kernel
  have reported := (mismatch_mem_report rfl).mpr ⟨_, listed, rfl⟩
  have declares : Sms.declares (Sms.normalizeMsisdn "01711111111")
      ("chg_1", some "+8801711111111") = true := by decide +kernel
  refine ⟨_, _, run, runs_report _, recorded, by decide +kernel, reported, fun agrees => ?_⟩
  obtain ⟨event, eventMember, reference, sender⟩ := recorded
  obtain ⟨charge, chargeMember, id, customer⟩ := declared
  refine agrees.attributed event eventMember charge chargeMember (by rw [reference, id]) _ _ sender
    customer (by rwa [customer, id]) ?_
  rw [id]
  exact reported

end Fraud

end SpritexPay
