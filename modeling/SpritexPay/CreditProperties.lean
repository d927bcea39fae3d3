import SpritexPay.SettlementSafety

/-! No credit without a payment. Whatever the requests of a pool are, however
their statements interleave and wherever they fail or stop, a posting is backed
by a recorded message of the same amount, and only the message that recorded it
flips the status of the charge. -/

set_option autoImplicit false

namespace SpritexPay

open Relational Resumption

structure Db.Backed (db : Db) : Prop where
  sound : db.Sound
  credited : ∀ chargeId, db.postings chargeId ≤ db.settlements chargeId

theorem Db.backed_empty : Db.empty.Backed where
  sound := Db.sound_empty
  credited := fun _ => le_rfl

theorem flip_of_newly_paid {faults : Bool} {op : Statement} {before after : Db}
    {reply : signature.Reply op} {chargeId : String}
    (replied : sqlite.Replies faults op before reply after) (paid : after.isPaid chargeId)
    (unpaid : ¬before.isPaid chargeId) : op = .setChargePaid chargeId := by
  cases crediting : op.crediting with
  | false => exact absurd ((quiet_reply crediting replied).isPaid chargeId paid) unpaid
  | true =>
      cases op with
      | setChargePaid id =>
          rcases reply_setChargePaid replied with ⟨now, _, rfl⟩ | ⟨_, rfl, _⟩
          · rcases Db.isPaid_setChargePaid.mp paid with old | ⟨rfl, _⟩
            · exact absurd old unpaid
            · rfl
          · exact absurd paid unpaid
      | insertSmsEvent columns =>
          obtain ⟨_, rfl⟩ := reply_differsAt replied
          exact absurd paid unpaid
      | ledgerTransaction writes =>
          obtain ⟨_, _, rfl⟩ := reply_differsAt replied
          exact absurd paid unpaid
      | _ => cases crediting

section Pool

variable {Thread : Type} [DecidableEq Thread] {service : Service} {db : Db}
  {requests : Thread → Request} {faults : Bool}
  {past : List (Event signature Db Thread Response)}
  {config : Config signature Db Thread Response}

/-- What a message has seen of a charge it is about to flip. -/
theorem flipped_was_pending {newer older : List (Event signature Db Thread Response)}
    {event : Event signature Db Thread Response} {chargeId : String}
    (run : Run sqlite faults (service.pool db requests) (newer ++ event :: older) config)
    (saw : SawPending chargeId (log older event.thread)) {charge : Charge}
    (member : charge ∈ event.act.before.charges) (id : charge.id = chargeId)
    (unpaid : charge.status ≠ .paid) : charge.status = .pending := by
  obtain ⟨act, actMember, seen, seenMember, seenId, pending⟩ := saw
  obtain ⟨earlier, earlierMember, _, rfl⟩ := mem_log_iff.mp actMember
  obtain ⟨middle, _, olderRun, store, _⟩ := run.event_cases
  have evolved : earlier.act.after.Evolves event.act.before := by
    rw [← store]
    exact olderRun.store_relates_event Db.Evolves.refl Db.Evolves.trans evolves_apply earlierMember
  obtain ⟨later, laterMember, grown⟩ := evolved.charges.mem seenMember
  have same : charge = later := Db.eq_of_charge_id member laterMember (by rw [id, grown.id, seenId])
  subst same
  rcases grown.status with kept | paid
  · rw [kept, pending]
  · exact absurd paid unpaid

variable [Fintype Thread]

theorem pool_holds (run : Run sqlite faults (service.pool db requests) past config) :
    ∃ flights, Holds db (FreshLedger requests db) config.store flights := by
  obtain ⟨shares, holds, _⟩ := pool_safe run
  exact ⟨_, holds⟩

theorem pool_backed (backed : db.Backed)
    (run : Run sqlite faults (service.pool db requests) past config) : config.store.Backed := by
  obtain ⟨flights, holds⟩ := pool_holds run
  refine ⟨holds.sound backed.sound, fun chargeId => ?_⟩
  have credited := holds.credited chargeId
  have before := backed.credited chargeId
  omega

theorem charge_step {newer older : List (Event signature Db Thread Response)}
    {event : Event signature Db Thread Response}
    (run : Run sqlite faults (service.pool db requests) (newer ++ event :: older) config)
    {charge : Charge} (member : charge ∈ event.act.before.charges) :
    ∃ later ∈ event.act.after.charges, later.id = charge.id ∧
      later.amountMinor = charge.amountMinor ∧ later.currency = charge.currency ∧
      (later.status = charge.status ∨ charge.status = .pending ∧ later.status = .paid ∧
        (requests event.thread).isIngest = true ∧
        RecordedFor charge.id (log older event.thread)) := by
  obtain ⟨_, _, _, _, _, _, replied, _⟩ := run.event_cases
  obtain ⟨later, laterMember, grown⟩ := (evolves_reply replied).charges.mem member
  refine ⟨later, laterMember, grown.id, grown.amountMinor, grown.currency, ?_⟩
  rcases grown.status with same | paid
  · exact .inl same
  by_cases already : charge.status = .paid
  · exact .inl (paid.trans already.symm)
  have unpaid : ¬event.act.before.isPaid charge.id := by
    rintro ⟨other, otherMember, id, otherPaid⟩
    rw [Db.eq_of_charge_id otherMember member id] at otherPaid
    exact already otherPaid
  have flip := flip_of_newly_paid replied ⟨later, laterMember, grown.id, paid⟩ unpaid
  have initial : (settlement service faults db (FreshLedger requests db) requests).PoolSafe faults
    [] (service.pool db requests) := pool_safe_start
  obtain ⟨share, owned⟩ := Protocol.run_owns_event initial (fun _ _ => trivial) run
  obtain ⟨ingests, recorded, saw⟩ := owned.pays charge.id (by rw [flip])
  exact .inr ⟨flipped_was_pending run saw member rfl already, paid, ingests, recorded⟩

end Pool

/-- Of the two entries only the debit is on the account of the merchant. -/
theorem Charge.debit_of_settlement {charge : Charge} {entry : Entry} :
    entry ∈ settlementEntries charge ∧ entry.account = "merchant:receivable" ↔
      entry = ⟨"merchant:receivable", charge.amountMinor, charge.currency⟩ := by
  simp only [settlementEntries, List.mem_cons, List.not_mem_nil, or_false]
  constructor
  · rintro ⟨rfl | rfl, account⟩
    · rfl
    · exact absurd account (by simp [Entry.credit, customerClearing])
  · rintro rfl
    exact ⟨.inl rfl, rfl⟩

/-- In every reachable state of every pool, a charge has no more postings than
matched messages, which carry its amount and that of the debit posted, and a paid charge
has a posting. Its amount and currency never change, and its status only goes from pending
to paid, by a message that recorded such an event. -/
theorem no_credit_without_payment {Thread : Type} [DecidableEq Thread] [Fintype Thread]
    {service : Service} {db : Db} {requests : Thread → Request}
    {past : List (Event signature Db Thread Response)}
    {config : Config signature Db Thread Response} (backed : db.Backed)
    (run : Run sqlite true (service.pool db requests) past config) :
    (∀ chargeId, config.store.postings chargeId ≤ config.store.settlements chargeId) ∧
    (∀ event ∈ config.store.smsEvents, event.matched = true →
      ∃ charge ∈ config.store.charges, event.chargeId = some charge.id ∧
        event.amountMinor = charge.amountMinor ∧
        ∀ txn ∈ config.store.ledgerTransactions, txn.reference = charge.id →
          config.store.entriesOf txn.id = Charge.settlementEntries charge ∧
          ∀ entry, entry ∈ config.store.entriesOf txn.id ∧ entry.account = "merchant:receivable" ↔
            entry = ⟨"merchant:receivable", event.amountMinor, charge.currency⟩) ∧
    (∀ charge ∈ config.store.charges, charge.status = .paid →
      ∃ txn ∈ config.store.ledgerTransactions, txn.reference = charge.id) ∧
    ∀ newer event older, past = newer ++ event :: older →
      ∀ charge ∈ event.act.before.charges, ∃ later ∈ event.act.after.charges,
        later.id = charge.id ∧ later.amountMinor = charge.amountMinor ∧
        later.currency = charge.currency ∧
        (later.status = charge.status ∨ charge.status = .pending ∧ later.status = .paid ∧
          (requests event.thread).isIngest = true ∧
          RecordedFor charge.id (log older event.thread)) := by
  obtain ⟨sound, credited⟩ := pool_backed backed run
  refine ⟨credited, ?_, ?_, ?_⟩
  · intro event member isMatched
    obtain ⟨charge, chargeMember, reference, amount⟩ := sound.matchedCharge event member isMatched
    refine ⟨charge, chargeMember, reference, amount, fun txn txnMember same => ?_⟩
    obtain ⟨owner, ownerMember, owned, entries⟩ := sound.posted txn txnMember
    have posted : config.store.entriesOf txn.id = Charge.settlementEntries charge := by
      rw [entries, Db.eq_of_charge_id ownerMember chargeMember (owned.symm.trans same)]
    refine ⟨posted, fun entry => ?_⟩
    rw [posted, amount]
    exact Charge.debit_of_settlement
  · intro charge member paid
    obtain ⟨txn, txnMember, reference⟩ :=
      Table.count_pos_iff.mp (sound.paid charge.id ⟨charge, member, rfl, paid⟩)
    exact ⟨txn, txnMember, by simpa using reference⟩
  · rintro newer event older rfl charge member
    exact charge_step run member

def orderAndPayment : Bool → Request
  | false => sampleOrder
  | true => samplePayment "a" "TRXA"

theorem no_credit_without_payment_sample : ∃ past config,
    Run sqlite true (sampleService.pool Db.empty orderAndPayment) past config ∧
      config.store.postings "chg_1" = 1 ∧ 1 ≤ config.store.settlements "chg_1" := by
  have run := Run.scheduled sqlite true (sampleService.pool Db.empty orderAndPayment)
    sampleEnv [false, false, true, true, true, true]
  have posted : ((sampleService.pool Db.empty orderAndPayment).schedule sqlite sampleEnv
      [false, false, true, true, true, true]).store.postings "chg_1" = 1 := by decide +kernel
  refine ⟨_, _, run, posted, ?_⟩
  exact posted.symm.le.trans ((no_credit_without_payment Db.backed_empty run).1 "chg_1")

end SpritexPay
