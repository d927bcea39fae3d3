import SpritexPay.CreditProperties
import SpritexPay.ReplayProperties
import SpritexPay.Steadiness

/-! How often a charge is settled. Matching, recording and settling are separate
statements, and nothing but the order in which they happen to run keeps two
payments from being recorded for one charge. -/

set_option autoImplicit false

namespace SpritexPay

open Relational Resumption

namespace Db

/-- Charges to be paid, and no money so far. -/
structure Unpaid (db : Db) : Prop where
  smsEvents : db.smsEvents = ∅
  ledgerTransactions : db.ledgerTransactions = ∅
  ledgerEntries : db.ledgerEntries = []
  pending : ∀ charge ∈ db.charges, charge.status = .pending

variable {db : Db}

theorem Unpaid.backed (unpaid : db.Unpaid) : db.Backed where
  sound := {
    matchedCharge := by simp [unpaid.smsEvents]
    posted := by simp [unpaid.ledgerTransactions]
    entryTxn := by simp [unpaid.ledgerEntries]
    paid := by
      rintro _ ⟨charge, member, _, paid⟩
      rw [unpaid.pending charge member] at paid
      cases paid }
  credited := fun chargeId => by simp [postings, unpaid.ledgerTransactions, Table.count]

theorem Unpaid.settlements (unpaid : db.Unpaid) (chargeId : String) :
    db.settlements chargeId = 0 := by simp [Db.settlements, unpaid.smsEvents, Table.count]

end Db

theorem settlements_of_recordable {op : Statement} {columns : NewSmsEvent} {before after : Db}
    {reply : signature.Reply op} {chargeId : String} (recording : op = .insertSmsEvent columns)
    (isMatched : columns.matched = true) (reference : columns.chargeId = some chargeId)
    (recordable : before.recordable columns)
    (replied : sqlite.Replies false op before reply after) :
    after.settlements chargeId = before.settlements chargeId + 1 := by
  subst recording
  cases replied with
  | fault allowed => cases allowed
  | commit env =>
      obtain ⟨smsEvents, stored, inserted⟩ := Db.insertSmsEvent_recordable recordable env.now
      have executed : sqlite.exec env (.insertSmsEvent columns) before =
          .ok ((), { before with smsEvents }) := by
        rw [exec_insertSmsEvent, inserted]
        rfl
      rw [congrArg Prod.snd (Machine.apply_ok executed), Db.settlements_record stored]
      simp [Db.settles, NewSmsEvent.row, reference, isMatched]

theorem smsEvents_reply {faults : Bool} {op : Statement} {before after : Db}
    {reply : signature.Reply op} (replied : sqlite.Replies faults op before reply after)
    (other : ∀ columns, op ≠ .insertSmsEvent columns) : after.smsEvents = before.smsEvents := by
  cases crediting : op.crediting with
  | false => exact (quiet_reply crediting replied).smsEvents
  | true =>
      cases op with
      | insertSmsEvent columns => exact absurd rfl (other columns)
      | ledgerTransaction writes =>
          obtain ⟨_, _, rfl⟩ := reply_differsAt replied
          rfl
      | setChargePaid id =>
          obtain ⟨_, rfl⟩ := reply_differsAt replied
          rfl
      | _ => cases crediting

/-! ## Charges to be paid -/

namespace Db

theorem unpaid_empty : Db.empty.Unpaid := ⟨rfl, rfl, rfl, by simp [Db.empty]⟩

theorem Unpaid.steady {before after : Db} (unpaid : before.Unpaid) (steady : before.Steady after) :
    after.Unpaid where
  smsEvents := steady.smsEvents.trans unpaid.smsEvents
  ledgerTransactions := steady.ledgerTransactions.trans unpaid.ledgerTransactions
  ledgerEntries := steady.ledgerEntries.trans unpaid.ledgerEntries
  pending := fun charge member => by
    rcases steady.charges.source member with ⟨old, oldMember, kept⟩ | pending
    · exact kept.isPending (unpaid.pending old oldMember)
    · exact pending

theorem Unpaid.history {service : Service} {start db : Db} {past : List Call}
    (unpaid : start.Unpaid) (history : History service start past db)
    (others : ∀ call ∈ past, call.request.isIngest = false) : db.Unpaid := by
  induction history with
  | start => exact unpaid
  | serve earlier served ih =>
      have before := ih fun call member => others call (List.mem_cons_of_mem _ member)
      exact before.steady (steady_served (others _ List.mem_cons_self) served)

end Db

section Pool

variable {Thread : Type} [DecidableEq Thread]

/-- Where an event matched to a charge can be recorded, the charge is not paid
and no other message stands between its recording and its flip of the status. -/
def Undisputed (event : Event signature Db Thread Response) : Prop :=
  ∀ columns chargeId, event.act.op = .insertSmsEvent columns → columns.matched = true →
    columns.chargeId = some chargeId → event.act.before.recordable columns →
    ¬event.act.before.isPaid chargeId ∧
      ∀ other, other ≠ event.thread → ¬SettlesNext chargeId (event.threads other).point

variable [Fintype Thread] {service : Service} {db : Db} {requests : Thread → Request}
  {past : List (Event signature Db Thread Response)}
  {config : Config signature Db Thread Response}

/-- An event recorded for a charge leaves it paid, or a message on its way. -/
theorem settling_of_settlements (unpaid : db.Unpaid) (fresh : FreshLedger requests db)
    (run : Run sqlite false (service.pool db requests) past config) {chargeId : String}
    (recorded : 0 < config.store.settlements chargeId) :
    config.store.isPaid chargeId ∨
      ∃ thread, SettlesNext chargeId (config.threads thread).point := by
  obtain ⟨shares, holds, threads⟩ := pool_safe run
  rcases holds.covered chargeId (by rw [unpaid.settlements]; exact recorded) with paid | settling
  · exact .inl paid
  · rw [flightsAt_sum] at settling
    obtain ⟨thread, _, flying⟩ := Finset.exists_ne_zero_of_sum_ne_zero settling.ne'
    obtain ⟨_, _, safe⟩ := threads thread
    exact .inr ⟨thread, safe.owns.flies rfl fresh chargeId (Nat.pos_of_ne_zero flying)⟩

/-- A charge that is paid, or has a message on its way, has a recorded event. -/
theorem settlements_of_settling (ingests : ∀ thread, (requests thread).isIngest = true)
    (unpaid : db.Unpaid) (run : Run sqlite false (service.pool db requests) past config)
    {chargeId : String} (settling : config.store.isPaid chargeId ∨
      ∃ thread, SettlesNext chargeId (config.threads thread).point) :
    0 < config.store.settlements chargeId := by
  rcases settling with paid | ⟨thread, next⟩
  · obtain ⟨sound, credited⟩ := pool_backed unpaid.backed run
    exact (sound.paid chargeId paid).trans_le (credited chargeId)
  · obtain ⟨shares, holds, threads⟩ := pool_safe run
    obtain ⟨_, _, safe⟩ := threads thread
    have flying := safe.owns.flown (ingests thread) chargeId next
    have concerned := holds.concerned chargeId
    rw [flightsAt_sum] at concerned
    have own := Finset.single_le_sum
      (f := fun thread => flightsAt (Stage.concerns chargeId) (shares thread))
      (fun _ _ => Nat.zero_le _) (Finset.mem_univ thread)
    omega

theorem settlements_le_one (unpaid : db.Unpaid) (fresh : FreshLedger requests db)
    (run : Run sqlite false (service.pool db requests) past config)
    (undisputed : ∀ event ∈ past, Undisputed event) (chargeId : String) :
    config.store.settlements chargeId ≤ 1 := by
  induction run with
  | start => simp [Service.pool, unpaid.settlements]
  | step earlier waiting replied ih =>
      rename_i past config thread op next reply after
      have before := ih fun event member => undisputed event (List.mem_cons_of_mem _ member)
      by_cases recording : ∃ columns, op = .insertSmsEvent columns
      · obtain ⟨columns, rfl⟩ := recording
        rcases reply_insertSmsEvent replied with ⟨now, smsEvents, rfl, stored, known, rfl⟩ |
          ⟨rfl, _⟩
        · rw [Db.settlements_record stored]
          by_cases settles : Db.settles chargeId (columns.row now) = true
          · have free : config.store.settlements chargeId = 0 := by
              by_contra recorded
              obtain ⟨reference, isMatched⟩ : columns.chargeId = some chargeId ∧
                  columns.matched = true := by
                simpa [Db.settles, NewSmsEvent.row] using settles
              obtain ⟨unpaidYet, alone⟩ :=
                undisputed _ List.mem_cons_self columns chargeId rfl isMatched
                reference (Db.recordable_of_stored stored known)
              rcases settling_of_settlements unpaid fresh earlier (Nat.pos_of_ne_zero recorded)
                with paid | ⟨other, next⟩
              · exact unpaidYet paid
              · by_cases same : other = thread
                · obtain ⟨op, stands, settling⟩ := next
                  rw [same, waiting] at stands
                  cases stands
                  cases settling
                · exact alone other same next
            simp [free, settles]
          · simpa [settles] using before
        · exact before
      · have same := smsEvents_reply replied fun columns same => recording ⟨columns, same⟩
        simpa only [Db.settlements, same] using before

theorem undisputed_of_settlements_le_one
    (ingests : ∀ thread, (requests thread).isIngest = true) (unpaid : db.Unpaid)
    (run : Run sqlite false (service.pool db requests) past config)
    (single : ∀ chargeId, config.store.settlements chargeId ≤ 1)
    {event : Event signature Db Thread Response} (member : event ∈ past) : Undisputed event := by
  obtain ⟨newer, older, rfl⟩ := List.append_of_mem member
  intro columns chargeId recording isMatched reference recordable
  obtain ⟨middle, _, earlier, store, threads, _, replied, _⟩ := run.event_cases
  have later : event.act.after.settlements chargeId ≤ config.store.settlements chargeId :=
    (run.store_relates_event Db.Evolves.refl Db.Evolves.trans evolves_apply member).settlements_le
      chargeId
  have counted := settlements_of_recordable recording isMatched reference recordable replied
  have bound := later.trans (single chargeId)
  have free : ¬0 < middle.store.settlements chargeId := by
    rw [store]
    omega
  have still := fun settling => free (settlements_of_settling ingests unpaid earlier settling)
  rw [store, threads] at still
  exact ⟨fun paid => still (.inl paid), fun other _ next => still (.inr ⟨other, next⟩)⟩

/-- For charges that start unpaid and any messages interleaved without failures:
every charge is settled at most once exactly when every recording was of an
undisputed charge. -/
theorem settled_once_iff_undisputed (ingests : ∀ thread, (requests thread).isIngest = true)
    (unpaid : db.Unpaid) (fresh : FreshLedger requests db)
    (run : Run sqlite false (service.pool db requests) past config) :
    (∀ chargeId, config.store.postings chargeId ≤ 1 ∧ config.store.settlements chargeId ≤ 1) ↔
      ∀ event ∈ past, Undisputed event := by
  constructor
  · intro single event member
    exact undisputed_of_settlements_le_one ingests unpaid run (fun id => (single id).2) member
  · intro undisputed chargeId
    have once := settlements_le_one unpaid fresh run undisputed chargeId
    exact ⟨((pool_backed unpaid.backed run).credited chargeId).trans once, once⟩

end Pool

/-! ## Two payments for one charge -/

def twoPayments : Fin 2 → Request
  | 0 => samplePayment "a" "TRXA"
  | 1 => samplePayment "b" "TRXB"

theorem orderedCharge_unpaid : orderedCharge.Unpaid := by
  obtain ⟨calls, history, asked⟩ :=
    (History.start : History sampleService Db.empty [] Db.empty).serve_all [sampleOrder]
  refine Db.unpaid_empty.history history fun call member => ?_
  have requested : call.request ∈ calls.map (·.request) := List.mem_map_of_mem member
  rw [asked] at requested
  rw [List.mem_singleton.mp requested]
  rfl

theorem twoPayments_fresh : FreshLedger twoPayments orderedCharge where
  distinct := by
    intro left right id
    match left, right with
    | 0, 0 => exact fun _ _ => rfl
    | 1, 1 => exact fun _ _ => rfl
    | 0, 1 =>
        intro leftId rightId
        cases leftId
        cases rightId
    | 1, 0 =>
        intro leftId rightId
        cases leftId
        cases rightId
  unused := by simp [orderedCharge_unpaid.ledgerTransactions]

theorem payments_in_turn : ∃ past config,
    Run sqlite false (sampleService.pool orderedCharge twoPayments) past config ∧
      config.store.settlements "chg_1" = 1 ∧
      ((∀ chargeId, config.store.postings chargeId ≤ 1 ∧ config.store.settlements chargeId ≤ 1) ↔
        ∀ event ∈ past, Undisputed event) := by
  have run := Run.scheduled sqlite false (sampleService.pool orderedCharge twoPayments)
    sampleEnv [0, 0, 0, 0, 0, 0, 1, 1]
  refine ⟨_, _, run, by decide +kernel, ?_⟩
  refine settled_once_iff_undisputed ?_ orderedCharge_unpaid twoPayments_fresh run
  intro thread
  match thread with
  | 0 => rfl
  | 1 => rfl

/-- Both payments look the charge up before either is recorded, and both settle it. -/
theorem payments_in_race : ∃ past config,
    Run sqlite false (sampleService.pool orderedCharge twoPayments) past config ∧
      config.store.settlements "chg_1" = 2 ∧ config.store.postings "chg_1" = 2 := by
  have run := Run.scheduled sqlite false (sampleService.pool orderedCharge twoPayments)
    sampleEnv [0, 1, 0, 1, 0, 0, 0, 0, 1, 1, 1, 1]
  exact ⟨_, _, run, by decide +kernel⟩

end SpritexPay
