import SpritexPay.SettlementSafety

/-! Replay safety. The requests that carry one transaction id of one gateway
share one row of the recorded messages, so at most one of them gets past its
recording, whatever else runs in between. -/

set_option autoImplicit false

namespace SpritexPay

open Relational Resumption

section Shares

variable {Thread : Type} [DecidableEq Thread]

theorem flightsAt_sum {property : Stage → Bool} (threads : Finset Thread)
    (shares : Thread → Multiset Flight) :
    flightsAt property (∑ thread ∈ threads, shares thread) =
      ∑ thread ∈ threads, flightsAt property (shares thread) := by
  induction threads using Finset.induction_on with
  | empty => rfl
  | insert thread threads outside ih =>
      rw [Finset.sum_insert outside, Finset.sum_insert outside, flightsAt_add, ih]

variable [Fintype Thread]

theorem eq_of_flightsAt_le_one {property : Stage → Bool} {shares : Thread → Multiset Flight}
    (single : flightsAt property (∑ thread, shares thread) ≤ 1) {left right : Thread}
    (leftHolds : 0 < flightsAt property (shares left))
    (rightHolds : 0 < flightsAt property (shares right)) : left = right := by
  by_contra different
  rw [flightsAt_sum] at single
  have pair := Finset.sum_le_sum_of_subset (f := fun thread => flightsAt property (shares thread))
    (Finset.subset_univ {left, right})
  rw [Finset.sum_pair different] at pair
  omega

end Shares

section Pool

variable {Thread : Type} [DecidableEq Thread] [Fintype Thread] {service : Service} {db : Db}
  {requests : Thread → Request} {faults : Bool}
  {past : List (Event signature Db Thread Response)}
  {config : Config signature Db Thread Response}

theorem carriers_le_one {flights : Multiset Flight} {fresh : Prop} {start store : Db}
    (holds : Holds start fresh store flights) (gateway : Gateway) (txnId : String) :
    flightsAt (Stage.carries gateway txnId) flights ≤ 1 := by
  have recorded := holds.recorded gateway txnId
  have single := Db.recordings_le_one store gateway txnId
  omega

/-- For every starting state and every interleaving, failures included: the
requests that carry one transaction of one gateway leave at most one record of
it, at most one of them reaches `markPaid`, together they add at most one ledger
transaction, and one that is answered as a duplicate has changed no money. -/
theorem replay_safe (run : Run sqlite faults (service.pool db requests) past config)
    (gateway : Gateway) (txnId : String) :
    config.store.recordings gateway txnId ≤ 1 ∧
    (∀ left right, (requests left).key service = some (gateway, txnId) →
      (requests right).key service = some (gateway, txnId) →
      ReachedMarkPaid (config.threads left).point (log past left) →
      ReachedMarkPaid (config.threads right).point (log past right) → left = right) ∧
    ∑ thread with (requests thread).key service = some (gateway, txnId),
      ((log past thread).map postedRows).sum ≤ 1 ∧
    ∀ thread, (requests thread).key service = some (gateway, txnId) →
      config.threads thread = .done (.ingested (.error .duplicate)) →
      ∀ act ∈ log past thread, act.before.SameMoney act.after := by
  obtain ⟨shares, holds, threads⟩ := pool_safe run
  have owned : ∀ thread, Owns service faults (FreshLedger requests db) (requests thread)
      (config.threads thread).point (log past thread) (shares thread) := by
    intro thread
    obtain ⟨_, _, safe⟩ := threads thread
    exact safe.owns
  have single := carriers_le_one holds gateway txnId
  refine ⟨Db.recordings_le_one _ _ _, ?_, ?_, ?_⟩
  · intro left right leftKey rightKey leftReached rightReached
    exact eq_of_flightsAt_le_one single ((owned left).reaches gateway txnId leftKey leftReached)
      ((owned right).reaches gateway txnId rightKey rightReached)
  · rw [flightsAt_sum] at single
    refine le_trans ?_ single
    calc ∑ thread with (requests thread).key service = some (gateway, txnId),
          ((log past thread).map postedRows).sum
        ≤ ∑ thread with (requests thread).key service = some (gateway, txnId),
          flightsAt (Stage.carries gateway txnId) (shares thread) :=
          Finset.sum_le_sum fun thread member =>
            (owned thread).posts gateway txnId (Finset.mem_filter.mp member).2
      _ ≤ ∑ thread, flightsAt (Stage.carries gateway txnId) (shares thread) :=
          Finset.sum_le_sum_of_subset (Finset.filter_subset _ _)
  · intro thread _ answered
    exact (owned thread).refuses (by rw [answered]; rfl)

end Pool

/-- Two deliveries of one message, both looked up before either is recorded. -/
theorem replay_safe_sample : ∃ past config,
    Run sqlite false (sampleService.pool orderedCharge
      fun delivery : Bool => samplePayment (if delivery then "a" else "b") "TRXA") past config ∧
    config.store.postings "chg_1" = 1 ∧ config.store.recordings .bkash "TRXA" ≤ 1 := by
  have run := Run.scheduled sqlite false
    (sampleService.pool orderedCharge
      fun delivery : Bool => samplePayment (if delivery then "a" else "b") "TRXA")
    sampleEnv [true, false, true, false, true, true, true]
  exact ⟨_, _, run, by decide +kernel, (replay_safe run .bkash "TRXA").1⟩

end SpritexPay
