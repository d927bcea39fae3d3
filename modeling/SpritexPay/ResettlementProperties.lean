import SpritexPay.Api
import SpritexPay.Serving

/-! Settling one charge twice. `markPaid` reads the charge but not its status,
so a second settlement is a second posting and a second notification. Only the
invoices and the status, whose updates name the state they leave, come out the
same. -/

set_option autoImplicit false

namespace SpritexPay

open Relational Resumption

namespace Db

def statusOf (db : Db) (chargeId : String) : Option ChargeStatus :=
  (db.charges.find? (·.id == chargeId)).map (·.status)

/-- The tables a settlement writes, and the status of the charge, are as before. -/
structure Unmoved (before after : Db) (chargeId : String) : Prop where
  ledgerTransactions : after.ledgerTransactions = before.ledgerTransactions
  ledgerEntries : after.ledgerEntries = before.ledgerEntries
  invoices : after.invoices = before.invoices
  webhookDeliveries : after.webhookDeliveries = before.webhookDeliveries
  status : after.statusOf chargeId = before.statusOf chargeId

theorem statusOf_of_mem {db : Db} {charge : Charge} (member : charge ∈ db.charges) :
    db.statusOf charge.id = some charge.status := by
  rw [statusOf, find_charge member, Option.map_some]

end Db

/-- Settling twice is as good as settling once, and settling a charge that is
closed neither posts nor notifies. -/
structure Charge.SettledOnce (charge : Charge) (before once twice : Db) : Prop where
  again : once.Unmoved twice charge.id
  closed : charge.status ≠ .pending →
    once.ledgerTransactions = before.ledgerTransactions ∧
      once.webhookDeliveries = before.webhookDeliveries

namespace Db.Marked

variable {crates : Crates} {uuids : SettlementUuids} {charge : Charge} {before after : Db}

theorem postings (marked : before.Marked crates uuids charge after) :
    after.postings charge.id = before.postings charge.id + 1 := by
  obtain ⟨now, stored, _⟩ := marked.posted
  refine (Db.postings_post stored after.ledgerEntries charge.id).trans ?_
  rw [beq_self_eq_true, if_pos rfl]

theorem mem_charges (marked : before.Marked crates uuids charge after)
    (member : charge ∈ before.charges) :
    ∃ now, { charge with status := .paid, updatedAt := now } ∈ after.charges := by
  obtain ⟨now, charges⟩ := marked.paid
  refine ⟨now, ?_⟩
  rw [charges]
  exact Db.mem_setChargePaid.mpr ⟨charge, member, if_pos (beq_self_eq_true _)⟩

theorem statusOf (marked : before.Marked crates uuids charge after)
    (member : charge ∈ before.charges) : after.statusOf charge.id = some .paid := by
  obtain ⟨now, paid⟩ := marked.mem_charges member
  exact Db.statusOf_of_mem paid

/-- No invoice waits for the charge any more. -/
theorem collected_all (marked : before.Marked crates uuids charge after) :
    ∀ invoice ∈ after.invoices, Db.collects charge.id invoice = false := by
  obtain ⟨now, invoices⟩ := marked.collected
  rw [invoices]
  intro invoice member
  obtain ⟨old, _, rfl⟩ := Db.mem_settleInvoices.mp member
  by_cases collects : Db.collects charge.id old = true
  · rw [if_pos collects]
    exact Bool.and_false _
  · rw [if_neg collects]
    exact Bool.not_eq_true _ ▸ collects

theorem invoices_again {other : SettlementUuids} {once twice : Db} {again : Charge}
    (first : before.Marked crates uuids charge once)
    (second : once.Marked crates other again twice) (same : again.id = charge.id) :
    twice.invoices = once.invoices := by
  obtain ⟨now, invoices⟩ := second.collected
  rw [invoices, same]
  refine Table.update_unchosen ?_ first.collected_all
  exact fun _ => rfl

theorem notified_iff (marked : before.Marked crates uuids charge after) :
    after.webhookDeliveries = before.webhookDeliveries ↔ charge.callbackUrl = none := by
  constructor
  · intro unchanged
    cases callback : charge.callbackUrl with
    | none => rfl
    | some url =>
        obtain ⟨now, queued⟩ := marked.announced url callback
        have rows := congrArg List.length (Table.rows_insert? queued)
        simp [unchanged] at rows
  · exact marked.silent

end Db.Marked

namespace Charge

variable {crates : Crates} {uuids : SettlementUuids} {charge : Charge} {before after : Db}
  {outcome : Except ChargeError Unit}

theorem marked_of_runs (member : charge ∈ before.charges) (vacant : before.Vacant uuids)
    (runs : sqlite.Runs (markPaid crates uuids charge.id).run before outcome after) :
    outcome = .ok () ∧ before.Marked crates uuids charge after := by
  obtain ⟨ended, marked⟩ := (settling_of_markPaid member runs.undisturbed).marked vacant
  exact ⟨Option.some.inj ended, marked⟩

/-- Whatever the state and the charge, settling it is never settling it once:
each run posts, and notifies whoever has a callback registered. -/
theorem never_settled_once {first second : SettlementUuids} {once twice : Db}
    {again : Except ChargeError Unit} (member : charge ∈ before.charges)
    (vacant : before.Vacant first) (vacantAgain : once.Vacant second)
    (settles : sqlite.Runs (markPaid crates first charge.id).run before outcome once)
    (resettles : sqlite.Runs (markPaid crates second charge.id).run once again twice) :
    ¬charge.SettledOnce before once twice ∧
      once.postings charge.id = before.postings charge.id + 1 ∧
      twice.postings charge.id = before.postings charge.id + 2 ∧
      (once.webhookDeliveries = before.webhookDeliveries ↔ charge.callbackUrl = none) ∧
      (twice.webhookDeliveries = once.webhookDeliveries ↔ charge.callbackUrl = none) ∧
      twice.invoices = once.invoices ∧ twice.statusOf charge.id = once.statusOf charge.id := by
  obtain ⟨_, marked⟩ := marked_of_runs member vacant settles
  obtain ⟨now, paid⟩ := marked.mem_charges member
  obtain ⟨_, remarked⟩ := marked_of_runs paid vacantAgain resettles
  have postings := marked.postings
  have postingsAgain := remarked.postings
  refine ⟨fun settledOnce => ?_, postings, ?_, marked.notified_iff, remarked.notified_iff,
    marked.invoices_again remarked rfl, ?_⟩
  · rw [Db.postings, settledOnce.again.ledgerTransactions] at postingsAgain
    exact Nat.succ_ne_self _ postingsAgain.symm
  · exact postingsAgain.trans (congrArg (· + 1) postings)
  · exact (remarked.statusOf paid).trans (marked.statusOf member).symm

end Charge

/-- A charge whose merchant wants to hear of it. -/
def awaitedCharge : Db :=
  sampleService.serve [.createCharge "1" ⟨"order-1", 50000, "BDT", none, none,
    some "https://shop.example/hook"⟩] Db.empty

/-- Settle the charge alone, with the identifiers of `uuid`. -/
def settleSample (uuid : String) (db : Db) : Except ChargeError Unit × Db :=
  sqlite.run (Charge.markPaid sampleCrates ⟨uuid, uuid⟩ "chg_1").run (fun _ => sampleEnv) db

theorem settleSample_runs (uuid : String) (db : Db) :
    sqlite.Runs (Charge.markPaid sampleCrates ⟨uuid, uuid⟩ "chg_1").run db
      (settleSample uuid db).1 (settleSample uuid db).2 :=
  sqlite.runs_run _ _ _

theorem never_settled_once_sample : ∃ charge ∈ awaitedCharge.charges,
    ¬charge.SettledOnce awaitedCharge (settleSample "a" awaitedCharge).2
      (settleSample "b" (settleSample "a" awaitedCharge).2).2 := by
  obtain ⟨charge, member, id⟩ : ∃ charge ∈ awaitedCharge.charges, charge.id = "chg_1" := by
    decide +kernel
  have first := settleSample_runs "a" awaitedCharge
  have second := settleSample_runs "b" (settleSample "a" awaitedCharge).2
  rw [← id] at first second
  refine ⟨charge, member, (Charge.never_settled_once member ?_ ?_ first second).1⟩
  · exact ⟨by decide +kernel, by decide +kernel⟩
  · exact ⟨by decide +kernel, by decide +kernel⟩

/-- A settled charge is settled again: one payment, two postings, two
notifications. -/
theorem paid_charge_settled_again : ∃ charge ∈ (settleSample "a" awaitedCharge).2.charges,
    charge.status = .paid ∧
    ¬charge.SettledOnce (settleSample "a" awaitedCharge).2
      (settleSample "b" (settleSample "a" awaitedCharge).2).2
      (settleSample "c" (settleSample "b" (settleSample "a" awaitedCharge).2).2).2 ∧
    (settleSample "b" (settleSample "a" awaitedCharge).2).2.postings "chg_1" = 2 ∧
    (settleSample "b" (settleSample "a" awaitedCharge).2).2.webhookDeliveries.rows.length = 2 := by
  obtain ⟨charge, member, paid⟩ : ∃ charge ∈ (settleSample "a" awaitedCharge).2.charges,
      charge.status = .paid := by
    decide +kernel
  refine ⟨charge, member, paid, fun once => ?_, by decide +kernel, by decide +kernel⟩
  have same := (once.closed (by rw [paid]; decide)).1
  have apart : ¬(settleSample "b" (settleSample "a" awaitedCharge).2).2.ledgerTransactions =
      (settleSample "a" awaitedCharge).2.ledgerTransactions := by
    decide +kernel
  exact apart same

end SpritexPay
