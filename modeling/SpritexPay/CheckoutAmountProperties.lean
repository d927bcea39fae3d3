import SpritexPay.Hundredths
import SpritexPay.OpeningProperties
import SpritexPay.WhitelistProperties

/-! Which amounts of a checkout are validated. The guard looks at the amount in
major units. What is stored is the amount scaled, rounded and cast, and neither
the cast nor the check of the table stands in the guard. -/

set_option autoImplicit false

namespace SpritexPay

open Binary64 Resumption Relational

namespace Checkout

/-- A charge is stored for the amount, or the amount is refused without effect. -/
def Validated (amount : Rat) (db : Db) (outcome : Except CheckoutError CheckoutCreated)
    (after : Db) : Prop :=
  (∃ created charge, outcome = .ok created ∧ charge ∈ after.charges ∧ charge ∉ db.charges ∧
    charge.payRef = some created.sapId ∧ 0 < charge.amountMinor ∧
      |(charge.amountMinor.toInt : Rat) - amount * 100| ≤ 1) ∨
  outcome = .error .invalidAmount ∧ after = db

/-- The amount is not positive, or it is above half a hundredth, its hundredfold is
below 2^63 and within one of a multiple of the unit of binary64 there. -/
def Storable (amount : Rat) : Prop :=
  amount ≤ 0 ∨ halfHundredth < amount ∧ amount * 100 < 2 ^ 63 ∧
    ∃ count : Int, |count * 2 ^ unitExponent (amount * 100) - amount * 100| ≤ 1

variable {baseUrl : String} {uuids : CheckoutUuids} {req : CreateCheckout} {db after : Db}
  {outcome : Except CheckoutError CheckoutCreated} {amount : Rat}

/-- With allowed URLs, everything depends on the insertion of the charge. -/
theorem runs_of_allowed (accepted : chargeable req.amount = true)
    (returns : db.allows req.returnUrl = true) (notifies : db.allows req.webhookUrl = true)
    (runs : sqlite.Runs (createCheckout baseUrl uuids req).run db outcome after) :
    (∃ env, sqlite.exec env (.insertCharge (newCharge uuids req)) db = .ok ((), after) ∧
      outcome = .ok (opened baseUrl uuids)) ∨
    ∃ env error, sqlite.exec env (.insertCharge (newCharge uuids req)) db = .error error ∧
      outcome = .error (.db error) ∧ after = db := by
  have fine : (!req.amount.isFinite || req.amount.nonPositive) = false := by
    simpa [chargeable] using accepted
  unfold createCheckout at runs
  rw [fine] at runs
  have rest := runs_bind_of_ends runs_adapt_urlsAllowed runs
  rw [returns, notifies] at rest
  obtain ⟨env, finish⟩ := Machine.runs_stmt_iff.mp rest
  cases executed : sqlite.exec env (.insertCharge (newCharge uuids req)) db with
  | ok result =>
      rw [Machine.apply_ok executed] at finish
      obtain ⟨rfl, rfl⟩ := Machine.runs_done_iff.mp finish
      exact .inl ⟨env, executed, rfl⟩
  | error error =>
      rw [Machine.apply_error executed] at finish
      obtain ⟨rfl, rfl⟩ := Machine.runs_done_iff.mp finish
      exact .inr ⟨env, error, executed, rfl, rfl⟩

theorem runs_of_refused (refused : chargeable req.amount = false)
    (runs : sqlite.Runs (createCheckout baseUrl uuids req).run db outcome after) :
    outcome = .error .invalidAmount ∧ after = db := by
  have guarded : (!req.amount.isFinite || req.amount.nonPositive) = true := by
    simpa [chargeable, or_iff_not_imp_left] using refused
  unfold createCheckout at runs
  rw [if_pos guarded] at runs
  exact Machine.runs_done_iff.mp runs

theorem chargeable_finite {representable : Representable amount} :
    chargeable (.finite amount representable) = decide (0 < amount) := by
  simp only [chargeable, F64.isFinite, F64.nonPositive, Bool.true_and, ← decide_not, not_le]

/-- A working checkout validates its amount exactly if the amount is storable. -/
theorem validated_iff {representable : Representable amount}
    (finite : req.amount = .finite amount representable)
    (returns : db.allows req.returnUrl = true) (notifies : db.allows req.webhookUrl = true)
    (new : db.NewCheckout uuids)
    (runs : sqlite.Runs (createCheckout baseUrl uuids req).run db outcome after) :
    Validated amount db outcome after ↔ Storable amount := by
  by_cases positive : 0 < amount
  · have accepted : chargeable req.amount = true := by
      rw [finite, chargeable_finite]
      exact decide_eq_true positive
    have minor : minorUnits req.amount = ((F64.ofRat amount).scale 100).round.toI64 := by
      rw [finite, F64.ofRat_of_representable representable]
      rfl
    have exact_iff := F64.minor_near_iff representable positive
    rw [← minor] at exact_iff
    have storable : Storable amount ↔ 0 < minorUnits req.amount ∧
        |((minorUnits req.amount).toInt : Rat) - amount * 100| ≤ 1 := by
      rw [exact_iff]
      exact or_iff_right (not_le.mpr positive)
    rw [storable]
    rcases runs_of_allowed accepted returns notifies runs with
      ⟨env, executed, rfl⟩ | ⟨env, error, executed, rfl, rfl⟩
    · obtain ⟨credited, charges, stored, rfl⟩ := Db.insertCharge_ok (Statement.stored_ok executed)
      constructor
      · rintro (⟨_, charge, _, member, fresh, _, above, near⟩ | ⟨never, _⟩)
        · rcases (Table.mem_insert? stored).mp member with old | rfl
          · exact absurd old fresh
          · exact ⟨above, near⟩
        · cases never
      · rintro ⟨_, near⟩
        refine .inl ⟨_, _, rfl, (Table.mem_insert? stored).mpr (.inr rfl), ?_, rfl, credited, near⟩
        exact fun old => (new _ old).1 rfl
    · refine iff_of_false ?_ ?_
      · rintro (⟨_, _, never, _⟩ | ⟨never, _⟩)
        · cases never
        · cases never
      · rintro ⟨credited, _⟩
        obtain ⟨stored, inserted⟩ := insertCharge_checkout new credited env
        rw [inserted] at executed
        cases executed
  · have refused : chargeable req.amount = false := by
      rw [finite, chargeable_finite]
      exact decide_eq_false positive
    exact iff_of_true (.inr (runs_of_refused refused runs)) (.inl (not_lt.mp positive))

/-- An amount that passes the guard and vanishes is left to the database. -/
theorem fails_of_vanishing (accepted : chargeable req.amount = true)
    (vanishes : ¬0 < minorUnits req.amount) (returns : db.allows req.returnUrl = true)
    (notifies : db.allows req.webhookUrl = true)
    (runs : sqlite.Runs (createCheckout baseUrl uuids req).run db outcome after) :
    outcome = .error (.db .checkViolation) ∧ after = db := by
  have unchecked : ∀ env, sqlite.exec env (.insertCharge (newCharge uuids req)) db =
      .error .checkViolation := by
    intro env
    change (do return ((), ← db.insertCharge env.now (newCharge uuids req))) = _
    rw [Db.insertCharge, dif_neg (show ¬0 < (newCharge uuids req).amountMinor from vanishes)]
    rfl
  rcases runs_of_allowed accepted returns notifies runs with
    ⟨env, executed, _⟩ | ⟨env, error, executed, rfl, same⟩
  · rw [unchecked] at executed
    cases executed
  · rw [unchecked] at executed
    cases executed
    exact ⟨rfl, same⟩

end Checkout

/-- An order of this many taka and nothing else. -/
def orderOf (amount : F64) : CreateCheckout :=
  ⟨none, none, none, amount, "BDT", none, none, .null⟩

theorem validated_iff_sample : ∃ representable : Representable 500, ∃ outcome after,
    sqlite.Runs (Checkout.createCheckout "https://pay.example" ⟨"1", "1"⟩
      (orderOf (.finite 500 representable))).run Db.empty outcome after ∧
    Checkout.Validated 500 Db.empty outcome after := by
  have representable : Representable 500 :=
    ⟨500, 0, by norm_num, by norm_num, by norm_num, by norm_num⟩
  have runs := sqlite.runs_run (Checkout.createCheckout "https://pay.example" ⟨"1", "1"⟩
    (orderOf (.finite 500 representable))).run (fun _ => sampleEnv) Db.empty
  have new : Db.empty.NewCheckout ⟨"1", "1"⟩ := fun _ member => absurd member (List.not_mem_nil)
  have unit : unitExponent (500 * 100) = -37 :=
    unitExponent_of_binade (by norm_num) (by norm_num) (by norm_num)
  have storable : Checkout.Storable 500 := by
    refine .inr ⟨by norm_num [halfHundredth], by norm_num, 50000 * 2 ^ 37, ?_⟩
    rw [unit]
    norm_num
  exact ⟨representable, _, _, runs, (Checkout.validated_iff rfl rfl rfl new runs).mpr storable⟩

/-- A thousandth of a taka passes the guard and fails in the database. -/
theorem tiny_order_fails : ∃ representable : Representable (1 / 1024), ∃ after,
    sqlite.Runs (Checkout.createCheckout "https://pay.example" ⟨"1", "1"⟩
      (orderOf (.finite (1 / 1024) representable))).run Db.empty
      (.error (.db .checkViolation)) after := by
  have representable : Representable (1 / 1024) :=
    ⟨1, -10, by norm_num, by norm_num, by norm_num, by norm_num⟩
  have runs := sqlite.runs_run (Checkout.createCheckout "https://pay.example" ⟨"1", "1"⟩
    (orderOf (.finite (1 / 1024) representable))).run (fun _ => sampleEnv) Db.empty
  have accepted :
      Checkout.chargeable (orderOf (.finite (1 / 1024) representable)).amount = true := by
    rw [orderOf, Checkout.chargeable_finite]
    norm_num
  have vanishes : ¬0 < Checkout.minorUnits (orderOf (.finite (1 / 1024) representable)).amount := by
    have threshold := F64.minor_pos_iff (show (0 : Rat) ≤ 1 / 1024 by norm_num)
    rw [F64.ofRat_of_representable representable] at threshold
    rw [orderOf, Checkout.minorUnits, threshold]
    norm_num [halfHundredth]
  have failed := (Checkout.fails_of_vanishing accepted vanishes rfl rfl runs).1
  rw [failed] at runs
  exact ⟨representable, _, runs⟩

end SpritexPay
