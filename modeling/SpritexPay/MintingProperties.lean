import SpritexPay.OpeningProperties
import SpritexPay.ReissueProperties
import SpritexPay.Roundtrip

/-! The charges minted for invoices and payment links. Their amounts go through
the major units of a checkout and back, and come out as they went in exactly
for the amounts that survive the roundings on that way. -/

set_option autoImplicit false

namespace SpritexPay

open Binary64 Resumption Relational

/-- The call has minted a charge of this amount for its checkout. -/
def Mints (created : CheckoutCreated) (before after : Db) (amount : Int64) : Prop :=
  ∃ charge ∈ after.charges, charge ∉ before.charges ∧ charge.payRef = some created.sapId ∧
    charge.amountMinor = amount

section Minting

variable {baseUrl : String} {uuids : CheckoutUuids} {before after : Db} {created : CheckoutCreated}

/-- A new charge stands in for the checkout of a request. -/
theorem mints_iff {req : CreateCheckout} {now : Timestamp} {charges : Table Charge}
    {amount : Int64} (new : before.NewCheckout uuids)
    (positive : 0 < (Checkout.newCharge uuids req).amountMinor)
    (stored : before.charges.insert? ((Checkout.newCharge uuids req).row now positive) =
      some charges) (same : after.charges = charges) :
    Mints (Checkout.opened baseUrl uuids) before after amount ↔
      Checkout.minorUnits req.amount = amount := by
  constructor
  · rintro ⟨charge, member, fresh, _, priced⟩
    rw [same] at member
    rcases (Table.mem_insert? stored).mp member with old | rfl
    · exact absurd old fresh
    · exact priced
  · intro priced
    refine ⟨(Checkout.newCharge uuids req).row now positive, ?_, fun old => (new _ old).1 rfl, rfl,
      priced⟩
    rw [same]
    exact (Table.mem_insert? stored).mpr (.inr rfl)

/-- Whatever follows the insertion of a charge leaves the charges alone. -/
theorem Invoice.charged_of_runs {id : String} {invoice : Invoice}
    (member : invoice ∈ before.invoices) (same : invoice.id = id)
    (runs : sqlite.Runs (issuePayment baseUrl uuids id).run before (.ok created) after) :
    created = Checkout.opened baseUrl uuids ∧ ∃ now positive charges,
      before.charges.insert?
        ((Checkout.newCharge uuids (checkoutRequest invoice)).row now positive) = some charges ∧
      after.charges = charges := by
  have found : before.invoices.find? (·.id == id) = some invoice := by
    refine Table.find?_eq_some_of_mem member (by simp [same]) fun other _ chosen => ?_
    have sameId : other.id = invoice.id := (beq_iff_eq.mp chosen).trans same.symm
    simp [key, clash, sameId]
  rw [run_issuePayment] at runs
  rcases runs_issue_cases runs with ⟨_, _, _, executed, rest⟩ | ⟨_, _, _, failed, _⟩
  · cases executed
    rw [found] at rest
    change sqlite.Runs (collect baseUrl uuids id invoice) before (.ok created) after at rest
    unfold collect at rest
    split at rest
    · rcases runs_issue_cases rest with ⟨mint, _, _, inserting, rest⟩ | ⟨_, _, _, failed, _⟩
      · obtain ⟨positive, charges, stored, rfl⟩ :=
          Db.insertCharge_ok (Statement.stored_ok inserting)
        rcases runs_issue_cases rest with ⟨_, _, _, looking, rest⟩ | ⟨_, _, _, failed, _⟩
        · cases looking
          rcases runs_issue_cases rest with ⟨link, _, _, linking, rest⟩ | ⟨_, _, _, failed, _⟩
          · cases linking
            obtain ⟨ended, rfl⟩ := Machine.runs_done_iff.mp rest
            exact ⟨Except.ok.inj ended, mint.now, positive, charges, stored, rfl⟩
          · cases failed
        · cases failed
      · cases failed
    · cases (Machine.runs_done_iff.mp rest).1
  · cases failed

theorem PaymentLink.charged_of_mint {link : PaymentLink} {amount : Int64}
    (runs : sqlite.Runs (mint baseUrl uuids link amount) before (.ok created) after) :
    created = Checkout.opened baseUrl uuids ∧ ∃ now positive charges,
      before.charges.insert?
        ((Checkout.newCharge uuids (checkoutRequest link amount)).row now positive) =
          some charges ∧
      after.charges = charges := by
  unfold mint at runs
  split at runs
  · rcases runs_issue_cases runs with ⟨env, _, _, inserting, rest⟩ | ⟨_, _, _, failed, _⟩
    · obtain ⟨positive, charges, stored, rfl⟩ :=
        Db.insertCharge_ok (Statement.stored_ok inserting)
      obtain ⟨ended, rfl⟩ := Machine.runs_done_iff.mp rest
      exact ⟨Except.ok.inj ended, env.now, positive, charges, stored, rfl⟩
    · cases failed
  · cases (Machine.runs_done_iff.mp runs).1

theorem PaymentLink.charged_of_runs {link : PaymentLink} {amountOverride : Option Int64}
    {amount : Int64} (member : link ∈ before.paymentLinks)
    (priced : link.amountMinor.or amountOverride = some amount)
    (runs : sqlite.Runs (openLink baseUrl uuids link.ref amountOverride).run before
      (.ok created) after) :
    created = Checkout.opened baseUrl uuids ∧ ∃ now positive charges,
      before.charges.insert?
        ((Checkout.newCharge uuids (checkoutRequest link amount)).row now positive) =
          some charges ∧
      after.charges = charges := by
  rw [run_openLink] at runs
  rcases runs_issue_cases runs with ⟨_, _, _, executed, rest⟩ | ⟨_, _, _, failed, _⟩
  · cases executed
    rw [Db.find_link member] at rest
    change sqlite.Runs (useLink baseUrl uuids link.ref amountOverride link) before
      (.ok created) after at rest
    unfold useLink at rest
    split at rest
    · cases (Machine.runs_done_iff.mp rest).1
    · rw [priced] at rest
      change sqlite.Runs (take baseUrl uuids link.ref link amount) before (.ok created) after
        at rest
      unfold take at rest
      split at rest
      · rcases runs_issue_cases rest with ⟨_, _, _, taking, rest⟩ | ⟨_, _, _, failed, _⟩
        · cases taking
          have charged := PaymentLink.charged_of_mint rest
          exact charged
        · cases failed
      · exact PaymentLink.charged_of_mint rest
  · cases failed

/-- What an invoice or a link asks for is minted exactly if it survives. -/
theorem minted_exactly_iff (new : before.NewCheckout uuids) :
    (∀ invoice ∈ before.invoices,
      sqlite.Runs (Invoice.issuePayment baseUrl uuids invoice.id).run before (.ok created) after →
        (Mints created before after invoice.amountMinor ↔ Survives invoice.amountMinor.toInt)) ∧
    ∀ link ∈ before.paymentLinks, ∀ (amountOverride : Option Int64) (amount : Int64),
      link.amountMinor.or amountOverride = some amount → 0 < amount →
      sqlite.Runs (PaymentLink.openLink baseUrl uuids link.ref amountOverride).run before
        (.ok created) after →
        (Mints created before after amount ↔ Survives amount.toInt) := by
  constructor
  · intro invoice member runs
    obtain ⟨rfl, now, positive, charges, stored, same⟩ :=
      Invoice.charged_of_runs member rfl runs
    exact (mints_iff new positive stored same).trans (F64.minor_exact_iff invoice.amountPositive)
  · intro link member amountOverride amount priced above runs
    obtain ⟨rfl, now, positive, charges, stored, same⟩ :=
      PaymentLink.charged_of_runs member priced runs
    exact (mints_iff new positive stored same).trans (F64.minor_exact_iff above)

end Minting

theorem minted_exactly_iff_sample : ∃ link ∈ oneUse.paymentLinks, ∃ created after,
    sqlite.Runs (PaymentLink.openLink "https://pay.example" ⟨"1", "1"⟩ link.ref none).run oneUse
      (.ok created) after ∧ Mints created oneUse after 50000 := by
  obtain ⟨link, member, reference, priced⟩ : ∃ link ∈ oneUse.paymentLinks,
      link.ref = "abcdefghijkl" ∧ link.amountMinor.or none = some 50000 := by decide +kernel
  have runs := sqlite.runs_run (PaymentLink.openLink "https://pay.example" ⟨"1", "1"⟩
    "abcdefghijkl" none).run (fun _ => sampleEnv) oneUse
  have opens : (sqlite.run (PaymentLink.openLink "https://pay.example" ⟨"1", "1"⟩ "abcdefghijkl"
      none).run (fun _ => sampleEnv) oneUse).1 =
        .ok (Checkout.opened "https://pay.example" ⟨"1", "1"⟩) := by decide +kernel
  have new : oneUse.NewCheckout ⟨"1", "1"⟩ := by
    unfold Db.NewCheckout
    decide +kernel
  rw [opens, ← reference] at runs
  have small : Survives 50000 := .inl (by norm_num)
  exact ⟨link, member, _, _, runs,
    ((minted_exactly_iff new).2 link member none 50000 priced (by decide) runs).mpr small⟩

/-- An invoice for more than thirty trillion taka. -/
def fleetInvoice : Db :=
  sampleService.serve [.createInvoice ⟨"inv", fun index => toString index⟩
    ⟨none, none, none, [⟨"Fleet", 1, 3518437208883202⟩]⟩] Db.empty

/-- It is collected with one poisha too many. -/
theorem fleet_minted_apart : ∃ invoice ∈ fleetInvoice.invoices,
    invoice.amountMinor = 3518437208883202 ∧ ∃ created after,
      sqlite.Runs (Invoice.issuePayment "https://pay.example" ⟨"1", "1"⟩ invoice.id).run
        fleetInvoice (.ok created) after ∧
      ∀ charge ∈ after.charges, charge.amountMinor = 3518437208883203 := by
  obtain ⟨invoice, member, named, priced⟩ : ∃ invoice ∈ fleetInvoice.invoices,
      invoice.id = "inv_inv" ∧ invoice.amountMinor = 3518437208883202 := by decide +kernel
  have runs := sqlite.runs_run (Invoice.issuePayment "https://pay.example" ⟨"1", "1"⟩
    "inv_inv").run (fun _ => sampleEnv) fleetInvoice
  have collects : (sqlite.run (Invoice.issuePayment "https://pay.example" ⟨"1", "1"⟩
      "inv_inv").run (fun _ => sampleEnv) fleetInvoice).1 =
        .ok (Checkout.opened "https://pay.example" ⟨"1", "1"⟩) := by decide +kernel
  rw [collects, ← named] at runs
  refine ⟨invoice, member, priced, _, _, runs, ?_⟩
  rw [named]
  decide +kernel

end SpritexPay
