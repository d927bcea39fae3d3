import SpritexPay.LinkProperties
import SpritexPay.Resumption.Interruption
import SpritexPay.Rounding

/-! Opens that fail. An open takes a use of a limited link before it asks for
the checkout, and nothing gives the use back when the checkout is refused. -/

set_option autoImplicit false

namespace SpritexPay

open Binary64 Relational Resumption

namespace Db

variable {db : Db}

theorem find_link {link : PaymentLink} (member : link ∈ db.paymentLinks) :
    db.paymentLinks.find? (·.ref == link.ref) = some link := by
  refine Table.find?_eq_some_of_mem member (by simp) fun other _ same => ?_
  have sameRef : other.ref = link.ref := by simpa using same
  simp [key, clash, sameRef]

theorem not_mem_takeLinkUse {link : PaymentLink} (member : link ∈ db.paymentLinks)
    (limited : PaymentLink.limited link = true) :
    link ∉ (db.takeLinkUse link.ref).paymentLinks := by
  intro kept
  obtain ⟨old, oldMember, rewritten⟩ := mem_takeLinkUse.mp kept
  have sameRef : old.ref = link.ref := by
    by_cases chosen : old.ref == link.ref
    · exact beq_iff_eq.mp chosen
    · rw [if_neg chosen] at rewritten
      rw [rewritten]
  obtain rfl := eq_of_link_ref oldMember member sameRef
  rw [if_pos (beq_self_eq_true _)] at rewritten
  have quantity : old.quantity.map (· - 1) = old.quantity := congrArg PaymentLink.quantity rewritten
  cases remaining : old.quantity with
  | none => simp [PaymentLink.limited, remaining] at limited
  | some left => simp [remaining] at quantity

/-- No charge is stored under the identifiers of a checkout yet. -/
def NewCheckout (db : Db) (uuids : CheckoutUuids) : Prop :=
  ∀ charge ∈ db.charges, charge.id ≠ "chg_" ++ uuids.charge ∧
    charge.orderId ≠ "pay_" ++ uuids.payRef

end Db

namespace Checkout

theorem insertCharge_checkout {db : Db} {uuids : CheckoutUuids} {req : CreateCheckout}
    (new : db.NewCheckout uuids) (positive : 0 < minorUnits req.amount) (env : Env) :
    ∃ after, sqlite.exec env (.insertCharge (newCharge uuids req)) db = .ok ((), after) := by
  have inserted : ∃ after, db.insertCharge env.now (newCharge uuids req) = .ok after := by
    unfold Db.insertCharge
    rw [dif_pos (show 0 < (newCharge uuids req).amountMinor from positive)]
    split
    · exact ⟨_, rfl⟩
    · rename_i stored
      obtain ⟨charge, member, same⟩ := Table.insert?_eq_none_iff.mp stored
      obtain ⟨otherId, otherOrder⟩ := new charge member
      simp [key, clash, NewCharge.row, newCharge, otherId, otherOrder] at same
  obtain ⟨after, inserted⟩ := inserted
  refine ⟨after, ?_⟩
  change (do return ((), ← db.insertCharge env.now (newCharge uuids req))) = _
  rw [inserted]
  rfl

end Checkout

namespace PaymentLink

theorem chargeable_checkoutRequest (link : PaymentLink) (amountMinor : Int64) :
    Checkout.chargeable (checkoutRequest link amountMinor).amount = true ↔ 0 < amountMinor := by
  constructor
  · intro chargeable
    by_contra nonpositive
    rcases F64.not_positive_of_nonpos (Int64.not_lt.mp nonpositive) with infinite | negative
    · simp [Checkout.chargeable, checkoutRequest, infinite] at chargeable
    · simp [Checkout.chargeable, checkoutRequest, negative] at chargeable
  · intro positive
    obtain ⟨amount, _, major, least, _⟩ := F64.unscale_of_pos positive
    have above : 0 < amount := by linarith
    simp [Checkout.chargeable, checkoutRequest, major, F64.isFinite, F64.nonPositive, above]

variable (plan : Statement → Fate) (uuids : CheckoutUuids) (link : PaymentLink)
  (amountOverride : Option Int64) (before : Db)

/-- The checkout of an open is refused: for its amount, or by its statement. -/
def Unmintable (amountMinor : Int64) : Prop :=
  amountMinor ≤ 0 ∨
    plan (.insertCharge (Checkout.newCharge uuids (checkoutRequest link amountMinor))) ≠ .commit

/-- How an open of a stored link ends. -/
inductive Opening : Except LinkError CheckoutCreated → Db → Prop where
  | unresolved (error : LinkError) (reason : plan (.linkByRef link.ref) ≠ .commit ∨
      link.status ≠ .active ∨ link.amountMinor.or amountOverride = none) :
      Opening (.error error) before
  | untaken (error : LinkError) (reason : plan (.takeLinkUse link.ref) ≠ .commit) :
      Opening (.error error) before
  | unminted {amountMinor : Int64} (error : LinkError)
      (loaded : plan (.linkByRef link.ref) = .commit) (active : link.status = .active)
      (amount : link.amountMinor.or amountOverride = some amountMinor)
      (taken : limited link = true → plan (.takeLinkUse link.ref) = .commit)
      (reason : Unmintable plan uuids link amountMinor) :
      Opening (.error error) (if limited link then before.takeLinkUse link.ref else before)
  | minted {amountMinor : Int64} {created : CheckoutCreated} {after : Db}
      (amount : link.amountMinor.or amountOverride = some amountMinor)
      (mintable : ¬Unmintable plan uuids link amountMinor) : Opening (.ok created) after

/-- An open of the link takes a use of it and mints nothing for it. -/
structure Wasteful : Prop where
  loaded : plan (.linkByRef link.ref) = .commit
  active : link.status = .active
  limited : limited link = true
  taken : plan (.takeLinkUse link.ref) = .commit
  refused : ∃ amountMinor, link.amountMinor.or amountOverride = some amountMinor ∧
    Unmintable plan uuids link amountMinor

variable {plan uuids link amountOverride before} {baseUrl : String} {after : Db}
  {outcome : Except LinkError CheckoutCreated}

theorem minted_of_runs {amountMinor : Int64} (new : before.NewCheckout uuids)
    (runs : sqlite.RunsUnder plan (mint baseUrl uuids link amountMinor) before (some outcome)
      after) :
    (∃ created, outcome = .ok created) ∧ ¬Unmintable plan uuids link amountMinor ∨
      (∃ error, outcome = .error error) ∧ after = before ∧
        Unmintable plan uuids link amountMinor := by
  unfold mint at runs
  split at runs
  · rename_i chargeable
    have positive := (chargeable_checkoutRequest link amountMinor).mp chargeable
    rcases Machine.runsUnder_issue runs with ⟨stored, _, _, _, _, rest⟩ | ⟨rfl, ends, reason⟩
    · obtain ⟨ended, _⟩ := Machine.runsUnder_done rest
      refine .inl ⟨⟨_, Option.some.inj ended⟩, ?_⟩
      rintro (nonpositive | unstored)
      · exact Int64.not_lt.mpr nonpositive positive
      · exact unstored stored
    · obtain ⟨error, failed⟩ := ends _ rfl
      refine .inr ⟨⟨_, failed⟩, rfl, .inr ?_⟩
      rcases reason with unstored | ⟨env, error, refused⟩
      · exact unstored
      · have charged : 0 < Checkout.minorUnits (checkoutRequest link amountMinor).amount :=
          F64.minor_pos positive
        obtain ⟨stored, executed⟩ := Checkout.insertCharge_checkout new charged env
        rw [executed] at refused
        cases refused
  · rename_i unchargeable
    obtain ⟨ended, rfl⟩ := Machine.runsUnder_done runs
    refine .inr ⟨⟨_, Option.some.inj ended⟩, rfl, .inl (Int64.not_lt.mp fun positive => ?_)⟩
    exact unchargeable ((chargeable_checkoutRequest link amountMinor).mpr positive)

theorem opening_of_take {amountMinor : Int64} (new : before.NewCheckout uuids)
    (loaded : plan (.linkByRef link.ref) = .commit) (active : link.status = .active)
    (amount : link.amountMinor.or amountOverride = some amountMinor)
    (runs : sqlite.RunsUnder plan (take baseUrl uuids link.ref link amountMinor) before
      (some outcome) after) :
    Opening plan uuids link amountOverride before outcome after := by
  unfold take at runs
  split at runs
  · rename_i isLimited
    rcases Machine.runsUnder_issue runs with ⟨taken, _, _, _, executed, rest⟩ | ⟨rfl, ends, reason⟩
    · cases executed
      have newLater : (before.takeLinkUse link.ref).NewCheckout uuids := new
      rcases minted_of_runs newLater rest with ⟨⟨_, rfl⟩, mintable⟩ | ⟨⟨error, rfl⟩, rfl, refused⟩
      · exact .minted amount mintable
      · have opening : Opening plan uuids link amountOverride before (.error error)
            (if limited link then before.takeLinkUse link.ref else before) :=
          .unminted error loaded active amount (fun _ => taken) refused
        rwa [if_pos isLimited] at opening
    · obtain ⟨error, rfl⟩ := ends _ rfl
      rcases reason with untaken | ⟨_, _, refused⟩
      · exact .untaken _ untaken
      · cases refused
  · rename_i unlimited
    rcases minted_of_runs new runs with ⟨⟨_, rfl⟩, mintable⟩ | ⟨⟨error, rfl⟩, rfl, refused⟩
    · exact .minted amount mintable
    · have opening : Opening plan uuids link amountOverride after (.error error)
          (if limited link then after.takeLinkUse link.ref else after) :=
        .unminted error loaded active amount (fun isLimited => absurd isLimited unlimited) refused
      rwa [if_neg unlimited] at opening

theorem opening_of_runs (member : link ∈ before.paymentLinks) (new : before.NewCheckout uuids)
    (runs : sqlite.RunsUnder plan (openLink baseUrl uuids link.ref amountOverride).run before
      (some outcome) after) :
    Opening plan uuids link amountOverride before outcome after := by
  rw [run_openLink] at runs
  rcases Machine.runsUnder_issue runs with ⟨loaded, _, _, _, executed, rest⟩ | ⟨rfl, ends, reason⟩
  · cases executed
    rw [Db.find_link member] at rest
    change sqlite.RunsUnder plan (useLink baseUrl uuids link.ref amountOverride link) before
      (some outcome) after at rest
    unfold useLink at rest
    split at rest
    · rename_i inactive
      obtain ⟨ended, rfl⟩ := Machine.runsUnder_done rest
      cases ended
      exact .unresolved _ (.inr (.inl inactive))
    · rename_i active
      cases amount : link.amountMinor.or amountOverride with
      | none =>
          rw [amount] at rest
          obtain ⟨ended, rfl⟩ := Machine.runsUnder_done rest
          cases ended
          exact .unresolved _ (.inr (.inr amount))
      | some amountMinor =>
          rw [amount] at rest
          exact opening_of_take new loaded (not_not.mp active) amount rest
  · obtain ⟨error, rfl⟩ := ends _ rfl
    rcases reason with unloaded | ⟨_, _, refused⟩
    · exact .unresolved _ (.inl unloaded)
    · cases refused

/-- An open that returns an error leaves the link and the charges as they were,
exactly when it does not take a use for a checkout that is then refused. -/
theorem failed_open_intact_iff (member : link ∈ before.paymentLinks)
    (new : before.NewCheckout uuids)
    (runs : sqlite.RunsUnder plan (openLink baseUrl uuids link.ref amountOverride).run before
      (some outcome) after) :
    (∀ error, outcome = .error error →
        link ∈ after.paymentLinks ∧ after.charges = before.charges) ↔
      ¬Wasteful plan uuids link amountOverride := by
  have opening := opening_of_runs member new runs
  constructor
  · intro intact wasteful
    obtain ⟨requested, amount, unmintable⟩ := wasteful.refused
    cases opening with
    | unresolved _ reason =>
        rcases reason with unloaded | inactive | missing
        · exact unloaded wasteful.loaded
        · exact inactive wasteful.active
        · rw [missing] at amount
          cases amount
    | untaken _ reason => exact reason wasteful.taken
    | unminted error =>
        obtain ⟨kept, _⟩ := intact error rfl
        rw [if_pos wasteful.limited] at kept
        exact Db.not_mem_takeLinkUse member wasteful.limited kept
    | minted priced mintable =>
        cases amount.symm.trans priced
        exact mintable unmintable
  · intro thrifty error failed
    cases opening with
    | unresolved | untaken => exact ⟨member, rfl⟩
    | unminted _ loaded active amount taken reason =>
        by_cases isLimited : limited link = true
        · exact absurd ⟨loaded, active, isLimited, taken isLimited, _, amount, reason⟩ thrifty
        · rw [if_neg isLimited]
          exact ⟨member, rfl⟩
    | minted => cases failed

end PaymentLink

/-- The taking of a use fails. -/
def takingDown (op : Statement) : Fate :=
  match op with
  | .takeLinkUse _ => .fail
  | _ => .commit

theorem failed_open_intact_iff_sample : ∃ link ∈ oneUse.paymentLinks, ∃ error after,
    sqlite.RunsUnder takingDown
      (PaymentLink.openLink "https://pay.example" ⟨"1", "1"⟩ "abcdefghijkl" none).run oneUse
      (some (.error error)) after ∧
    link ∈ after.paymentLinks ∧ after.charges = oneUse.charges := by
  obtain ⟨link, member, reference⟩ : ∃ link ∈ oneUse.paymentLinks, link.ref = "abcdefghijkl" := by
    decide +kernel
  obtain ⟨error, after, runs⟩ : ∃ error after, sqlite.RunsUnder takingDown
      (PaymentLink.openLink "https://pay.example" ⟨"1", "1"⟩ "abcdefghijkl" none).run oneUse
      (some (.error error)) after := by
    have runs := sqlite.runsUnder_runUnder takingDown sampleEnv
      (PaymentLink.openLink "https://pay.example" ⟨"1", "1"⟩ "abcdefghijkl" none).run oneUse
    have failed : (sqlite.runUnder takingDown sampleEnv (PaymentLink.openLink "https://pay.example"
        ⟨"1", "1"⟩ "abcdefghijkl" none).run oneUse).1 = some (.error (.db .unavailable)) := by
      decide +kernel
    rw [failed] at runs
    exact ⟨_, _, runs⟩
  have new : oneUse.NewCheckout ⟨"1", "1"⟩ := by
    unfold Db.NewCheckout
    decide +kernel
  refine ⟨link, member, error, after, runs, ?_⟩
  rw [← reference] at runs
  refine (PaymentLink.failed_open_intact_iff member new runs).mpr (fun wasteful => ?_) error rfl
  have taken := wasteful.taken
  cases taken

def openAmount : Db :=
  sampleService.serve [.createLink ⟨"link", "abcdefghijklmnop"⟩ ⟨"Donation", none, none, some 1⟩]
    Db.empty

/-- Whoever asks for a checkout of nothing uses up the link for everyone. -/
theorem refused_open_exhausts : (∃ link ∈ openAmount.paymentLinks,
      link.ref = "abcdefghijkl" ∧ link.quantity = some 1) ∧
    ∃ error after, sqlite.RunsUnder (fun _ => .commit)
      (PaymentLink.openLink "https://pay.example" ⟨"1", "1"⟩ "abcdefghijkl" (some 0)).run
      openAmount (some (.error error)) after ∧
    ∀ link ∈ after.paymentLinks, link.quantity = some 0 := by
  have runs := sqlite.runsUnder_runUnder (fun _ => .commit) sampleEnv
    (PaymentLink.openLink "https://pay.example" ⟨"1", "1"⟩ "abcdefghijkl" (some 0)).run openAmount
  have failed : (sqlite.runUnder (fun _ => .commit) sampleEnv (PaymentLink.openLink
      "https://pay.example" ⟨"1", "1"⟩ "abcdefghijkl" (some 0)).run openAmount).1 =
        some (.error .amountRequired) := by
    decide +kernel
  rw [failed] at runs
  exact ⟨by decide +kernel, _, _, runs, by decide +kernel⟩

end SpritexPay
