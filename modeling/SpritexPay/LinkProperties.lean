import SpritexPay.CheckoutProperties
import SpritexPay.Evolution
import SpritexPay.Resumption.Protocol

/-! The quantity of a payment link. Loading a link, taking a use of it and
minting the checkout are separate statements. Each open that has taken a use
holds a ticket until it has minted, and as long as uses are only taken where
some are left, tickets and checkouts together stay within the quantity. -/

set_option autoImplicit false

namespace SpritexPay

open Relational Resumption

def PaymentLink.mints (link : PaymentLink) (amountOverride : Option Int64) : Bool :=
  decide (link.status = .active) && (link.amountMinor.or amountOverride).any fun amountMinor =>
    Checkout.chargeable (PaymentLink.checkoutRequest link amountMinor).amount

/-- A statement of an open does not go beyond the quantity: an exhausted link is
only loaded where the open would be refused anyway, and a use is only taken where
one is left. -/
structure Statement.WithinQuantity (ref : String) (amountOverride : Option Int64)
    (op : Statement) (db : Db) : Prop where
  loads : op = .linkByRef ref → ∀ link ∈ db.paymentLinks, link.ref = ref →
    link.quantity.any (· ≤ 0) = true → link.mints amountOverride = false
  takes : op = .takeLinkUse ref → ∀ link ∈ db.paymentLinks, link.ref = ref →
    link.quantity.all (0 < ·) = true

instance (ref : String) (amountOverride : Option Int64) (op : Statement) (db : Db) :
    Decidable (op.WithinQuantity ref amountOverride db) :=
  decidable_of_iff
    ((op = .linkByRef ref → ∀ link ∈ db.paymentLinks, link.ref = ref →
        link.quantity.any (· ≤ 0) = true → link.mints amountOverride = false) ∧
      (op = .takeLinkUse ref → ∀ link ∈ db.paymentLinks, link.ref = ref →
        link.quantity.all (0 < ·) = true))
    ⟨fun ⟨loads, takes⟩ => ⟨loads, takes⟩, fun within => ⟨within.loads, within.takes⟩⟩

/-- The quantity of a link bounds what was minted since there were `minted`
charges, and the tickets out. -/
def Db.Rationed (ref : String) (quantity : Int) (minted : Nat) (db : Db) (tickets : Nat) : Prop :=
  ∃ link ∈ db.paymentLinks, link.ref = ref ∧ ∃ left, link.quantity = some left ∧
    (0 ≤ left ∨ left = quantity) ∧
    (db.charges.rows.length : Int) + tickets ≤ minted + (quantity - left)

namespace Db

variable {ref : String} {quantity : Int} {minted tickets : Nat} {db after : Db}

theorem eq_of_link_ref {left right : PaymentLink} (leftMember : left ∈ db.paymentLinks)
    (rightMember : right ∈ db.paymentLinks) (same : left.ref = right.ref) : left = right :=
  Table.eq_of_clash leftMember rightMember (by simp [key, clash, same])

theorem mem_takeLinkUse {link : PaymentLink} :
    link ∈ (db.takeLinkUse ref).paymentLinks ↔ ∃ old ∈ db.paymentLinks,
      (if old.ref == ref then { old with quantity := old.quantity.map (· - 1) } else old) =
        link := by
  refine Table.mem_update ?_
  exact fun _ => rfl

theorem Rationed.bounded (rationed : db.Rationed ref quantity minted tickets) :
    db.charges.rows.length ≤ minted + quantity.toNat := by
  obtain ⟨_, _, _, left, _, within, bounded⟩ := rationed
  omega

theorem Rationed.exhausted (rationed : db.Rationed ref quantity minted tickets)
    (full : minted + quantity.toNat ≤ db.charges.rows.length) {link : PaymentLink}
    (member : link ∈ db.paymentLinks) (same : link.ref = ref) :
    link.quantity.any (· ≤ 0) = true := by
  obtain ⟨owner, ownerMember, ownerRef, left, remaining, within, bounded⟩ := rationed
  rw [eq_of_link_ref member ownerMember (same.trans ownerRef.symm), remaining]
  simp only [Option.any_some, decide_eq_true_eq]
  omega

theorem Rationed.take (rationed : db.Rationed ref quantity minted tickets)
    (available : ∀ link ∈ db.paymentLinks, link.ref = ref → link.quantity.all (0 < ·) = true) :
    (db.takeLinkUse ref).Rationed ref quantity minted (1 + tickets) := by
  obtain ⟨link, member, rfl, left, remaining, _, bounded⟩ := rationed
  have positive : 0 < left := by simpa [remaining] using available link member rfl
  refine ⟨_, mem_takeLinkUse.mpr ⟨link, member, rfl⟩, by simp, left - 1, by simp [remaining],
    .inl (by omega), ?_⟩
  change (db.charges.rows.length : Int) + _ ≤ _
  push_cast
  omega

theorem Rationed.mint {columns : NewCharge} {now : Timestamp}
    (rationed : db.Rationed ref quantity minted (1 + tickets))
    (inserted : db.insertCharge now columns = .ok after) :
    after.Rationed ref quantity minted tickets := by
  obtain ⟨_, charges, stored, rfl⟩ := insertCharge_ok inserted
  obtain ⟨link, member, same, left, remaining, within, bounded⟩ := rationed
  refine ⟨link, member, same, left, remaining, within, ?_⟩
  rw [Table.rows_insert? stored, List.length_append, List.length_singleton]
  push_cast at bounded ⊢
  omega

theorem Rationed.fewer {more : Nat} (rationed : db.Rationed ref quantity minted (more + tickets)) :
    db.Rationed ref quantity minted (0 + tickets) := by
  obtain ⟨link, member, same, left, remaining, within, bounded⟩ := rationed
  refine ⟨link, member, same, left, remaining, within, ?_⟩
  push_cast at bounded ⊢
  omega

end Db

theorem PaymentLink.limited_of_exhausted {link : PaymentLink}
    (exhausted : link.quantity.any (· ≤ 0) = true) : limited link = false := by
  unfold limited
  cases remaining : link.quantity with
  | none => rfl
  | some left =>
      rw [remaining] at exhausted
      simpa using exhausted

theorem PaymentLink.useLink_refused (baseUrl ref : String) (uuids : CheckoutUuids)
    {amountOverride : Option Int64} {link : PaymentLink} (exhausted : limited link = false)
    (refused : link.mints amountOverride = false) :
    ∃ error, useLink baseUrl uuids ref amountOverride link = .done (.error error) := by
  unfold useLink
  split
  · exact ⟨_, rfl⟩
  · rename_i active
    cases amount : link.amountMinor.or amountOverride with
    | none => exact ⟨_, rfl⟩
    | some amountMinor =>
        have unchargeable :
            Checkout.chargeable (checkoutRequest link amountMinor).amount = false := by
          simpa [mints, not_not.mp active, amount] using refused
        refine ⟨.amountRequired, ?_⟩
        simp [take, exhausted, mint, unchargeable]

/-! ## The protocol of the opens -/

section Protocol

variable {Thread : Type}

/-- Tickets are the shares, and nothing is asked of the logs. -/
def ration (ref : String) (quantity : Int) (minted : Nat) (requests : Thread → Request) :
    Protocol sqlite Thread Response Nat where
  holds := Db.Rationed ref quantity minted
  evolves := Db.Evolves
  admits thread op db := ∀ uuids amountOverride,
    requests thread = .openLink uuids ref amountOverride →
      op.WithinQuantity ref amountOverride db
  owns _ _ _ _ := True
  evolves_refl := Db.Evolves.refl
  evolves_trans := Db.Evolves.trans
  evolves_apply := evolves_apply

variable {ref : String} {quantity : Int} {minted : Nat} {requests : Thread → Request}
  {faults : Bool} {thread : Thread} {log : List (Act signature Db)} {seen : Db}

theorem safe_mint (baseUrl : String) (uuids : CheckoutUuids) (link : PaymentLink)
    (amountMinor : Int64) (ticket : Nat) (held : ticket = 1) :
    (ration ref quantity minted requests).Safe faults thread
      (PaymentLink.mint baseUrl uuids link amountMinor) (fun _ _ _ _ => True) log ticket seen := by
  subst held
  unfold PaymentLink.mint
  split
  · refine ⟨trivial, fun before frame _ holds _ reply after replied => ?_⟩
    rcases reply_cases replied with ⟨env, _, executed, rfl⟩ | ⟨error, rfl, rfl⟩
    · refine ⟨0, ?_, trivial⟩
      rw [Nat.zero_add]
      exact holds.mint (Statement.stored_ok executed)
    · exact ⟨0, holds.fewer, trivial⟩
  · trivial

theorem safe_openLink {uuids : CheckoutUuids} {amountOverride : Option Int64}
    (opens : requests thread = .openLink uuids ref amountOverride) (baseUrl : String) :
    (ration ref quantity minted requests).Safe faults thread
      (PaymentLink.openLink baseUrl uuids ref amountOverride).run (fun _ _ _ _ => True) log 0
      seen := by
  rw [PaymentLink.run_openLink]
  refine ⟨trivial, fun before frame _ holds admitted reply after replied => ⟨0, ?_, ?_⟩⟩
  · have same : after = before := reply_differsAt replied
    rw [same]
    exact holds
  · rcases reply_cases replied with ⟨env, found, executed, rfl⟩ | ⟨error, rfl, _⟩
    swap
    · trivial
    cases executed
    cases loaded : before.paymentLinks.find? (·.ref == ref) with
    | none => trivial
    | some link =>
        obtain ⟨member, same⟩ := Table.mem_of_find?_eq_some loaded
        have reference : link.ref = ref := by simpa using same
        change (ration ref quantity minted requests).Safe faults thread
          (PaymentLink.useLink baseUrl uuids ref amountOverride link) _ _ 0 _
        cases limits : PaymentLink.limited link with
        | false =>
            have exhausted : link.quantity.any (· ≤ 0) = true := by
              obtain ⟨owner, ownerMember, ownerRef, left, remaining, _⟩ := holds
              have owned := Db.eq_of_link_ref member ownerMember (reference.trans ownerRef.symm)
              rw [owned, PaymentLink.limited, remaining] at limits
              rw [owned, remaining]
              simpa using limits
            obtain ⟨error, refused⟩ := PaymentLink.useLink_refused baseUrl ref uuids limits
              ((admitted uuids amountOverride opens).loads rfl link member reference exhausted)
            rw [refused]
            trivial
        | true =>
            unfold PaymentLink.useLink
            split
            · trivial
            · cases link.amountMinor.or amountOverride with
              | none => trivial
              | some amountMinor =>
                  change (ration ref quantity minted requests).Safe faults thread
                    (PaymentLink.take baseUrl uuids ref link amountMinor) _ _ 0 _
                  rw [PaymentLink.take, if_pos limits]
                  refine ⟨trivial, fun before frame _ holds admitted reply after replied => ?_⟩
                  rcases reply_cases replied with ⟨env, _, executed, rfl⟩ | ⟨error, rfl, rfl⟩
                  · cases executed
                    rw [Nat.zero_add] at holds
                    exact ⟨1, holds.take ((admitted uuids amountOverride opens).takes rfl),
                      safe_mint _ _ _ _ 1 rfl⟩
                  · exact ⟨0, holds, trivial⟩

theorem safe_open (service : Service) {uuids : CheckoutUuids} {amountOverride : Option Int64}
    (opens : requests thread = .openLink uuids ref amountOverride) :
    (ration ref quantity minted requests).SafeThread faults thread
      ((requests thread).program service) log 0 seen := by
  rw [opens]
  exact Protocol.safe_bind (Protocol.safe_mono (safe_openLink opens service.baseUrl)
    fun _ _ _ _ _ => trivial)

end Protocol

/-! ## Runs of opens -/

section Pool

variable {Thread : Type} [DecidableEq Thread] {service : Service} {db : Db}
  {requests : Thread → Request} {ref : String} {faults : Bool}
  {past newer : List (Event signature Db Thread Response)}
  {config later : Config signature Db Thread Response}

def WithinQuantity (ref : String) (requests : Thread → Request)
    (past : List (Event signature Db Thread Response)) : Prop :=
  ∀ event ∈ past, ∀ uuids amountOverride,
    requests event.thread = .openLink uuids ref amountOverride →
      event.act.op.WithinQuantity ref amountOverride event.act.before

omit [DecidableEq Thread] in
theorem WithinQuantity.append (within : WithinQuantity ref requests past)
    (later : WithinQuantity ref requests newer) : WithinQuantity ref requests (newer ++ past) := by
  intro event member
  rcases List.mem_append.mp member with new | old
  · exact later event new
  · exact within event old

def Refusing (service : Service) (request : Request) (program : Program signature Response) :
    Prop :=
  program = request.program service ∨ ∃ error, program = .done (.opened (.error error))

variable [Fintype Thread]

theorem rationed_of_run (opens : ∀ thread, ∃ uuids amountOverride,
      requests thread = .openLink uuids ref amountOverride)
    {link : PaymentLink} (created : link ∈ db.paymentLinks) (reference : link.ref = ref)
    {quantity : Int} (limited : link.quantity = some quantity)
    (run : Run sqlite faults (service.pool db requests) past config)
    (within : WithinQuantity ref requests past) :
    ∃ tickets, config.store.Rationed ref quantity db.charges.rows.length tickets := by
  have start : (ration ref quantity db.charges.rows.length requests).PoolSafe faults []
      (service.pool db requests) := by
    refine Protocol.poolSafe_start (fun _ => 0) ?_ fun thread => ?_
    · rw [Finset.sum_const_zero]
      exact ⟨link, created, reference, quantity, limited, .inr rfl, by simp [Service.pool]⟩
    · obtain ⟨uuids, amountOverride, opened⟩ := opens thread
      exact safe_open service opened
  obtain ⟨shares, rationed, _⟩ := Protocol.run_safe start within run
  exact ⟨_, rationed⟩

theorem program_openLink (uuids : CheckoutUuids) (amountOverride : Option Int64) :
    (Request.openLink uuids ref amountOverride).program service =
      .issue (.linkByRef ref) (fun error => .opened (.error (.db error))) fun found =>
        (found.elim (.done (.error .notFound))
          (PaymentLink.useLink service.baseUrl uuids ref amountOverride)) >>= fun outcome =>
            .done (.opened outcome) := by
  change (PaymentLink.openLink service.baseUrl uuids ref amountOverride).run >>= _ = _
  rw [PaymentLink.run_openLink]
  exact Program.issue_bind fun _ => rfl

/-- An open that begins when nothing is left ends in an error. -/
theorem refusing_step {uuids : CheckoutUuids} {amountOverride : Option Int64} {op : Statement}
    {next : signature.Reply op → Program signature Response} {reply : signature.Reply op}
    {before after : Db}
    (waiting : (Request.openLink uuids ref amountOverride).program service = .stmt op next)
    (exhausted : ∀ link ∈ before.paymentLinks, link.ref = ref →
      link.quantity.any (· ≤ 0) = true)
    (within : op.WithinQuantity ref amountOverride before)
    (replied : sqlite.Replies faults op before reply after) :
    ∃ error, next reply = .done (.opened (.error error)) := by
  rw [program_openLink] at waiting
  cases waiting
  rcases reply_cases replied with ⟨env, found, executed, rfl⟩ | ⟨error, rfl, _⟩
  · cases executed
    cases loaded : before.paymentLinks.find? (·.ref == ref) with
    | none => exact ⟨.notFound, rfl⟩
    | some link =>
        obtain ⟨member, same⟩ := Table.mem_of_find?_eq_some loaded
        have reference : link.ref = ref := by simpa using same
        have nothing := exhausted link member reference
        obtain ⟨error, refused⟩ := PaymentLink.useLink_refused service.baseUrl ref uuids
          (PaymentLink.limited_of_exhausted nothing)
          (within.loads rfl link member reference nothing)
        refine ⟨error, ?_⟩
        change (PaymentLink.useLink service.baseUrl uuids ref amountOverride link >>= _) = _
        rw [refused]
        rfl
  · exact ⟨.db error, rfl⟩

theorem refusing_of_full (opens : ∀ thread, ∃ uuids amountOverride,
      requests thread = .openLink uuids ref amountOverride)
    {link : PaymentLink} (created : link ∈ db.paymentLinks) (reference : link.ref = ref)
    {quantity : Int} (limited : link.quantity = some quantity)
    (run : Run sqlite faults (service.pool db requests) past config)
    (within : WithinQuantity ref requests past)
    (full : db.charges.rows.length + quantity.toNat ≤ config.store.charges.rows.length)
    (goesOn : Run sqlite faults config newer later)
    (withinLater : WithinQuantity ref requests newer)
    {thread : Thread} (refusing : Refusing service (requests thread) (config.threads thread)) :
    Refusing service (requests thread) (later.threads thread) := by
  induction goesOn with
  | start => exact refusing
  | @step newer middle stepped op next reply after earlier waiting replied ih =>
      have before := ih fun event member => withinLater event (List.mem_cons_of_mem _ member)
      by_cases same : stepped = thread
      swap
      · simpa [Function.update_of_ne (Ne.symm same)] using before
      subst same
      rcases before with unbegun | ⟨error, ended⟩
      swap
      · rw [waiting] at ended
        cases ended
      obtain ⟨uuids, amountOverride, opened⟩ := opens stepped
      obtain ⟨tickets, rationed⟩ := rationed_of_run opens created reference limited
        (run.append earlier)
        (within.append fun event member => withinLater event (List.mem_cons_of_mem _ member))
      have grown : config.store.Evolves middle.store :=
        earlier.store_relates Db.Evolves.refl Db.Evolves.trans evolves_apply
      have fullYet := full.trans grown.charges.length_le
      rw [waiting, opened] at unbegun
      obtain ⟨error, refused⟩ := refusing_step unbegun.symm
        (fun other member same => rationed.exhausted fullYet member same)
        (withinLater _ List.mem_cons_self uuids amountOverride opened) replied
      exact .inr ⟨error, by simpa using refused⟩

/-- While no open goes beyond the quantity, the link mints at most as many
checkouts, and once it has minted all of them every further open is refused. -/
theorem opens_within_quantity (opens : ∀ thread, ∃ uuids amountOverride,
      requests thread = .openLink uuids ref amountOverride)
    {link : PaymentLink} (created : link ∈ db.paymentLinks) (reference : link.ref = ref)
    {quantity : Int} (limited : link.quantity = some quantity)
    (run : Run sqlite faults (service.pool db requests) past config)
    (within : WithinQuantity ref requests past) :
    config.store.charges.rows.length ≤ db.charges.rows.length + quantity.toNat ∧
    (config.store.charges.rows.length = db.charges.rows.length + quantity.toNat →
      ∀ newer later, Run sqlite faults config newer later → WithinQuantity ref requests newer →
        later.store.charges.rows.length = config.store.charges.rows.length ∧
        ∀ thread, config.threads thread = (requests thread).program service →
          ∀ response, later.threads thread = .done response →
            ∃ error, response = .opened (.error error)) := by
  obtain ⟨tickets, rationed⟩ := rationed_of_run opens created reference limited run within
  refine ⟨rationed.bounded, fun full newer later goesOn withinLater => ⟨?_, ?_⟩⟩
  · obtain ⟨_, rationedLater⟩ := rationed_of_run opens created reference limited
      (run.append goesOn) (within.append withinLater)
    have grown : config.store.Evolves later.store :=
      goesOn.store_relates Db.Evolves.refl Db.Evolves.trans evolves_apply
    have bounded := rationedLater.bounded
    have kept := grown.charges.length_le
    omega
  · intro thread unbegun response ended
    rcases refusing_of_full opens created reference limited run within full.ge goesOn withinLater
      (.inl unbegun) with still | ⟨error, refused⟩
    · obtain ⟨uuids, amountOverride, opened⟩ := opens thread
      rw [ended, opened, program_openLink] at still
      cases still
    · rw [ended] at refused
      cases refused
      exact ⟨error, rfl⟩

end Pool

/-! ## A link for one use -/

def oneUse : Db :=
  sampleService.serve
    [.createLink ⟨"link", "abcdefghijklmnop"⟩ ⟨"T-shirt", some 50000, none, some 1⟩] Db.empty

def twoOpens : Bool → Request
  | false => .openLink ⟨"1", "1"⟩ "abcdefghijkl" none
  | true => .openLink ⟨"2", "2"⟩ "abcdefghijkl" none

theorem twoOpens_open : ∀ thread, ∃ uuids amountOverride,
    twoOpens thread = .openLink uuids "abcdefghijkl" amountOverride := by
  intro thread
  cases thread <;> exact ⟨_, _, rfl⟩

theorem opens_within_quantity_sample : ∃ past config,
    Run sqlite false (sampleService.pool oneUse twoOpens) past config ∧
      config.store.charges.rows.length = 1 ∧
      ∀ newer later, Run sqlite false config newer later →
        WithinQuantity "abcdefghijkl" twoOpens newer → later.store.charges.rows.length = 1 := by
  have run := Run.scheduled sqlite false (sampleService.pool oneUse twoOpens) sampleEnv
    [false, false, false]
  have within : ∀ event ∈ (sampleService.pool oneUse twoOpens).trace sqlite sampleEnv
      [false, false, false],
      event.act.op.WithinQuantity "abcdefghijkl" none event.act.before := by decide +kernel
  obtain ⟨link, created, reference, limited⟩ : ∃ link ∈ oneUse.paymentLinks,
      link.ref = "abcdefghijkl" ∧ link.quantity = some 1 := by decide +kernel
  have minted : ((sampleService.pool oneUse twoOpens).schedule sqlite sampleEnv
      [false, false, false]).store.charges.rows.length = 1 := by decide +kernel
  have none : oneUse.charges.rows.length = 0 := by decide +kernel
  have bounded := opens_within_quantity twoOpens_open created reference limited run (by
    intro event member uuids amountOverride opened
    have undeclared : amountOverride = .none := by
      generalize event.thread = thread at opened
      cases thread <;> cases opened <;> rfl
    rw [undeclared]
    exact within event member)
  refine ⟨_, _, run, minted, fun newer later goesOn withinLater => ?_⟩
  rw [(bounded.2 (by rw [minted, none]; rfl) newer later goesOn withinLater).1, minted]

/-- The second open finds the link exhausted, and mints another checkout. -/
theorem exhausted_link_mints : (∃ link ∈ oneUse.paymentLinks, link.quantity = some 1) ∧
    oneUse.charges.rows.length = 0 ∧ ∃ past config,
      Run sqlite false (sampleService.pool oneUse twoOpens) past config ∧
        config.store.charges.rows.length = 2 := by
  have run := Run.scheduled sqlite false (sampleService.pool oneUse twoOpens) sampleEnv
    [false, false, false, true, true]
  exact ⟨by decide +kernel, by decide +kernel, _, _, run, by decide +kernel⟩

end SpritexPay
