import SpritexPay.ReissueProperties
import SpritexPay.WhitelistProperties

/-! The URLs that notifications are posted to. While the list of hosts stays as
it is, a stored URL was accepted by a checkout or was given to `charge::create`,
which does not ask the list. -/

set_option autoImplicit false

namespace SpritexPay

open Relational Resumption

/-- The URL a charge is announced to, if any, is permitted. -/
def Charge.Announces (permitted : String → Prop) (charge : Charge) : Prop :=
  ∀ url, charge.callbackUrl = some url → permitted url

theorem Charge.announces_lasting (permitted : String → Prop) :
    Charge.Lasting (Charge.Announces permitted) := fun _ _ grown announces url given =>
  announces url (grown.callbackUrl.symm.trans given)

/-- Every URL that is stored for notifications is permitted. -/
structure Db.Outbound (permitted : String → Prop) (db : Db) : Prop where
  charges : ∀ charge ∈ db.charges, charge.Announces permitted
  deliveries : ∀ delivery ∈ db.webhookDeliveries, permitted delivery.url

theorem Db.Outbound.mono {weaker stronger : String → Prop} {db : Db}
    (outbound : db.Outbound stronger) (implies : ∀ url, stronger url → weaker url) :
    db.Outbound weaker where
  charges charge member url given := implies url (outbound.charges charge member url given)
  deliveries delivery member := implies _ (outbound.deliveries delivery member)

/-! ## One request -/

/-- The request creates a charge that is announced to the URL. -/
def Request.Posts (url : String) : Request → Prop
  | .createCharge _ req => req.callbackUrl = some url
  | _ => False

section Requests

variable {service : Service} {request : Request} {response : Response} {before after : Db}
  {permitted : String → Prop}

theorem Charge.Settling.delivery_source {crates : Crates} {uuids : SettlementUuids}
    {plan : Statement → Fate} {charge : Charge} {result : Option (Except ChargeError Unit)}
    (settling : Settling crates uuids plan charge before result after) :
    ∀ delivery ∈ after.webhookDeliveries,
      delivery ∈ before.webhookDeliveries ∨ charge.callbackUrl = some delivery.url := by
  cases settling with
  | unposted => exact fun _ => .inl
  | unpaid posting | uncollected _ posting | unannounced _ _ posting | silent _ _ posting =>
      obtain ⟨_, _, _, rfl⟩ := posting.posts
      exact fun _ => .inl
  | announced _ _ posting callback queues =>
      obtain ⟨_, _, _, rfl⟩ := posting.posts
      obtain ⟨_, webhookDeliveries, inserted, rfl⟩ := queues
      intro delivery member
      rcases (Table.mem_insert? inserted).mp member with old | rfl
      · exact .inl old
      · exact .inr callback

theorem deliveries_served (outbound : before.Outbound permitted)
    (served : sqlite.Runs (request.program service) before response after) :
    ∀ delivery ∈ after.webhookDeliveries, permitted delivery.url := by
  cases ingests : request.isIngest with
  | false =>
      intro delivery member
      rcases (steady_served ingests served).webhookDeliveries.source member with
        ⟨old, oldMember, grown⟩ | new
      · rw [grown.url]
        exact outbound.deliveries old oldMember
      · cases new
  | true =>
      obtain ⟨uuids, replies, gw, rawBody, rfl⟩ := Request.eq_ingest ingests
      obtain ⟨outcome, runs, rfl⟩ := runs_respond_iff.mp served
      have ingesting := Sms.ingesting_of_ingest runs.undisturbed
      generalize some outcome = result at ingesting
      cases ingesting with
      | unrecorded same =>
          rw [same.webhookDeliveries]
          exact outbound.deliveries
      | unmatched _ _ records =>
          obtain ⟨_, _, _, _, rfl⟩ := records
          exact outbound.deliveries
      | @matched _ charge _ _ _ _ _ records _ member _ _ settling =>
          obtain ⟨_, _, _, _, rfl⟩ := records
          intro delivery deliveryMember
          rcases settling.delivery_source delivery deliveryMember with old | announced
          · exact outbound.deliveries delivery old
          · exact outbound.charges charge member _ announced

theorem charges_announce (outbound : before.Outbound permitted)
    (allows : ∀ url, before.allows (some url) = true → permitted url)
    (posts : ∀ url, request.Posts url → permitted url)
    (served : sqlite.Runs (request.program service) before response after) :
    ∀ charge ∈ after.charges, charge.Announces permitted := by
  have silent : ∀ columns : NewCharge, columns.callbackUrl = none → ∀ now positive,
      (columns.row now positive).Announces permitted := by
    intro columns none now positive url given
    cases none.symm.trans given
  cases request with
  | createCheckout uuids req =>
      obtain ⟨outcome, runs, rfl⟩ := runs_respond_iff.mp served
      rcases Checkout.opening_of_runs runs with ⟨_, rfl⟩ |
        ⟨_, notifies, now, positive, charges, inserted, rfl⟩
      · exact outbound.charges
      · refine Table.forall_mem_insert? outbound.charges (fun url given => ?_) inserted
        have webhook : req.webhookUrl = some url := given
        rw [webhook] at notifies
        exact allows url notifies
  | createCharge uuid req =>
      refine charges_served (Charge.announces_lasting permitted) ?_ outbound.charges served
      rintro _ rfl now positive url given
      exact posts url given
  | issuePayment uuids invoiceId =>
      refine charges_served (Charge.announces_lasting permitted) ?_ outbound.charges served
      rintro _ ⟨invoice, rfl⟩
      exact silent _ rfl
  | openLink uuids ref amountOverride =>
      refine charges_served (Charge.announces_lasting permitted) ?_ outbound.charges served
      rintro _ ⟨link, amountMinor, rfl⟩
      exact silent _ rfl
  | _ =>
      refine charges_served (Charge.announces_lasting permitted) ?_ outbound.charges served
      exact fun _ impossible => False.elim impossible

end Requests

/-! ## Runs -/

/-- The calls served since the start, newest first, none of which changed the list
of hosts. -/
inductive Listed (service : Service) (start : Db) : List Call → Db → Prop where
  | start : Listed service start [] start
  | serve {past : List Call} {db after : Db} {request : Request} {response : Response}
      (earlier : Listed service start past db)
      (kept : after.allowedDomains = start.allowedDomains)
      (served : sqlite.Runs (request.program service) db response after) :
      Listed service start (⟨request, response⟩ :: past) after

section Runs

variable {service : Service} {start db : Db} {calls : List Call}

theorem Listed.kept (run : Listed service start calls db) :
    db.allowedDomains = start.allowedDomains := by
  cases run with
  | start => rfl
  | serve _ kept _ => exact kept

theorem Db.allows_congr {before after : Db} (same : after.allowedDomains = before.allowedDomains)
    (url : Option String) : after.allows url = before.allows url := by
  unfold Db.allows
  rw [same]

/-- A URL that the list accepts, or that a charge was created with. -/
def Sanctioned (start : Db) (calls : List Call) (url : String) : Prop :=
  start.allows (some url) = true ∨ ∃ call ∈ calls, call.request.Posts url

theorem outbound_of_listed (run : Listed service start calls db) (unsold : start.charges = ∅)
    (silent : start.webhookDeliveries = ∅) : db.Outbound (Sanctioned start calls) := by
  induction run with
  | start => exact ⟨by simp [unsold], by simp [silent]⟩
  | @serve past before after request response earlier _ served ih =>
      have grown : ∀ url, Sanctioned start past url →
          Sanctioned start (⟨request, response⟩ :: past) url := fun url =>
        Or.imp_right fun ⟨call, member, posts⟩ => ⟨call, .tail _ member, posts⟩
      have outbound := ih.mono grown
      refine ⟨charges_announce outbound (fun url allowed => ?_) (fun url posts => ?_) served,
        deliveries_served outbound served⟩
      · rw [Db.allows_congr earlier.kept] at allowed
        exact .inl allowed
      · exact .inr ⟨_, List.mem_cons_self, posts⟩

theorem url_of_due {now : Timestamp} {due : Due} (member : due ∈ db.dueWebhooks now) :
    ∃ delivery ∈ db.webhookDeliveries, delivery.url = due.url := by
  obtain ⟨delivery, listed, rfl⟩ := List.mem_map.mp member
  have sorted := List.mem_mergeSort.mp (List.mem_of_mem_take listed)
  exact ⟨delivery, (List.mem_filter.mp sorted).1, rfl⟩

/-- While the list of hosts is not empty and stays as it is, every URL that is
stored for notifications, and so every URL that is posted to, is accepted by the
list or was given to `charge::create`. -/
theorem outbound_listed (run : Listed service start calls db) (unsold : start.charges = ∅)
    (silent : start.webhookDeliveries = ∅) (listed : start.allowedDomains.rows ≠ []) :
    db.allowedDomains.rows ≠ [] ∧
    (∀ delivery ∈ db.webhookDeliveries, Domain.Accepts db delivery.url ∨
      ∃ call ∈ calls, call.request.Posts delivery.url) ∧
    ∀ now, ∀ due ∈ db.dueWebhooks now, Domain.Accepts db due.url ∨
      ∃ call ∈ calls, call.request.Posts due.url := by
  have sanctioned : ∀ delivery ∈ db.webhookDeliveries, Domain.Accepts db delivery.url ∨
      ∃ call ∈ calls, call.request.Posts delivery.url := by
    intro delivery member
    refine Or.imp_left (fun allowed => ?_)
      ((outbound_of_listed run unsold silent).deliveries delivery member)
    rw [Domain.accepts_iff, Db.allows_congr run.kept]
    exact allowed
  refine ⟨by rw [run.kept]; exact listed, sanctioned, fun now due member => ?_⟩
  obtain ⟨delivery, deliveryMember, same⟩ := url_of_due member
  rw [← same]
  exact sanctioned delivery deliveryMember

end Runs

theorem Listed.next {service : Service} {start db : Db} {calls : List Call}
    (run : Listed service start calls db) (request : Request)
    (kept : (service.serve [request] db).allowedDomains = start.allowedDomains) :
    Listed service start
      (⟨request, (sqlite.run (request.program service) (fun _ => sampleEnv) db).1⟩ :: calls)
      (service.serve [request] db) :=
  run.serve kept (sqlite.runs_run (request.program service) (fun _ => sampleEnv) db)

def listedCheckout : Request :=
  .createCheckout ⟨"1", "1"⟩ ⟨none, none, none, Binary64.F64.ofRat 500, "BDT", none,
    some "https://good.com/paid", .null⟩

theorem outbound_listed_sample :
    let db := sampleService.serve [listedCheckout, samplePayment "a" "TRXA"]
      (Domain.listing "good.com")
    db.webhookDeliveries.rows.length = 1 ∧
      ∀ delivery ∈ db.webhookDeliveries, Domain.Accepts db delivery.url := by
  have run := ((Listed.start : Listed sampleService (Domain.listing "good.com") [] _).next
    listedCheckout (by decide +kernel)).next (samplePayment "a" "TRXA") (by decide +kernel)
  refine ⟨by decide +kernel, fun delivery member => ?_⟩
  obtain ⟨_, stored, _⟩ := outbound_listed run rfl rfl (List.cons_ne_nil _ _)
  refine (stored delivery member).resolve_right ?_
  simp [listedCheckout, samplePayment, Request.Posts]

/-- A charge that is created with a callback outside the list, and paid. -/
def foreignCharge : Request :=
  .createCharge "1" ⟨"order-1", 50000, "BDT", none, none, some "http://169.254.169.254/"⟩

theorem foreign_callback_queued : ∃ calls db,
    Listed sampleService (Domain.listing "good.com") calls db ∧
    ∃ delivery ∈ db.webhookDeliveries, ¬Domain.Accepts db delivery.url := by
  have run := ((Listed.start : Listed sampleService (Domain.listing "good.com") [] _).next
    foreignCharge (by decide +kernel)).next (samplePayment "a" "TRXA") (by decide +kernel)
  refine ⟨_, _, run, ?_⟩
  simp only [Domain.accepts_iff]
  decide +kernel

end SpritexPay
