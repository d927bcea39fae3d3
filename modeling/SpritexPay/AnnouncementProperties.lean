import SpritexPay.SignatureProperties
import SpritexPay.Steadiness

/-! What merchants are told. Whatever is stored to be posted, and whatever the HTTP client
is called to post, announces a charge that is paid, to the URL the charge was created with,
and the signature that goes with it verifies. -/

set_option autoImplicit false

namespace SpritexPay

open Relational Resumption

/-- What a notification says, and where it goes. -/
structure Announcement where
  chargeId : String
  url : String
  payload : String
  event : String
  deriving DecidableEq

def NewWebhook.announcement (columns : NewWebhook) : Announcement :=
  ⟨columns.chargeId, columns.url, columns.payload, columns.event⟩

def WebhookDelivery.announcement (delivery : WebhookDelivery) : Announcement :=
  ⟨delivery.chargeId, delivery.url, delivery.payload, delivery.event⟩

/-- What is to be said of a charge that was paid, if its merchant is to be told. -/
def Charge.announcement (crates : Crates) (charge : Charge) : Option Announcement :=
  charge.callbackUrl.map fun url => ⟨charge.id, url, charge.paidPayload crates, "charge.paid"⟩

theorem Charge.Grows.announcement {crates : Crates} {old new : Charge} (grown : old.Grows new) :
    new.announcement crates = old.announcement crates := by
  simp only [Charge.announcement, Charge.paidPayload, grown.id, grown.orderId, grown.amountMinor,
    grown.currency, grown.callbackUrl]

theorem WebhookDelivery.Grows.announcement {old new : WebhookDelivery} (grown : old.Grows new) :
    new.announcement = old.announcement := by
  simp only [WebhookDelivery.announcement, grown.chargeId, grown.url, grown.payload, grown.event]

theorem Charge.id_of_announcement {crates : Crates} {charge : Charge} {announced : Announcement}
    (told : charge.announcement crates = some announced) : announced.chargeId = charge.id := by
  obtain ⟨url, _, rfl⟩ := Option.map_eq_some_iff.mp told
  rfl

/-- What is announced holds: the charge is paid. -/
def Db.Announces (crates : Crates) (db : Db) (announced : Announcement) : Prop :=
  ∃ charge ∈ db.charges, charge.status = .paid ∧ charge.announcement crates = some announced

theorem Db.Evolves.announces {crates : Crates} {before after : Db} {announced : Announcement}
    (evolved : before.Evolves after) (told : before.Announces crates announced) :
    after.Announces crates announced := by
  obtain ⟨charge, member, paid, same⟩ := told
  obtain ⟨later, laterMember, grown⟩ := evolved.charges.mem member
  refine ⟨later, laterMember, ?_, grown.announcement.trans same⟩
  rcases grown.status with kept | settled
  · exact kept.trans paid
  · exact settled

/-! ## The order of a settlement -/

section Gates

variable {guarded : Statement → Prop} {opens : (op : Statement) → signature.Reply op → Prop}

theorem gated_issue {Value : Type} {op : Statement} {failed : SqlError → Value}
    {next : op.Answer → Program signature Value} {ends : Value → Prop} (unguarded : ¬guarded op)
    (succeeded : ∀ answer, opens op (.ok answer) ∨ (next answer).Gated guarded opens ends)
    (fails : ∀ error, ends (failed error)) :
    (@Program.issue signature Value op failed next).Gated guarded opens ends :=
  ⟨unguarded, fun reply => by
    cases reply with
    | ok answer => exact succeeded answer
    | error error => exact .inr (fails error)⟩

theorem gated_of_never {Value : Type} {op : Statement} {program : Program signature Value}
    (uses : program.Uses (· ≠ op) anyway) : program.Gated (· = op) opens anyway :=
  Program.gated_of_uses uses fun _ apart => apart

/-- A lookup that has found a charge of which something is true. -/
def Looked (told : String → Charge → Prop) : (op : Statement) → signature.Reply op → Prop
  | .chargeById id, .ok (some charge) => told id charge
  | _, _ => False

/-- The update of a charge. A lookup that finds a charge of another name is no reply of
a database. -/
def PaidMarked (chargeId : String) : (op : Statement) → signature.Reply op → Prop
  | .setChargePaid id, .ok _ => id = chargeId
  | .chargeById id, .ok (some charge) => charge.id ≠ id
  | _, _ => False

namespace Charge

variable {crates : Crates} {uuids : SettlementUuids} {id : String} {columns : NewWebhook}

theorem uses_notifyPaid {allowed : Statement → Prop} {uuid : String} {charge : Charge}
    (announces : ∀ columns : NewWebhook,
      charge.announcement crates = some columns.announcement → allowed (.insertWebhook columns)) :
    (notifyPaid crates uuid charge).run.Uses allowed anyway := by
  rw [run_notifyPaid]
  cases callback : charge.callbackUrl with
  | none => trivial
  | some url =>
      refine uses_issue (announces _ ?_) (fun _ => trivial) fun _ => trivial
      simp [Charge.announcement, NewWebhook.announcement, callback]

theorem uses_settling {allowed : Statement → Prop} {charge : Charge}
    (posts : ∀ writes, allowed (.ledgerTransaction writes)) (pays : allowed (.setChargePaid id))
    (settles : allowed (.settleInvoices id))
    (announces : ∀ columns : NewWebhook,
      charge.announcement crates = some columns.announcement → allowed (.insertWebhook columns)) :
    (settleFound crates uuids id charge).Uses allowed anyway :=
  uses_issue (posts _) (fun _ => uses_issue pays (fun _ => uses_issue settles
    (fun _ => uses_notifyPaid announces) fun _ => trivial) fun _ => trivial) fun _ => trivial

theorem gated_markPaid_terms :
    (markPaid crates uuids id).run.Gated (· = Statement.insertWebhook columns)
      (Looked fun _ charge => charge.announcement crates = some columns.announcement) anyway := by
  rw [run_markPaid]
  refine gated_issue (by simp) (fun found => ?_) fun _ => trivial
  cases found with
  | none => exact .inr trivial
  | some charge =>
      by_cases told : charge.announcement crates = some columns.announcement
      · exact .inl told
      · refine .inr (gated_of_never (uses_settling (by simp) (by simp) (by simp)
          fun other same => ?_))
        intro equal
        cases equal
        exact told same

theorem gated_markPaid_paid :
    (markPaid crates uuids id).run.Gated (· = Statement.insertWebhook columns)
      (PaidMarked columns.chargeId) anyway := by
  rw [run_markPaid]
  refine gated_issue (by simp) (fun found => ?_) fun _ => trivial
  cases found with
  | none => exact .inr trivial
  | some charge =>
      by_cases named : charge.id = id
      · refine .inr (gated_issue (by simp) (fun _ => .inr ?_) fun _ => trivial)
        refine gated_issue (by simp) (fun _ => ?_) fun _ => trivial
        by_cases same : id = columns.chargeId
        · exact .inl same
        · refine .inr (gated_issue (by simp) (fun _ => .inr ?_) fun _ => trivial)
          refine gated_of_never (uses_notifyPaid fun other told => ?_)
          intro equal
          cases equal
          exact same (named.symm.trans (id_of_announcement told).symm)
      · exact .inl named

theorem gated_markPaid_found {chargeId : String} :
    (markPaid crates uuids id).run.Gated (· = Statement.setChargePaid chargeId)
      (Looked fun id _ => id = chargeId) anyway := by
  rw [run_markPaid]
  refine gated_issue (by simp) (fun found => ?_) fun _ => trivial
  cases found with
  | none => exact .inr trivial
  | some charge =>
      by_cases same : id = chargeId
      · exact .inl same
      · exact .inr (gated_of_never (uses_settling (by simp) (by simpa using same) (by simp)
          (by simp)))

end Charge

/-- The statements that only a settlement issues. -/
def Statement.ofSettlement : Statement → Bool
  | .setChargePaid _ | .insertWebhook _ => true
  | _ => false

/-- What is gated in every settlement is gated in every request. -/
theorem Request.gated_of_markPaid {service : Service}
    (settlement : ∀ op, guarded op → op.ofSettlement = true)
    (marks : ∀ uuids id, (Charge.markPaid service.crates uuids id).run.Gated guarded opens anyway)
    (request : Request) : (request.program service).Gated guarded opens anyway := by
  cases ingests : request.isIngest with
  | false =>
      refine Program.gated_of_uses ((request.uses_program service ingests).mono
        (fun _ aside => aside) fun _ _ => trivial) fun op aside isGuarded => ?_
      have settles := settlement op isGuarded
      cases op with
      | setChargePaid | insertWebhook => cases aside
      | _ => cases settles
  | true =>
      obtain ⟨uuids, replies, gw, rawBody, rfl⟩ := Request.eq_ingest ingests
      have apart : ∀ op : Statement, op.ofSettlement = false → ¬guarded op := by
        intro op aside isGuarded
        rw [settlement op isGuarded] at aside
        cases aside
      have concludes : ∀ txnId found,
          (Sms.conclude service.crates uuids txnId found).Gated guarded opens anyway := by
        intro txnId found
        cases found with
        | none => trivial
        | some chargeId => exact (marks uuids.settlement chargeId).bind fun _ _ => trivial
      have ingested : (Sms.ingest service.crates replies uuids gw rawBody).run.Gated guarded opens
          anyway := by
        rw [Sms.run_ingest]
        cases resolve gw with
        | none => trivial
        | some gateway =>
            refine Program.Gated.bind (Program.gated_of_uses
              (Sms.uses_parse service.crates replies gateway rawBody _) fun op parses => ?_)
              fun outcome _ => ?_
            · cases op with
              | insertAiParse => exact apart _ rfl
              | _ => cases parses
            · cases outcome with
              | error error => trivial
              | ok result =>
                  obtain ⟨parsed, source⟩ := result
                  change (Sms.record service.crates uuids _ parsed source).run.Gated _ _ _
                  rw [Sms.run_record]
                  exact gated_issue (apart _ rfl) (fun _ => .inr (gated_issue (apart _ rfl)
                    (fun _ => .inr (concludes _ _)) fun _ => trivial)) fun _ => trivial
      exact ingested.bind fun _ _ => trivial

/-- A poll that has found a delivery due. -/
def FoundDue (due : Due) : (op : Statement) → signature.Reply op → Prop
  | .dueWebhooks, .ok dues => due ∈ dues
  | _, _ => False

/-- The statement posts nothing, or a delivery of these with its signature. -/
def Statement.PostsOf (crates : Crates) (secret : String) (dues : List Due) : Statement → Prop
  | .postWebhook due signature => due ∈ dues ∧ signature = crates.sign secret due.payload
  | _ => True

theorem Webhook.uses_posts {crates : Crates} {secret : String} {dues : List Due} :
    ∀ rest ⊆ dues, (deliverAll crates secret rest).run.Uses (Statement.PostsOf crates secret dues)
      anyway := by
  intro rest
  induction rest with
  | nil => exact fun _ => trivial
  | cons due rest ih =>
      intro within
      obtain ⟨member, later⟩ := List.cons_subset.mp within
      change ((Stage.posting due rest).program crates secret).Uses _ _
      rw [Stage.program_posting]
      refine uses_issue ⟨member, rfl⟩ (fun outcome => ?_) fun _ => trivial
      refine uses_issue ?_ (fun _ => ih later) fun _ => trivial
      unfold recordOf
      split
      · trivial
      · split <;> trivial

theorem Request.gated_posts (service : Service) {due : Due} {signature : String}
    (request : Request) : (request.program service).Gated (· = Statement.postWebhook due signature)
      (FoundDue due) anyway := by
  by_cases polls : request = .pollWebhooks
  · subst polls
    have drained : (Webhook.drainDue service.crates service.webhookSecret).run.Gated
        (· = Statement.postWebhook due signature) (FoundDue due) anyway := by
      change (Webhook.Stage.polling.program service.crates service.webhookSecret).Gated _ _ _
      rw [Webhook.Stage.program_polling]
      refine gated_issue (by simp) (fun dues => ?_) fun _ => trivial
      by_cases found : due ∈ dues
      · exact .inl found
      · rw [Webhook.Stage.program_delivering]
        refine .inr (gated_of_never ((Webhook.uses_posts dues (List.Subset.refl dues)).mono
          (fun op posts same => ?_) fun _ _ => trivial))
        subst same
        exact found posts.1
    exact drained.bind fun _ _ => trivial
  · refine gated_of_never ((request.uses_issues service).mono (fun op issued same => ?_)
      fun _ _ => trivial)
    subst same
    cases request with
    | pollWebhooks => exact polls rfl
    | _ => cases issued

/-- Whatever the statement posts is signed. -/
def Statement.Signed (crates : Crates) (secret : String) : Statement → Prop
  | .postWebhook due signature => signature = crates.sign secret due.payload
  | _ => True

theorem Request.uses_signed (service : Service) (request : Request) :
    (request.program service).Uses (Statement.Signed service.crates service.webhookSecret)
      anyway := by
  by_cases polls : request = .pollWebhooks
  · subst polls
    have drained : (Webhook.drainDue service.crates service.webhookSecret).run.Uses
        (Statement.Signed service.crates service.webhookSecret) anyway := by
      change (Webhook.Stage.polling.program service.crates service.webhookSecret).Uses _ _
      rw [Webhook.Stage.program_polling]
      refine uses_issue trivial (fun dues => ?_) fun _ => trivial
      rw [Webhook.Stage.program_delivering]
      refine (Webhook.uses_posts dues (List.Subset.refl dues)).mono (fun op posts => ?_)
        fun _ _ => trivial
      cases op with
      | postWebhook due signature => exact posts.2
      | _ => trivial
    exact drained.bind fun _ _ => trivial
  · refine (request.uses_issues service).mono (fun op issued => ?_) fun _ _ => trivial
    cases op with
    | postWebhook due signature =>
        cases request with
        | pollWebhooks => exact absurd rfl polls
        | _ => cases issued
    | _ => trivial

end Gates

/-! ## Runs of the engine -/

theorem deliveries_reply {faults : Bool} {op : Statement} {before after : Db}
    {reply : signature.Reply op} (replied : sqlite.Replies faults op before reply after) :
    (∃ columns now webhookDeliveries, op = .insertWebhook columns ∧
      before.webhookDeliveries.insert? (columns.row now) = some webhookDeliveries ∧
      after = { before with webhookDeliveries }) ∨
    Extends WebhookDelivery.Grows (fun _ => False) before.webhookDeliveries.rows
      after.webhookDeliveries.rows := by
  by_cases aside : op.aside
  · exact .inr (steady_reply aside replied).webhookDeliveries
  rcases reply_cases replied with ⟨env, answer, executed, _⟩ | ⟨error, _, rfl⟩
  · cases op with
    | insertWebhook columns =>
        obtain ⟨webhookDeliveries, stored, _, rfl⟩ :=
          Db.insertWebhook_ok (Statement.stored_ok executed)
        exact .inl ⟨columns, env.now, webhookDeliveries, rfl, stored, rfl⟩
    | insertSmsEvent | ledgerTransaction | setChargePaid | settleInvoices =>
        have differs := Statement.exec_differsAt executed
        refine .inr ?_
        first
          | obtain ⟨_, rfl⟩ := differs
            exact .refl WebhookDelivery.Grows.refl _
          | obtain ⟨_, _, rfl⟩ := differs
            exact .refl WebhookDelivery.Grows.refl _
    | _ => exact absurd rfl aside
  · exact .inr (.refl WebhookDelivery.Grows.refl _)

theorem looked_up {faults : Bool} {id : String} {before after : Db} {charge : Charge}
    (replied : sqlite.Replies faults (.chargeById id) before (.ok (some charge)) after) :
    charge ∈ after.charges ∧ charge.id = id := by
  obtain ⟨rfl, answered | ⟨_, _, failed⟩⟩ := reply_chargeById replied
  · obtain ⟨member, named⟩ := Table.mem_of_find?_eq_some (Except.ok.inj answered).symm
    exact ⟨member, beq_iff_eq.mp named⟩
  · cases failed

theorem found_of_reply {faults : Bool} {op : Statement} {before after : Db}
    {reply : signature.Reply op} {told : String → Charge → Prop}
    (replied : sqlite.Replies faults op before reply after) (looked : Looked told op reply) :
    ∃ charge ∈ after.charges, told charge.id charge := by
  cases op with
  | chargeById id =>
      match reply, looked with
      | .ok (some charge), told =>
          obtain ⟨member, rfl⟩ := looked_up replied
          exact ⟨charge, member, told⟩
  | _ => exact looked.elim

theorem paid_of_reply {faults : Bool} {op : Statement} {before after : Db}
    {reply : signature.Reply op} {chargeId : String}
    (replied : sqlite.Replies faults op before reply after) (marked : PaidMarked chargeId op reply)
    (stored : op = .setChargePaid chargeId → ∃ charge ∈ before.charges, charge.id = chargeId) :
    after.isPaid chargeId := by
  cases op with
  | setChargePaid id =>
      match reply, marked with
      | .ok _, same =>
          obtain rfl : id = chargeId := same
          rcases reply_setChargePaid replied with ⟨now, _, rfl⟩ | ⟨_, _, _, failed⟩
          · exact Db.isPaid_setChargePaid.mpr (.inr ⟨rfl, stored rfl⟩)
          · cases failed
  | chargeById id =>
      match reply, marked with
      | .ok (some charge), misnamed => exact absurd (looked_up replied).2 misnamed
  | _ => exact marked.elim

theorem due_of_reply {faults : Bool} {op : Statement} {before after : Db}
    {reply : signature.Reply op} {due : Due} (replied : sqlite.Replies faults op before reply after)
    (found : FoundDue due op reply) : ∃ row ∈ after.webhookDeliveries, due = row.due := by
  cases op with
  | dueWebhooks =>
      match reply, found with
      | .ok dues, member =>
          rcases reply_cases replied with ⟨env, answer, executed, same⟩ | ⟨_, failed, _⟩
          · cases same
            obtain ⟨rfl, rfl⟩ := Prod.mk.inj (Except.ok.inj executed)
            obtain ⟨row, stored, same, _⟩ :=
              (Webhook.batch_dueWebhooks before env.now).stored due member
            exact ⟨row, stored, same⟩
          · cases failed
  | _ => exact found.elim

section Runs

variable {Thread : Type} [DecidableEq Thread] {service : Service} {db : Db}
  {requests : Thread → Request} {faults : Bool}
  {older newer past : List (Event signature Db Thread Response)}
  {event : Event signature Db Thread Response} {config : Config signature Db Thread Response}

theorem evolved_of_member
    (run : Run sqlite faults (service.pool db requests) (newer ++ event :: older) config)
    {other : Event signature Db Thread Response} (member : other ∈ older) :
    other.act.after.Evolves event.act.before := by
  obtain ⟨middle, _, earlier, seen, _⟩ := run.event_cases
  rw [← seen]
  exact earlier.store_relates_event Db.Evolves.refl Db.Evolves.trans evolves_apply member

/-- What a thread has looked up is still there, as it has grown. -/
theorem charge_of_lookup
    (run : Run sqlite faults (service.pool db requests) (newer ++ event :: older) config)
    {lookup : Event signature Db Thread Response} (member : lookup ∈ older)
    {told : String → Charge → Prop} (looked : Looked told lookup.act.op lookup.act.reply) :
    ∃ charge ∈ event.act.before.charges, ∃ found, told found.id found ∧ found.Grows charge := by
  have evolved := evolved_of_member run member
  obtain ⟨later, earlier, rfl⟩ := List.append_of_mem member
  rw [← List.cons_append, ← List.append_assoc] at run
  obtain ⟨_, _, _, _, _, _, replied, _⟩ := run.event_cases
  obtain ⟨found, stored, about⟩ := found_of_reply replied looked
  obtain ⟨charge, held, grown⟩ := evolved.charges.mem stored
  exact ⟨charge, held, found, about, grown⟩

/-- What a thread is about to announce it has looked up. -/
theorem terms_of_event
    (run : Run sqlite faults (service.pool db requests) (newer ++ event :: older) config)
    {columns : NewWebhook} (issued : event.act.op = .insertWebhook columns) :
    ∃ charge ∈ event.act.before.charges,
      charge.announcement service.crates = some columns.announcement := by
  have gated : ((requests event.thread).program service).Gated (· = Statement.insertWebhook columns)
      (Looked fun _ charge => charge.announcement service.crates = some columns.announcement)
      anyway :=
    Request.gated_of_markPaid (fun _ same => by rw [same]; rfl)
      (fun _ _ => Charge.gated_markPaid_terms) _
  obtain ⟨lookup, member, _, looked⟩ := run.opened gated issued
  obtain ⟨charge, held, found, told, grown⟩ := charge_of_lookup run member looked
  exact ⟨charge, held, grown.announcement.trans told⟩

theorem stored_of_event
    (run : Run sqlite faults (service.pool db requests) (newer ++ event :: older) config)
    {chargeId : String} (issued : event.act.op = .setChargePaid chargeId) :
    ∃ charge ∈ event.act.before.charges, charge.id = chargeId := by
  have gated : ((requests event.thread).program service).Gated
      (· = Statement.setChargePaid chargeId) (Looked fun id _ => id = chargeId) anyway :=
    Request.gated_of_markPaid (fun _ same => by rw [same]; rfl)
      (fun _ _ => Charge.gated_markPaid_found) _
  obtain ⟨lookup, member, _, looked⟩ := run.opened gated issued
  obtain ⟨charge, held, found, named, grown⟩ := charge_of_lookup run member looked
  exact ⟨charge, held, grown.id.trans named⟩

theorem paid_of_event
    (run : Run sqlite faults (service.pool db requests) (newer ++ event :: older) config)
    {columns : NewWebhook} (issued : event.act.op = .insertWebhook columns) :
    event.act.before.isPaid columns.chargeId := by
  have gated : ((requests event.thread).program service).Gated
      (· = Statement.insertWebhook columns) (PaidMarked columns.chargeId) anyway :=
    Request.gated_of_markPaid (fun _ same => by rw [same]; rfl)
      (fun _ _ => Charge.gated_markPaid_paid) _
  obtain ⟨marking, member, _, marked⟩ := run.opened gated issued
  have evolved := evolved_of_member run member
  obtain ⟨later, earlier, rfl⟩ := List.append_of_mem member
  rw [← List.cons_append, ← List.append_assoc] at run
  obtain ⟨_, _, _, _, _, _, replied, _⟩ := run.event_cases
  exact evolved.isPaid (paid_of_reply replied marked fun issued => stored_of_event run issued)

theorem announced_of_event
    (run : Run sqlite faults (service.pool db requests) (newer ++ event :: older) config)
    {columns : NewWebhook} (issued : event.act.op = .insertWebhook columns) :
    event.act.before.Announces service.crates columns.announcement := by
  obtain ⟨charge, member, told⟩ := terms_of_event run issued
  obtain ⟨paidCharge, paidMember, named, paid⟩ := paid_of_event run issued
  obtain rfl : paidCharge = charge := Db.eq_of_charge_id paidMember member
    (named.trans (Charge.id_of_announcement told))
  exact ⟨paidCharge, member, paid, told⟩

/-- Whatever is stored for the worker announces what holds. -/
theorem announced_of_run
    (run : Run sqlite faults (service.pool db requests) past config)
    (initial : ∀ delivery ∈ db.webhookDeliveries,
      db.Announces service.crates delivery.announcement) :
    ∀ delivery ∈ config.store.webhookDeliveries,
      config.store.Announces service.crates delivery.announcement := by
  induction run with
  | start => exact initial
  | @step past config thread op next reply after earlier waiting replied ih =>
      intro delivery member
      have evolved := evolves_reply replied
      rcases deliveries_reply replied with ⟨columns, now, stored, rfl, inserted, rfl⟩ | grown
      · rcases (Table.mem_insert? inserted).mp member with old | rfl
        · exact evolved.announces (ih delivery old)
        · exact evolved.announces (announced_of_event
            (show Run sqlite faults _ ([] ++ _ :: past) _ from earlier.step waiting replied) rfl)
      · rcases grown.source member with ⟨old, oldMember, same⟩ | new
        · rw [same.announcement]
          exact evolved.announces (ih old oldMember)
        · exact new.elim

/-- What is posted was found due by the poll that posts it, and is signed. -/
theorem posted_of_event
    (run : Run sqlite faults (service.pool db requests) (newer ++ event :: older) config)
    {due : Due} {signature : String} (issued : event.act.op = .postWebhook due signature) :
    signature = service.crates.sign service.webhookSecret due.payload ∧
      ∃ delivery ∈ event.act.before.webhookDeliveries, delivery.id = due.id ∧
        delivery.url = due.url ∧ delivery.payload = due.payload := by
  have signed := (run.uses_own event.thread
    ((requests event.thread).uses_signed service)).1 event (by simp) rfl
  rw [issued] at signed
  refine ⟨signed, ?_⟩
  obtain ⟨poll, member, _, found⟩ :=
    run.opened ((requests event.thread).gated_posts service) issued
  have evolved := evolved_of_member run member
  obtain ⟨later, earlier, rfl⟩ := List.append_of_mem member
  rw [← List.cons_append, ← List.append_assoc] at run
  obtain ⟨_, _, _, _, _, _, replied, _⟩ := run.event_cases
  obtain ⟨row, stored, rfl⟩ := due_of_reply replied found
  obtain ⟨delivery, held, grown⟩ := evolved.webhookDeliveries.mem stored
  exact ⟨delivery, held, grown.id, grown.url, grown.payload⟩

theorem announced_before_event
    (run : Run sqlite faults (service.pool db requests) (newer ++ event :: older) config)
    (initial : ∀ delivery ∈ db.webhookDeliveries,
      db.Announces service.crates delivery.announcement)
    {due : Due} {signature : String} (issued : event.act.op = .postWebhook due signature) :
    ∃ charge ∈ event.act.before.charges, charge.status = .paid ∧
      charge.callbackUrl = some due.url ∧ due.payload = charge.paidPayload service.crates := by
  obtain ⟨_, delivery, stored, _, url, payload⟩ := posted_of_event run issued
  obtain ⟨middle, _, earlier, seen, _⟩ := run.event_cases
  rw [← seen] at stored ⊢
  obtain ⟨charge, member, paid, told⟩ := announced_of_run earlier initial delivery stored
  obtain ⟨callback, given, same⟩ := Option.map_eq_some_iff.mp told
  obtain ⟨_, rfl, paidPayload, _⟩ := Announcement.mk.inj same
  exact ⟨charge, member, paid, url ▸ given, payload.symm.trans paidPayload.symm⟩

end Runs

/-- In every run of the surface whatever is stored for the worker announces a charge that
is paid. So does whatever the client is called to post: the URL is the one the charge was
created with, it says what the charge was created for, and its signature verifies over its
payload. What the client makes of a redirect is not the engine's. -/
theorem announcements_truthful {Thread : Type} [DecidableEq Thread] {installation : Installation}
    {store : Store} {tasks : Thread → Task} {faults : Bool}
    {past : List (Event console.signature Store Thread Outcome)}
    {config : Config console.signature Store Thread Outcome}
    (run : Run database faults (installation.surface store tasks) past config)
    (initial : ∀ delivery ∈ store.1.webhookDeliveries,
      store.1.Announces installation.crates delivery.announcement) :
    (∀ delivery ∈ config.store.1.webhookDeliveries,
      config.store.1.Announces installation.crates delivery.announcement) ∧
    ∀ event ∈ past, ∀ (due : Due) (signature : String),
      event.act.op = .inl (.postWebhook due signature) →
        Crypto.verify installation.hmac installation.config.webhookHmacSecret.toUTF8
          due.payload.toUTF8 signature = true ∧
        ∃ charge ∈ event.act.before.1.charges, charge.status = .paid ∧
          charge.callbackUrl = some due.url ∧
          due.payload = charge.paidPayload installation.crates := by
  constructor
  · obtain ⟨_, pool, projected, same, _⟩ := projected_of_run run
    rw [← same]
    exact announced_of_run projected initial
  · intro event member due signature issued
    have permitted := permits_of_run run member
    obtain ⟨newer, older, rfl⟩ := List.append_of_mem member
    obtain ⟨thread, ⟨op, reply, before, after⟩, threads⟩ := event
    obtain rfl : op = .inl (.postWebhook due signature) := issued
    rcases permitted with ⟨_, silent⟩ | ⟨request, asked, _⟩
    · cases silent
    have asking : asks installation tasks thread = true := by simp [asks, asked]
    obtain ⟨events, projected, pool, refined, _, acted, _⟩ := projected_of_event run
      (show _ = some (⟨.postWebhook due signature, reply, before.1, after.1⟩ :
        Act SpritexPay.signature Db) from rfl) asking
    have pooled : Run sqlite faults _ ([] ++ projected :: events) pool := refined
    have posted : projected.act.op = .postWebhook due signature := by rw [acted]
    obtain ⟨signed, _⟩ := posted_of_event pooled posted
    have announced := announced_before_event pooled initial posted
    rw [acted] at announced
    refine ⟨?_, announced⟩
    rw [show signature = _ from signed]
    change Crypto.verify _ _ _ (installation.crates.sign _ _) = true
    rw [installation.signs]
    exact Crypto.verify_sign ..

/-- An order to be announced, the message that pays it and a poll. -/
def announcedOrder : Fin 3 → Task
  | 0 => .incoming (sampleIncoming (.createCharge
      ⟨"order-1", 50000, "BDT", none, none, some "https://shop.example/paid"⟩) sampleHeaders)
  | 1 => .incoming sampleForwarded
  | 2 => .poll

/-- What the poll finds due. The payload is the object that the sample crates write. -/
def announcedDue : Due where
  id := "whd_1"
  url := "https://shop.example/paid"
  payload := "event,charge_id,order_id,amount_minor,currency,status"
  attempts := 0
  maxAttempts := 8

theorem announcements_truthful_sample : ∃ past config,
    Run database true (sampleInstallation.surface (Db.empty, .empty) announcedOrder) past config ∧
      ∃ event ∈ past, ∃ charge ∈ event.act.before.1.charges, charge.status = .paid ∧
        charge.callbackUrl = some "https://shop.example/paid" := by
  have run := Run.scheduled database true
    (sampleInstallation.surface (Db.empty, .empty) announcedOrder) sampleEnv
    [0, 0, 1, 1, 1, 1, 1, 1, 1, 2, 2]
  have posted : ∃ event ∈ (sampleInstallation.surface (Db.empty, .empty) announcedOrder).trace
      database sampleEnv [0, 0, 1, 1, 1, 1, 1, 1, 1, 2, 2], Sum.getLeft? event.act.op =
        some (.postWebhook announcedDue
          (sampleInstallation.crates.sign "webhook-secret" announcedDue.payload)) := by
    decide +kernel
  obtain ⟨event, member, issued⟩ := posted
  obtain ⟨_, charge, stored, paid, callback, _⟩ :=
    (announcements_truthful run fun _ none => by cases none).2 event member announcedDue _
      (Sum.getLeft?_eq_some_iff.mp issued)
  exact ⟨_, _, run, event, member, charge, stored, paid, callback⟩

end SpritexPay
