import SpritexPay.SurfaceProperties

/-! Payments through the surface. Only a forwarded message settles a charge, and only
when its signature covers the exact bytes it came with: each charge that a run of the
surface pays goes back to such a message, and to what was parsed from it. -/

set_option autoImplicit false

namespace SpritexPay

open Relational Resumption

/-- What a message would have recorded, from its parsed text alone. -/
def Sms.Records (crates : Crates) (replies : List ProviderReply) (gw rawBody : String)
    (columns : NewSmsEvent) : Prop :=
  ∃ gateway parsed source, resolve gw = some gateway ∧
    Sms.parsed crates replies gateway rawBody = .ok (parsed, source) ∧
    columns.gateway = parsed.gateway ∧ columns.txnId = parsed.txnId ∧
    columns.amountMinor = parsed.amountMinor ∧ columns.senderMsisdn = parsed.senderMsisdn

/-- The statements of a message, and what it records. -/
def Sms.Issues (crates : Crates) (replies : List ProviderReply) (gw rawBody : String) :
    Statement → Prop
  | .insertSmsEvent columns => Sms.Records crates replies gw rawBody columns
  | _ => True

theorem Sms.uses_records (crates : Crates) (replies : List ProviderReply) (uuids : IngestUuids)
    (gw rawBody : String) :
    (ingest crates replies uuids gw rawBody).run.Uses (Issues crates replies gw rawBody)
      anyway := by
  have settles : ∀ txnId matchedCharge, (conclude crates uuids txnId matchedCharge).Uses
      (Issues crates replies gw rawBody) anyway := by
    intro txnId matchedCharge
    cases matchedCharge with
    | none => trivial
    | some id =>
        have marks : (Charge.markPaid crates uuids.settlement id).run.Uses
            (Issues crates replies gw rawBody) anyway :=
          Charge.uses_markPaid crates uuids.settlement id trivial (fun _ _ _ _ => trivial) trivial
            trivial fun _ => trivial
        exact marks.bind fun _ _ => trivial
  rw [run_ingest]
  cases resolved : resolve gw with
  | none => trivial
  | some gateway =>
      refine ((uses_parse crates replies gateway rawBody _).mono ?_ fun _ same => same).bind ?_
      · intro op fallback
        cases op with
        | insertAiParse columns => trivial
        | _ => cases fallback
      · intro outcome same
        cases outcome with
        | error error => trivial
        | ok result =>
            obtain ⟨parsed, source⟩ := result
            change (record crates uuids _ parsed source).run.Uses _ anyway
            rw [run_record]
            refine uses_issue trivial (fun candidates => ?_) fun _ => trivial
            refine uses_issue ?_ (fun _ => settles _ _) fun _ => trivial
            exact ⟨gateway, parsed, source, resolved, same.symm, rfl, rfl, rfl, rfl⟩

/-- The checkouts that opening a link mints. -/
def PaymentLink.Mints (uuids : CheckoutUuids) : Statement → Prop
  | .insertCharge columns => ∃ link amountMinor,
      columns = Checkout.newCharge uuids (PaymentLink.checkoutRequest link amountMinor)
  | _ => True

/-- The statements of a request, with what a message records and what a link mints. -/
structure Request.Contains (service : Service) (request : Request) (op : Statement) : Prop where
  issues : request.issues op = true
  records : ∀ uuids replies gw rawBody, request = .ingest uuids replies gw rawBody →
    Sms.Issues service.crates replies gw rawBody op
  mints : ∀ uuids ref amountOverride, request = .openLink uuids ref amountOverride →
    PaymentLink.Mints uuids op

theorem Request.uses_contains (service : Service) (request : Request) :
    (request.program service).Uses (request.Contains service) anyway := by
  have contents : (request.program service).Uses (fun op =>
      (∀ uuids replies gw rawBody, request = .ingest uuids replies gw rawBody →
        Sms.Issues service.crates replies gw rawBody op) ∧
      ∀ uuids ref amountOverride, request = .openLink uuids ref amountOverride →
        PaymentLink.Mints uuids op) anyway := by
    cases request with
    | ingest uuids replies gw rawBody =>
        refine uses_respond (Program.Uses.mono (Sms.uses_records service.crates replies uuids gw
          rawBody) (fun op issued => ⟨fun _ _ _ _ same => ?_, fun _ _ _ same => ?_⟩)
          fun _ _ => trivial) fun _ => trivial
        · cases same
          exact issued
        · cases same
    | openLink uuids ref amountOverride =>
        have mints : (PaymentLink.openLink service.baseUrl uuids ref amountOverride).run.Uses
            (PaymentLink.Mints uuids) anyway :=
          PaymentLink.uses_openLink trivial trivial trivial (fun _ => trivial)
            fun link amountMinor => ⟨link, amountMinor, rfl⟩
        refine uses_respond (mints.mono (fun op minted => ⟨fun _ _ _ _ same => ?_,
          fun _ _ _ same => ?_⟩) fun _ _ => trivial) fun _ => trivial
        · cases same
        · cases same
          exact minted
    | _ =>
        refine (Request.uses_issues service _).mono (fun op _ => ⟨fun _ _ _ _ same => ?_,
          fun _ _ _ same => ?_⟩) fun _ _ => trivial
        · cases same
        · cases same
  exact ((request.uses_issues service).and contents).mono
    (fun _ both => ⟨both.1, both.2.1, both.2.2⟩) fun _ _ => trivial

/-! ## Signed messages -/

section Tasks

variable (installation : Installation)

/-- A forwarded message whose signature verifies over the bytes it came with. -/
structure Task.Carries (task : Task) (incoming : Http.Incoming) (payload : SmsPayload) : Prop where
  arrived : task = .incoming incoming
  signed : ∃ raw signature, incoming.endpoint = .smsWebhook raw ∧
    incoming.headers.xSignature = some signature ∧
    Crypto.verify installation.hmac installation.config.smsHmacSecret.toUTF8 raw signature = true ∧
    installation.payloadFromSlice raw = some payload

/-- The request of a task is a message only if the task carries it signed. -/
theorem Http.Incoming.carries {incoming : Incoming} {request : Request}
    (asked : incoming.request installation = some request) (ingests : request.isIngest = true) :
    ∃ payload, (Task.incoming incoming).Carries installation incoming payload ∧
      request = .ingest (ingestUuids incoming.uuids) incoming.replies payload.gateway
        payload.body := by
  unfold Incoming.request at asked
  cases endpoint : incoming.endpoint with
  | smsWebhook raw =>
      rw [endpoint] at asked
      dsimp only at asked
      cases header : incoming.headers.xSignature with
      | none => simp [header] at asked
      | some signature =>
          simp only [header] at asked
          split at asked
          · rename_i verified
            cases parsed : installation.payloadFromSlice raw with
            | none => simp [parsed] at asked
            | some payload =>
                simp only [parsed, Option.map_some, Option.some.injEq] at asked
                exact ⟨payload, ⟨rfl, raw, signature, endpoint, header, verified, parsed⟩,
                  asked.symm⟩
          · cases asked
  | reconChat question =>
      rw [endpoint] at asked
      dsimp only at asked
      split at asked
      · split at asked
        · cases asked
          cases ingests
        · cases asked
      · cases asked
  | _ =>
      rw [endpoint] at asked
      cases asked
      try cases ingests

theorem Task.carries {task : Task} {request : Request}
    (asked : task.request installation = some request) (ingests : request.isIngest = true) :
    ∃ incoming payload, task.Carries installation incoming payload ∧
      request = .ingest (Http.ingestUuids incoming.uuids) incoming.replies payload.gateway
        payload.body := by
  cases task with
  | poll =>
      cases asked
      cases ingests
  | incoming incoming =>
      simp only [Task.request] at asked
      split at asked
      · obtain ⟨payload, carries⟩ := Http.Incoming.carries installation asked ingests
        exact ⟨incoming, payload, carries⟩
      · cases asked

/-- What a task may issue to the engine. -/
def Task.Permits (task : Task) (op : Statement) : Prop :=
  op.looks ∨ ∃ request, task.request installation = some request ∧
    request.Contains installation.service op

theorem Task.uses_permits (task : Task) :
    (task.program installation).Uses (Sum.elim (task.Permits installation) fun _ => True)
      fun _ => True := by
  have serves := task.serves installation
  cases asked : task.request installation with
  | none =>
      rw [asked] at serves
      refine Program.Uses.mono serves (fun op stands => ?_) fun _ _ => trivial
      cases op with
      | inl op => exact .inl stands
      | inr op => trivial
  | some request =>
      rw [asked] at serves
      refine Program.Uses.mono (Program.Fronts.uses serves
        (request.uses_contains installation.service)) (fun op issued => ?_) fun _ _ => trivial
      cases op with
      | inl op => exact .inr ⟨request, asked, issued⟩
      | inr op => trivial

end Tasks

/-! ## Runs of the surface -/

section Statements

variable {faults : Bool} {before after : Store}

/-- The payments evolve, whatever the console does. -/
def Store.Evolves (before after : Store) : Prop := before.1.Evolves after.1

theorem Store.Evolves.refl (store : Store) : store.Evolves store := Db.Evolves.refl store.1

theorem Store.Evolves.trans {first second third : Store} (before : first.Evolves second)
    (after : second.Evolves third) : first.Evolves third := Db.Evolves.trans before after

def Store.HasPaid (chargeId : String) (store : Store) : Prop := store.1.isPaid chargeId

/-- What no statement can undo, none of the console can. -/
theorem evolves_database (env : Env) (op : console.signature.Op) (store : Store) :
    store.Evolves (database.apply env op store).2 := by
  unfold Store.Evolves
  cases op with
  | inl op =>
      rw [database, Machine.apply_annexed_inl]
      exact evolves_apply env op store.1
  | inr op =>
      rw [database, Machine.apply_annexed_inr]
      exact .refl store.1

theorem recorded_of_reply {columns : NewSmsEvent}
    {reply : console.signature.Reply (.inl (.insertSmsEvent columns))}
    (replied : database.Replies faults (.inl (.insertSmsEvent columns)) before reply after)
    (succeeded : reply = .ok ()) :
    ∃ now, columns.row now ∉ before.1.smsEvents ∧ columns.row now ∈ after.1.smsEvents := by
  obtain ⟨engine, _⟩ := Machine.replies_inl replied
  rcases reply_insertSmsEvent engine with ⟨now, smsEvents, _, stored, _, same⟩ | ⟨_, error, refused⟩
  · refine ⟨now, fun old => ?_, ?_⟩
    · have fresh := (Table.insert?_eq_some_iff.mp stored).2 _ old
      exact of_decide_eq_false fresh (.inl rfl)
    · rw [same]
      exact (Table.mem_insert? stored).mpr (.inr rfl)
  · rw [succeeded] at refused
    cases refused

theorem flip_of_paid {op : console.signature.Op} {reply : console.signature.Reply op}
    {chargeId : String} (replied : database.Replies faults op before reply after)
    (unpaid : ¬before.1.isPaid chargeId) (paid : after.1.isPaid chargeId) :
    op = .inl (.setChargePaid chargeId) := by
  cases op with
  | inl op =>
      rw [flip_of_newly_paid (Machine.replies_inl replied).1 paid unpaid]
  | inr op =>
      rw [(Machine.replies_inr replied).1] at paid
      exact absurd paid unpaid

end Statements

section Run

variable {Thread : Type} [DecidableEq Thread] {installation : Installation} {store : Store}
  {tasks : Thread → Task} {faults : Bool}
  {past : List (Event console.signature Store Thread Outcome)}
  {config : Config console.signature Store Thread Outcome}

theorem permits_of_run (run : Run database faults (installation.surface store tasks) past config)
    {event : Event console.signature Store Thread Outcome} (member : event ∈ past) :
    Sum.elim ((tasks event.thread).Permits installation) (fun _ => True) event.act.op :=
  (run.uses_own event.thread ((tasks event.thread).uses_permits installation)).1 event member rfl

/-- The run of the pool as far as one event of the surface, and that event in it. -/
theorem projected_of_event {newer older : List (Event console.signature Store Thread Outcome)}
    {event : Event console.signature Store Thread Outcome} {act : Act signature Db}
    (run : Run database faults (installation.surface store tasks) (newer ++ event :: older) config)
    (based : event.act.based = some act) (asked : asks installation tasks event.thread = true) :
    ∃ events projected pool,
      Run sqlite faults (installation.service.pool store.1 (requests installation tasks))
        (projected :: events) pool ∧
      projected.thread = event.thread ∧ projected.act = act ∧
      events.map Event.deed =
        (older.filter fun event => asks installation tasks event.thread).filterMap Event.based := by
  obtain ⟨_, _, _, _, _, _, _, upTo⟩ := run.event_cases
  obtain ⟨events, pool, refined, _, deeds⟩ := projected_of_run upTo
  rw [List.filter_cons, if_pos asked,
    List.filterMap_cons_some (b := (event.thread, act)) (by simp [Event.based, based])] at deeds
  cases events with
  | nil => simp at deeds
  | cons projected events =>
      rw [List.map_cons, List.cons.injEq] at deeds
      exact ⟨events, projected, pool, refined, congrArg Prod.fst deeds.1,
        congrArg Prod.snd deeds.1, deeds.2⟩

/-- What a thread has done in the pool it has done in the surface. -/
theorem mem_of_deeds {older : List (Event console.signature Store Thread Outcome)}
    {events : List (Event signature Db Thread Response)} {fronting : Thread → Bool}
    (deeds : events.map Event.deed =
      (older.filter fun event => fronting event.thread).filterMap Event.based)
    {thread : Thread} {act : Act signature Db} (member : act ∈ log events thread) :
    ∃ event ∈ older, event.thread = thread ∧ event.act.based = some act := by
  obtain ⟨projected, projectedMember, rfl, rfl⟩ := mem_log_iff.mp member
  have deed : projected.deed ∈ events.map Event.deed := List.mem_map_of_mem projectedMember
  rw [deeds] at deed
  obtain ⟨event, eventMember, based⟩ := List.mem_filterMap.mp deed
  obtain ⟨act, same, both⟩ := Option.map_eq_some_iff.mp based
  refine ⟨event, (List.mem_filter.mp eventMember).1, congrArg Prod.fst both, ?_⟩
  rw [same]
  exact congrArg some (congrArg Prod.snd both)

/-- A message that a thread recorded, as it stays. -/
theorem recorded_of_act (run : Run database faults (installation.surface store tasks) past config)
    {event : Event console.signature Store Thread Outcome} {columns : NewSmsEvent} {seen left : Db}
    (member : event ∈ past)
    (based : event.act.based = some ⟨.insertSmsEvent columns, .ok (), seen, left⟩) :
    event.act.op = .inl (.insertSmsEvent columns) ∧ ∃ now,
      columns.row now ∉ event.act.before.1.smsEvents ∧
      columns.row now ∈ event.act.after.1.smsEvents ∧
      columns.row now ∈ config.store.1.smsEvents := by
  have evolved : event.act.after.1.Evolves config.store.1 :=
    Run.store_relates_event Store.Evolves.refl Store.Evolves.trans evolves_database run member
  obtain ⟨newer, older, rfl⟩ := List.append_of_mem member
  obtain ⟨_, _, _, _, _, _, replied, _⟩ := run.event_cases
  obtain ⟨thread, ⟨op, reply, before, after⟩, threads⟩ := event
  cases op with
  | inr op => cases based
  | inl op =>
      obtain rfl : op = .insertSmsEvent columns := congrArg Act.op (Option.some.inj based)
      obtain ⟨now, fresh, stored⟩ := recorded_of_reply replied (by cases based; rfl)
      exact ⟨rfl, now, fresh, stored, evolved.smsEvents.subset stored⟩

end Run

/-- A charge that a run of the surface has paid was paid by a message whose signature
verifies over its bytes. The message was recorded for the charge before that, with its
amount, as it was parsed from the signed text. -/
theorem paid_by_signed_message {Thread : Type} [DecidableEq Thread] [Fintype Thread]
    {installation : Installation} {store : Store} {tasks : Thread → Task}
    {past : List (Event console.signature Store Thread Outcome)}
    {config : Config console.signature Store Thread Outcome} (backed : store.1.Backed)
    (run : Run database true (installation.surface store tasks) past config) {charge : Charge}
    (member : charge ∈ config.store.1.charges) (paid : charge.status = .paid)
    (unpaid : ¬store.1.isPaid charge.id) :
    ∃ newer event older incoming payload message,
      past = newer ++ event :: older ∧ event.act.op = .inl (.setChargePaid charge.id) ∧
      (tasks event.thread).Carries installation incoming payload ∧
      message ∈ config.store.1.smsEvents ∧ message.chargeId = some charge.id ∧
      message.amountMinor = charge.amountMinor ∧
      (∃ recording ∈ older, recording.thread = event.thread ∧
        message ∉ recording.act.before.1.smsEvents ∧ message ∈ recording.act.after.1.smsEvents) ∧
      ∃ gateway parsed source, resolve payload.gateway = some gateway ∧
        Sms.parsed installation.crates incoming.replies gateway payload.body =
          .ok (parsed, source) ∧
        message.gateway = parsed.gateway ∧ message.txnId = parsed.txnId ∧
        message.amountMinor = parsed.amountMinor := by
  obtain ⟨newer, event, older, rfl, before, after⟩ :=
    Run.crossing run (show ¬Store.HasPaid charge.id _ from unpaid)
      (show Store.HasPaid charge.id _ from ⟨charge, member, rfl, paid⟩)
  obtain ⟨_, _, _, _, _, _, replied, _⟩ := run.event_cases
  have flip := flip_of_paid replied before after
  have permitted := permits_of_run run (List.mem_append_right newer List.mem_cons_self)
  have earlier : ∀ other ∈ older, other ∈ newer ++ event :: older := fun _ other =>
    List.mem_append_right newer (List.mem_cons_of_mem event other)
  obtain ⟨thread, ⟨op, reply, seen, left⟩, threads⟩ := event
  obtain rfl : op = .inl (.setChargePaid charge.id) := flip
  -- The thread has a request, and only a message may issue the statement.
  rcases permitted with ⟨silent, _⟩ | ⟨request, asked, contains⟩
  · cases silent
  have ingests : request.isIngest = true := by
    cases request with
    | ingest => rfl
    | _ => cases contains.issues
  obtain ⟨incoming, payload, carries, rfl⟩ := Task.carries installation asked ingests
  have asking : asks installation tasks thread = true := by simp [asks, asked]
  obtain ⟨events, projected, pool, refined, rfl, acted, deeds⟩ :=
    projected_of_event run (show _ = some (⟨.setChargePaid charge.id, reply, seen.1, left.1⟩ :
      Act signature Db) from rfl) asking
  have initial : (settlement installation.service true store.1
      (FreshLedger (requests installation tasks) store.1)
      (requests installation tasks)).PoolSafe true []
        (installation.service.pool store.1 (requests installation tasks)) := pool_safe_start
  obtain ⟨_, owned⟩ := Protocol.run_owns_event initial (fun _ _ => trivial)
    (show Run sqlite true _ ([] ++ projected :: events) pool from refined)
  obtain ⟨_, ⟨columns, _, _, logged, owner, isMatched⟩, _⟩ := owned.pays charge.id (by rw [acted])
  obtain ⟨recording, recordingMember, same, based⟩ := mem_of_deeds deeds logged
  have happened := earlier recording recordingMember
  obtain ⟨recorded, now, fresh, stored, kept⟩ := recorded_of_act run happened based
  have permitted := permits_of_run run happened
  rw [recorded, same] at permitted
  rcases permitted with ⟨silent, _⟩ | ⟨_, asked', contains⟩
  · cases silent
  cases asked.symm.trans asked'
  obtain ⟨gateway, parsed, source, resolved, accepted, fromGateway, txnId, amountMinor, _⟩ :=
    contains.records _ _ _ _ rfl
  obtain ⟨_, final, whole, ended, _⟩ := projected_of_run run
  have sound := (pool_backed backed whole).sound
  rw [ended] at sound
  obtain ⟨matched, matchedMember, named, amount⟩ := sound.matchedCharge _ kept isMatched
  obtain rfl : matched = charge :=
    Db.eq_of_charge_id matchedMember member (Option.some.inj (named.symm.trans owner))
  exact ⟨newer, _, older, incoming, payload, columns.row now, rfl, rfl, carries, kept, owner,
    amount, ⟨recording, recordingMember, same, fresh, stored⟩, gateway, parsed, source, resolved,
    accepted, fromGateway, txnId, amountMinor⟩

theorem paid_by_signed_message_sample : ∃ past config,
    Run database true (sampleInstallation.surface (Db.empty, .empty) orderAndMessage) past config ∧
      ∃ event ∈ past, event.act.op = .inl (.setChargePaid "chg_1") ∧ event.thread = true := by
  have run := Run.scheduled database true
    (sampleInstallation.surface (Db.empty, .empty) orderAndMessage) sampleEnv
    [false, false, true, true, true, true, true]
  have paid : ∃ charge ∈ ((sampleInstallation.surface (Db.empty, .empty) orderAndMessage).schedule
      database sampleEnv [false, false, true, true, true, true, true]).store.1.charges,
        charge.id = "chg_1" ∧ charge.status = .paid := by decide +kernel
  obtain ⟨charge, member, id, status⟩ := paid
  obtain ⟨newer, event, older, incoming, payload, _, happened, flips, carries, _⟩ :=
    paid_by_signed_message Db.backed_empty run member status (by rintro ⟨_, none, _⟩; cases none)
  refine ⟨_, _, run, event, ?_, ?_, ?_⟩
  · rw [happened]
    exact List.mem_append_right newer List.mem_cons_self
  · rw [flips, id]
  · cases asked : event.thread with
    | true => rfl
    | false =>
        obtain ⟨raw, _, endpoint, _⟩ := carries.signed
        have arrived := carries.arrived
        rw [asked] at arrived
        cases arrived
        cases endpoint

end SpritexPay
