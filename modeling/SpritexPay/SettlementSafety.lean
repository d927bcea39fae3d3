import SpritexPay.SettlementProtocol

/-! Every request follows the settlement protocol, whatever it is interleaved
with. -/

set_option autoImplicit false

namespace SpritexPay

open Relational Resumption

variable {Thread : Type}

def settlement (service : Service) (faults : Bool) (start : Db) (fresh : Prop)
    (requests : Thread → Request) : Protocol sqlite Thread Response (Multiset Flight) where
  holds := Holds start fresh
  evolves := Db.Evolves
  admits := fun _ _ _ => True
  owns := fun thread => Owns service faults fresh (requests thread)
  evolves_refl := Db.Evolves.refl
  evolves_trans := Db.Evolves.trans
  evolves_apply := evolves_apply

/-! ## Logs -/

/-- The log of a message that recorded an event for a charge it saw pending. -/
structure Trail (chargeId : String) (posted : Nat) (log : List (Act signature Db)) : Prop where
  recorded : RecordedFor chargeId log
  saw : SawPending chargeId log
  rows : (log.map postedRows).sum = posted

structure Calm (log : List (Act signature Db)) : Prop where
  same : ∀ act ∈ log, act.before.SameMoney act.after
  outside : ∀ act ∈ log, ∀ id, act.op ≠ .chargeById id

theorem SawPending.cons {chargeId : String} {log : List (Act signature Db)}
    (saw : SawPending chargeId log) (act : Act signature Db) :
    SawPending chargeId (act :: log) := by
  obtain ⟨seen, member, charge⟩ := saw
  exact ⟨seen, List.mem_cons_of_mem _ member, charge⟩

theorem Trail.cons {chargeId : String} {posted : Nat} {log : List (Act signature Db)}
    (trail : Trail chargeId posted log) (act : Act signature Db) :
    Trail chargeId (postedRows act + posted) (act :: log) where
  recorded := by
    obtain ⟨columns, before, after, member, facts⟩ := trail.recorded
    exact ⟨columns, before, after, List.mem_cons_of_mem _ member, facts⟩
  saw := trail.saw.cons act
  rows := by rw [List.map_cons, List.sum_cons, trail.rows]

theorem postedRows_of_same {act : Act signature Db}
    (same : act.after.ledgerTransactions = act.before.ledgerTransactions) :
    postedRows act = 0 := by
  rw [postedRows, same, Nat.sub_self]

theorem Trail.still {chargeId : String} {posted : Nat} {log : List (Act signature Db)}
    {act : Act signature Db} (trail : Trail chargeId posted log)
    (same : act.after.ledgerTransactions = act.before.ledgerTransactions) :
    Trail chargeId posted (act :: log) := by
  simpa [postedRows_of_same same] using trail.cons act

theorem Trail.quiet {chargeId : String} {posted : Nat} {log : List (Act signature Db)}
    {act : Act signature Db} (trail : Trail chargeId posted log)
    (quiet : act.before.Quiet act.after) : Trail chargeId posted (act :: log) :=
  trail.still quiet.ledgerTransactions

theorem Trail.post {chargeId : String} {log : List (Act signature Db)} {act : Act signature Db}
    {txn : LedgerTransaction} (trail : Trail chargeId 0 log)
    (added : act.after.ledgerTransactions.rows = act.before.ledgerTransactions.rows ++ [txn]) :
    Trail chargeId 1 (act :: log) := by
  have one : postedRows act = 1 := by simp [postedRows, added]
  simpa only [one] using trail.cons act

theorem Calm.nil : Calm [] := ⟨by simp, by simp⟩

theorem Calm.cons {log : List (Act signature Db)} (calm : Calm log) {act : Act signature Db}
    (same : act.before.SameMoney act.after) (outside : ∀ id, act.op ≠ .chargeById id) :
    Calm (act :: log) where
  same := by simpa using ⟨same, calm.same⟩
  outside := by simpa using ⟨outside, calm.outside⟩

theorem sum_postedRows_eq_zero {log : List (Act signature Db)}
    (quiet : ∀ act ∈ log, act.before.Quiet act.after) : (log.map postedRows).sum = 0 := by
  rw [List.sum_eq_zero_iff]
  intro rows member
  obtain ⟨act, actMember, rfl⟩ := List.mem_map.mp member
  exact postedRows_of_same (quiet act actMember).ledgerTransactions

/-! ## Knowledge -/

theorem Stage.eq_of_settles {stage : Stage} {id chargeId : String}
    (settles : stage.settles id = true) (concerns : stage.concerns chargeId = true) :
    id = chargeId := by
  cases stage with
  | recorded | posted =>
      rw [Stage.settles, beq_iff_eq] at settles
      rw [Stage.concerns, beq_iff_eq] at concerns
      exact settles.symm.trans concerns
  | waiting | settled => cases settles

theorem Statement.settles_cases {op : Statement} {id : String} (settles : op.settles id) :
    op = .chargeById id ∨ op.settling = true := by
  cases op with
  | chargeById other =>
      cases settles
      exact .inl rfl
  | setChargePaid | ledgerTransaction => exact .inr rfl
  | _ => cases settles

section Knowledge

variable {service : Service} {faults : Bool} {fresh : Prop} {request : Request}
  {point : Point signature Response} {log : List (Act signature Db)} {ledgerId : String}

/-- A message that has recorded an event knows its stage and its trail. -/
theorem Owns.ofTrail {gateway : Gateway} {txnId chargeId : String} {posted : Nat} {stage : Stage}
    (ingests : request.isIngest = true) (carried : request.key service = some (gateway, txnId))
    (trail : Trail chargeId posted log) (counted : posted ≤ 1)
    (carries : stage.carries gateway txnId = true) (concerns : stage.concerns chargeId = true)
    (flies : faults = false → fresh → stage.settles chargeId = true → SettlesNext chargeId point)
    (flown : ∀ id, SettlesNext id point → id = chargeId)
    (answers : point ≠ .finished (.ingested (.error .duplicate))) :
    Owns service faults fresh request point log {⟨ledgerId, stage⟩} where
  pays := fun id running => by
    rw [flown id ⟨_, running, rfl⟩]
    exact ⟨ingests, trail.recorded, trail.saw⟩
  reaches := fun _ _ same _ => by
    cases Option.some.inj (carried.symm.trans same)
    rw [flightsAt_singleton, if_pos carries]
    exact Nat.one_pos
  posts := fun _ _ same => by
    cases Option.some.inj (carried.symm.trans same)
    rw [trail.rows, flightsAt_singleton, if_pos carries]
    exact counted
  flies := fun reliable isFresh id settling => by
    have settles : stage.settles id = true := by
      by_contra other
      rw [flightsAt_singleton, if_neg other] at settling
      exact Nat.lt_irrefl 0 settling
    have same : id = chargeId := stage.eq_of_settles settles concerns
    subst same
    exact flies reliable isFresh settles
  flown := fun _ id next => by
    rw [flown id next, flightsAt_singleton, if_pos concerns]
    exact Nat.one_pos
  refuses := fun refused => absurd refused answers

theorem Owns.ofRunning {gateway : Gateway} {txnId chargeId : String} {posted : Nat} {stage : Stage}
    {op : Statement} (ingests : request.isIngest = true)
    (carried : request.key service = some (gateway, txnId)) (trail : Trail chargeId posted log)
    (counted : posted ≤ 1) (carries : stage.carries gateway txnId = true)
    (concerns : stage.concerns chargeId = true)
    (flies : stage.settles chargeId = true → op.settles chargeId)
    (flown : ∀ id, op.settles id → id = chargeId) :
    Owns service faults fresh request (.running op) log {⟨ledgerId, stage⟩} := by
  refine Owns.ofTrail ingests carried trail counted carries concerns ?_ ?_ (by simp)
  · exact fun _ _ settles => ⟨op, rfl, flies settles⟩
  · rintro id ⟨_, stands, settles⟩
    cases stands
    exact flown id settles

/-- The same where the message has been answered. Only a failure leaves a
flight behind that was to flip the status. -/
theorem Owns.ofFinished {gateway : Gateway} {txnId chargeId : String} {posted : Nat}
    {stage : Stage} {response : Response} (ingests : request.isIngest = true)
    (carried : request.key service = some (gateway, txnId)) (trail : Trail chargeId posted log)
    (counted : posted ≤ 1) (carries : stage.carries gateway txnId = true)
    (concerns : stage.concerns chargeId = true)
    (failed : stage.settles chargeId = true → faults = false → ¬fresh)
    (answers : response ≠ .ingested (.error .duplicate)) :
    Owns service faults fresh request (.finished response) log {⟨ledgerId, stage⟩} := by
  refine Owns.ofTrail ingests carried trail counted carries concerns ?_ ?_ ?_
  · exact fun reliable isFresh settles => absurd isFresh (failed settles reliable)
  · rintro id ⟨_, stands, _⟩
    cases stands
  · exact fun same => answers (Point.finished.inj same)

theorem Owns.ofWaiting (posted : (log.map postedRows).sum = 0)
    (outside : ∀ act ∈ log, ∀ id, act.op ≠ .chargeById id)
    (running : ∀ op, point = .running op → op.settling = false ∧ (∀ id, op ≠ .chargeById id) ∨
      ∃ columns, op = .insertSmsEvent columns)
    (refuses : point = .finished (.ingested (.error .duplicate)) →
      ∀ act ∈ log, act.before.SameMoney act.after) :
    Owns service faults fresh request point log {⟨ledgerId, .waiting⟩} where
  pays := fun id paying => by
    rcases running _ paying with ⟨aside, _⟩ | ⟨columns, other⟩
    · cases aside
    · cases other
  reaches := fun gateway txnId _ reached => by
    rcases reached with ⟨id, reached⟩ | ⟨act, member, id, reached⟩
    · rcases running _ reached with ⟨_, other⟩ | ⟨columns, other⟩
      · exact absurd rfl (other id)
      · cases other
    · exact absurd reached (outside act member id)
  posts := fun gateway txnId _ => by simp [posted]
  flies := fun _ _ id settles => by simp at settles
  flown := fun _ id next => by
    obtain ⟨op, stands, settles⟩ := next
    rcases running op stands with ⟨aside, other⟩ | ⟨columns, rfl⟩
    · rcases Statement.settles_cases settles with rfl | settling
      · exact absurd rfl (other id)
      · rw [settling] at aside
        cases aside
    · cases settles
  refuses := refuses

end Knowledge

/-! ## Ingested messages -/

section Ingest

variable {service : Service} {faults : Bool} {start : Db} {fresh : Prop}
  {requests : Thread → Request} {thread : Thread} {uuids : IngestUuids} {parsed : ParsedTxn}
  {chargeId : String}

/-- What a message that got past its recording owes to the pool when it is answered. -/
def Ends (service : Service) (faults : Bool) (fresh : Prop) (request : Request)
    (log : List (Act signature Db)) (share : Multiset Flight) : Prop :=
  ∀ response, response ≠ .ingested (.error .duplicate) →
    Owns service faults fresh request (.finished response) log share

variable (ingests : (requests thread).isIngest = true)
  (carried : (requests thread).key service = some (parsed.gateway, parsed.txnId))

include ingests carried

def Statement.afterwards (op : Statement) : Prop :=
  op.crediting = false ∧ ∀ id, ¬op.settles id

/-- After its status is flipped a message settles the invoice and queues the
notification, which moves no money. -/
theorem safe_settled {Outcome : Type} {program : Program signature Outcome}
    {log : List (Act signature Db)} {seen : Db} {ledgerId : String}
    (uses : program.Uses Statement.afterwards anyway) (trail : Trail chargeId 1 log) :
    (settlement service faults start fresh requests).Safe faults thread program
      (fun _ log share _ => Ends service faults fresh (requests thread) log share) log
      {⟨ledgerId, .settled chargeId parsed.gateway parsed.txnId⟩} seen := by
  refine Protocol.safe_of_uses uses trail ?_ ?_ ?_ ?_
  · intro op log afterwards trail
    exact Owns.ofRunning ingests carried trail le_rfl (by simp) (by simp) (by simp)
      fun id settles => absurd settles (afterwards.2 id)
  · intro op afterwards before total reply after holds replied
    exact holds.quiet (evolves_reply replied) (quiet_reply afterwards.1 replied)
  · intro op reply before after log afterwards replied trail
    exact trail.quiet (quiet_reply afterwards.1 replied)
  · intro outcome log later _ _ trail response other
    exact Owns.ofFinished ingests carried trail le_rfl (by simp) (by simp) (by simp) other

theorem safe_posted {rest : Program signature (Except ChargeError Unit)}
    {log : List (Act signature Db)} {seen : Db} {ledgerId : String}
    (uses : rest.Uses Statement.afterwards anyway)
    (trail : Trail chargeId 1 log) (known : seen.hasCharge chargeId = true)
    (posted : 0 < seen.postings chargeId) :
    (settlement service faults start fresh requests).Safe faults thread
      (.issue (.setChargePaid chargeId) (.error ∘ .db) fun _ => rest)
      (fun _ log share _ => Ends service faults fresh (requests thread) log share) log
      {⟨ledgerId, .posted chargeId parsed.gateway parsed.txnId⟩} seen := by
  refine ⟨?_, fun before frame later holds _ reply after replied => ?_⟩
  · exact Owns.ofRunning ingests carried trail le_rfl (by simp) (by simp) (fun _ => rfl)
      fun id settles => settles.symm
  · rcases reply_setChargePaid replied with ⟨now, rfl, rfl⟩ | ⟨faulty, rfl, error, rfl⟩
    · refine ⟨{⟨ledgerId, .settled chargeId parsed.gateway parsed.txnId⟩}, ?_, ?_⟩
      · obtain ⟨charge, member, rfl⟩ := Db.hasCharge_iff.mp (later.hasCharge known)
        exact holds.pay member (posted.trans_le (later.postings_le charge.id))
      · exact safe_settled ingests carried uses (trail.still rfl)
    · refine ⟨_, holds, fun response other => ?_⟩
      exact Owns.ofFinished ingests carried (trail.quiet (.refl after)) le_rfl (by simp)
        (by simp) (by simp [faulty]) other

theorem safe_settleFound {log : List (Act signature Db)} {seen : Db} {uuids : SettlementUuids}
    {charge : Charge} (trail : Trail charge.id 0 log) (member : charge ∈ seen.charges) :
    (settlement service faults start fresh requests).Safe faults thread
      (Charge.settleFound service.crates uuids charge.id charge)
      (fun _ log share _ => Ends service faults fresh (requests thread) log share) log
      {⟨"ltx_" ++ uuids.ledger, .recorded charge.id parsed.gateway parsed.txnId⟩} seen := by
  refine ⟨?_, fun before frame later holds _ reply after replied => ?_⟩
  · exact Owns.ofRunning ingests carried trail (Nat.zero_le 1) (by simp) (by simp) (fun _ => rfl)
      fun id settles => settles.symm
  · obtain ⟨current, currentMember, grown⟩ := later.charges.mem member
    rcases reply_post replied with ⟨now, ledgerTransactions, rfl, stored, rfl⟩ |
      ⟨rfl, ⟨error, rfl⟩, reason⟩
    · refine ⟨{⟨"ltx_" ++ uuids.ledger, .posted charge.id parsed.gateway parsed.txnId⟩}, ?_, ?_⟩
      · rw [← grown.id] at holds stored ⊢
        rw [← grown.settlementEntries]
        exact holds.post currentMember stored
      · refine safe_posted ingests carried ?_ ?_ ?_ ?_
        · refine uses_issue ⟨rfl, fun _ settles => settles⟩ (fun _ => ?_) fun _ => trivial
          rw [Charge.run_notifyPaid]
          cases charge.callbackUrl with
          | none => trivial
          | some url =>
              exact uses_issue ⟨rfl, fun _ settles => settles⟩ (fun _ => trivial) fun _ => trivial
        · exact trail.post (Table.rows_insert? stored)
        · exact Db.hasCharge_iff.mpr ⟨current, currentMember, grown.id⟩
        · rw [Db.postings_post stored]
          simp
    · refine ⟨_, holds, fun response other => ?_⟩
      refine Owns.ofFinished ingests carried (trail.quiet (.refl after)) (Nat.zero_le 1) (by simp)
        (by simp) ?_ other
      intro _ reliable isFresh
      rcases reason with faulty | ⟨now, refused⟩
      · rw [faulty] at reliable
        cases reliable
      · rw [← grown.id] at holds refused
        obtain ⟨ledgerTransactions, stored⟩ :=
          holds.postable isFresh (Charge.settlementMemo charge) now
        rw [refused] at stored
        cases stored

theorem safe_markPaid {log : List (Act signature Db)} {seen : Db} {uuids : SettlementUuids}
    (trail : Trail chargeId 0 log) (known : seen.hasCharge chargeId = true) :
    (settlement service faults start fresh requests).Safe faults thread
      (Charge.markPaid service.crates uuids chargeId).run
      (fun _ log share _ => Ends service faults fresh (requests thread) log share) log
      {⟨"ltx_" ++ uuids.ledger, .recorded chargeId parsed.gateway parsed.txnId⟩} seen := by
  rw [Charge.run_markPaid]
  refine ⟨?_, fun before frame later holds _ reply after replied => ?_⟩
  · exact Owns.ofRunning ingests carried trail (Nat.zero_le 1) (by simp) (by simp) (fun _ => rfl)
      fun id settles => settles.symm
  · obtain ⟨charge, member, rfl⟩ := Db.hasCharge_iff.mp (later.hasCharge known)
    obtain ⟨rfl, answered⟩ := reply_chargeById replied
    have extended : Trail charge.id 0 (⟨.chargeById charge.id, reply, after, after⟩ :: log) :=
      trail.quiet (.refl after)
    refine ⟨_, holds, ?_⟩
    rcases answered with rfl | ⟨faulty, error, rfl⟩
    · rw [Db.find_charge member] at extended ⊢
      exact safe_settleFound ingests carried extended member
    · intro response other
      exact Owns.ofFinished ingests carried extended (Nat.zero_le 1) (by simp) (by simp)
        (by simp [faulty]) other

theorem safe_conclude {log : List (Act signature Db)} {seen : Db} {txnId : String}
    (uuids : IngestUuids) (trail : Trail chargeId 0 log)
    (known : seen.hasCharge chargeId = true) :
    (settlement service faults start fresh requests).Safe faults thread
      (Sms.conclude service.crates uuids txnId (some chargeId))
      (fun outcome log share _ => Owns service faults fresh (requests thread)
        (.finished (.ingested outcome)) log share) log
      {⟨"ltx_" ++ uuids.settlement.ledger, .recorded chargeId parsed.gateway parsed.txnId⟩}
      seen := by
  refine Protocol.safe_bind (Protocol.safe_mono (safe_markPaid ingests carried trail known) ?_)
  intro outcome log share _ ends
  refine ends _ ?_
  intro same
  cases outcome with
  | ok _ => cases Response.ingested.inj same
  | error error => cases Except.error.inj (Response.ingested.inj same)

/-- Recording a message that was matched to a charge it saw pending, or to none. -/
theorem safe_recording {log : List (Act signature Db)} {seen : Db} (uuids : IngestUuids)
    (rawSha256 : String) (source : ParseSource) {matchedCharge : Option String}
    (calm : Calm log) (saw : ∀ chargeId, matchedCharge = some chargeId → SawPending chargeId log)
    (known : ∀ chargeId, matchedCharge = some chargeId → ∃ charge ∈ seen.charges,
      charge.id = chargeId ∧ charge.amountMinor = parsed.amountMinor) :
    (settlement service faults start fresh requests).Safe faults thread
      (.issue (.insertSmsEvent (Sms.newSmsEvent uuids rawSha256 parsed source matchedCharge))
        (.error ∘ Sms.refusal) fun _ =>
          Sms.conclude service.crates uuids parsed.txnId matchedCharge)
      (fun outcome log share _ => Owns service faults fresh (requests thread)
        (.finished (.ingested outcome)) log share) log
      {⟨"ltx_" ++ uuids.settlement.ledger, .waiting⟩} seen := by
  have silent : (log.map postedRows).sum = 0 :=
    sum_postedRows_eq_zero fun act member => (calm.same act member).quiet
  refine ⟨?_, fun before frame later holds _ reply after replied => ?_⟩
  · refine Owns.ofWaiting silent calm.outside ?_ (by simp)
    rintro op running
    cases running
    exact .inr ⟨_, rfl⟩
  rcases reply_insertSmsEvent replied with ⟨now, smsEvents, rfl, stored, _, rfl⟩ |
    ⟨rfl, error, rfl⟩
  · have unposted : postedRows ⟨.insertSmsEvent (Sms.newSmsEvent uuids rawSha256 parsed source
        matchedCharge), .ok (), before, { before with smsEvents }⟩ = 0 := postedRows_of_same rfl
    cases matchedCharge with
    | none =>
        refine ⟨_, holds.recordUnmatched stored rfl, ?_⟩
        refine Owns.ofWaiting (by simp [unposted, silent]) ?_ (by simp) (by simp)
        simpa using calm.outside
    | some chargeId =>
        obtain ⟨charge, member, rfl, amount⟩ := known chargeId rfl
        obtain ⟨current, currentMember, grown⟩ := later.charges.mem member
        refine ⟨{⟨"ltx_" ++ uuids.settlement.ledger,
          .recorded charge.id parsed.gateway parsed.txnId⟩}, ?_, ?_⟩
        · rw [← grown.id] at stored ⊢
          exact holds.record stored currentMember rfl rfl (by rw [grown.amountMinor, amount]; rfl)
        · refine safe_conclude ingests carried uuids ⟨?_, ?_, ?_⟩ ?_
          · exact ⟨_, _, _, List.mem_cons_self, rfl, rfl⟩
          · exact (saw charge.id rfl).cons _
          · rw [List.map_cons, List.sum_cons, unposted, silent]
          · exact Db.hasCharge_iff.mpr ⟨current, currentMember, grown.id⟩
  · have calmer : Calm (⟨.insertSmsEvent (Sms.newSmsEvent uuids rawSha256 parsed source
        matchedCharge), .error error, after, after⟩ :: log) := calm.cons (.refl after) (by simp)
    exact ⟨_, holds, Owns.ofWaiting
      (sum_postedRows_eq_zero fun act member => (calmer.same act member).quiet)
      calmer.outside (by simp) fun _ => calmer.same⟩

theorem safe_record {log : List (Act signature Db)} {seen : Db} (uuids : IngestUuids)
    (rawSha256 : String) (source : ParseSource) (calm : Calm log) :
    (settlement service faults start fresh requests).Safe faults thread
      (Sms.record service.crates uuids rawSha256 parsed source).run
      (fun outcome log share _ => Owns service faults fresh (requests thread)
        (.finished (.ingested outcome)) log share) log
      {⟨"ltx_" ++ uuids.settlement.ledger, .waiting⟩} seen := by
  rw [Sms.run_record]
  refine ⟨?_, fun looked frame _ holds _ reply after replied => ?_⟩
  · refine Owns.ofWaiting (sum_postedRows_eq_zero fun act member => (calm.same act member).quiet)
      calm.outside ?_ (by simp)
    rintro op running
    cases running
    exact .inl ⟨rfl, by simp⟩
  obtain ⟨rfl, answered⟩ := reply_pendingByAmount replied
  have calmer : Calm (⟨.pendingByAmount parsed.amountMinor, reply, after, after⟩ :: log) :=
    calm.cons (.refl after) (by simp)
  refine ⟨_, holds, ?_⟩
  rcases answered with rfl | ⟨_, error, rfl⟩
  · have candidate : ∀ chargeId, Sms.pick parsed.senderMsisdn
        (after.pendingByAmount parsed.amountMinor) = some chargeId → ∃ charge ∈ after.charges,
          charge.amountMinor = parsed.amountMinor ∧ charge.status = .pending ∧
            charge.id = chargeId := by
      intro chargeId picked
      obtain ⟨_, member, rfl⟩ := Sms.mem_of_pick picked
      obtain ⟨charge, chargeMember, amount, pending, rfl⟩ := Db.mem_pendingByAmount.mp member
      exact ⟨charge, chargeMember, amount, pending, rfl⟩
    refine safe_recording ingests carried uuids rawSha256 source calmer ?_ ?_
    · intro chargeId picked
      obtain ⟨charge, member, _, pending, id⟩ := candidate chargeId picked
      exact ⟨_, List.mem_cons_self, charge, member, id, pending⟩
    · intro chargeId picked
      obtain ⟨charge, member, amount, _, id⟩ := candidate chargeId picked
      exact ⟨charge, member, id, amount⟩
  · exact Owns.ofWaiting
      (sum_postedRows_eq_zero fun act member => (calmer.same act member).quiet)
      calmer.outside (by simp) fun _ => calmer.same

end Ingest

/-! ## Whole requests -/

def Request.ledgerId : Request → Option String
  | .ingest uuids _ _ _ => some ("ltx_" ++ uuids.settlement.ledger)
  | _ => none

def Request.flight : Request → Multiset Flight
  | .ingest uuids _ _ _ => {⟨"ltx_" ++ uuids.settlement.ledger, .waiting⟩}
  | _ => 0

theorem Request.eq_ingest {request : Request} (ingests : request.isIngest = true) :
    ∃ uuids replies gw rawBody, request = .ingest uuids replies gw rawBody := by
  cases request with
  | ingest uuids replies gw rawBody => exact ⟨uuids, replies, gw, rawBody, rfl⟩
  | _ => cases ingests

theorem Request.flight_of_aside {request : Request} (other : request.isIngest = false) :
    request.flight = 0 := by
  cases request with
  | ingest => cases other
  | _ => rfl

theorem Request.key_of_aside {service : Service} {request : Request}
    (other : request.isIngest = false) : request.key service = none := by
  cases request with
  | ingest => cases other
  | _ => rfl

def Untouched (log : List (Act signature Db)) : Prop := ∀ act ∈ log, act.before.Quiet act.after

section Threads

variable {service : Service} {faults : Bool} {start : Db} {fresh : Prop}
  {requests : Thread → Request} {thread : Thread}

theorem safe_ingest {uuids : IngestUuids} {replies : List ProviderReply} {gw rawBody : String}
    {seen : Db} (request : requests thread = .ingest uuids replies gw rawBody) :
    (settlement service faults start fresh requests).Safe faults thread
      (Sms.ingest service.crates replies uuids gw rawBody).run
      (fun outcome log share _ => Owns service faults fresh (requests thread)
        (.finished (.ingested outcome)) log share) []
      {⟨"ltx_" ++ uuids.settlement.ledger, .waiting⟩} seen := by
  have silent : ∀ log, Calm log → (log.map postedRows).sum = 0 := fun log calm =>
    sum_postedRows_eq_zero fun act member => (calm.same act member).quiet
  rw [Sms.run_ingest]
  cases resolved : resolve gw with
  | none => exact Owns.ofWaiting (by simp) (by simp) (by simp) (by simp)
  | some gateway =>
      refine Protocol.safe_bind (Protocol.safe_of_uses
        (Sms.uses_parse service.crates replies gateway rawBody _) Calm.nil ?_ ?_ ?_ ?_)
      · intro op log fallback calm
        refine Owns.ofWaiting (silent log calm) calm.outside ?_ (by simp)
        rintro other running
        cases running
        cases op with
        | insertAiParse columns => exact .inl ⟨rfl, by simp⟩
        | _ => cases fallback
      · intro op fallback before total reply after holds replied
        refine holds.quiet (evolves_reply replied) (quiet_reply ?_ replied)
        cases op with
        | insertAiParse columns => rfl
        | _ => cases fallback
      · intro op reply before after log fallback replied calm
        cases op with
        | insertAiParse columns =>
            refine calm.cons (sameMoney_reply ?_ replied) (by simp)
            intro written writes
            cases writes
            rfl
        | _ => cases fallback
      · rintro outcome log later rfl _ calm
        have carried : (requests thread).key service =
            ((Sms.parsed service.crates replies gateway rawBody).toOption.map (·.1)).map
              fun parsed => (parsed.gateway, parsed.txnId) := by
          simp [request, Request.key, Sms.transaction, resolved]
        cases outcome : Sms.parsed service.crates replies gateway rawBody with
        | error error =>
            exact Owns.ofWaiting (silent log calm) calm.outside (by simp) fun _ => calm.same
        | ok result =>
            rw [outcome] at carried
            exact safe_record (by rw [request]; rfl) carried uuids _ result.2 calm

theorem safe_aside (other : (requests thread).isIngest = false) (seen : Db) :
    (settlement service faults start fresh requests).SafeThread faults thread
      ((requests thread).program service) [] 0 seen := by
  have owned : ∀ point log, Untouched log →
      (∀ op, point = .running op → op.aside) →
      (∀ response, point = .finished response → response.isIngested = false) →
      Owns service faults fresh (requests thread) point log 0 := by
    intro point log quiet running finished
    refine ⟨?_, ?_, ?_, ?_, ?_, ?_⟩
    · intro id paying
      cases running _ paying
    · intro gateway txnId carried
      rw [Request.key_of_aside other] at carried
      cases carried
    · intro gateway txnId carried
      rw [Request.key_of_aside other] at carried
      cases carried
    · intro _ _ id settles
      cases settles
    · intro ingests
      rw [other] at ingests
      cases ingests
    · intro refused
      cases finished _ refused
  refine Protocol.safe_of_uses (Request.uses_program service (requests thread) other)
    (show Untouched [] by simp [Untouched]) ?_ ?_ ?_ ?_
  · intro op log aside quiet
    refine owned _ log quiet ?_ (by simp)
    rintro _ running
    cases running
    exact aside
  · intro op aside before total reply after holds replied
    exact holds.quiet (evolves_reply replied)
      (quiet_reply (Statement.crediting_of_settling aside) replied)
  · intro op reply before after log aside replied quiet
    simpa [Untouched] using ⟨quiet_reply (Statement.crediting_of_settling aside) replied, quiet⟩
  · intro response log later answered _ quiet
    refine owned _ log quiet (by simp) ?_
    rintro _ finished
    cases finished
    exact answered

theorem safe_program (seen : Db) :
    (settlement service faults start fresh requests).SafeThread faults thread
      ((requests thread).program service) [] (requests thread).flight seen := by
  cases ingests : (requests thread).isIngest with
  | true =>
      obtain ⟨uuids, replies, gw, rawBody, request⟩ := Request.eq_ingest ingests
      rw [request]
      refine Protocol.safe_bind (Protocol.safe_mono (safe_ingest request) ?_)
      exact fun outcome log share _ owned => owned
  | false =>
      rw [Request.flight_of_aside ingests]
      exact safe_aside ingests seen

end Threads

/-! ## The pool -/

section Pool

variable {service : Service} {faults : Bool} {db : Db} {requests : Thread → Request}

structure FreshLedger (requests : Thread → Request) (db : Db) : Prop where
  distinct : ∀ left right id, (requests left).ledgerId = some id →
    (requests right).ledgerId = some id → left = right
  unused : ∀ thread id, (requests thread).ledgerId = some id →
    ∀ txn ∈ db.ledgerTransactions, txn.id ≠ id

theorem Request.mem_flight {request : Request} {flight : Flight} :
    flight ∈ request.flight ↔
      flight.stage = .waiting ∧ request.ledgerId = some flight.ledgerId := by
  obtain ⟨ledgerId, stage⟩ := flight
  cases request with
  | ingest uuids => simp [Request.flight, Request.ledgerId, and_comm, eq_comm]
  | _ => simp [Request.flight, Request.ledgerId]

theorem Request.flight_nodup (request : Request) : (request.flight.map Flight.ledgerId).Nodup := by
  cases request <;> simp [Request.flight]

theorem flightsAt_flights (threads : Finset Thread) {property : Stage → Bool}
    (grounded : property .waiting = false) :
    flightsAt property (∑ thread ∈ threads, (requests thread).flight) = 0 := by
  rw [flightsAt, Multiset.countP_eq_zero]
  intro flight member
  obtain ⟨thread, _, own⟩ := Multiset.mem_sum.mp member
  rw [(Request.mem_flight.mp own).1, grounded]
  exact Bool.false_ne_true

theorem flights_nodup [DecidableEq Thread]
    (distinct : ∀ left right id, (requests left).ledgerId = some id →
      (requests right).ledgerId = some id → left = right) (threads : Finset Thread) :
    ((∑ thread ∈ threads, (requests thread).flight).map Flight.ledgerId).Nodup := by
  induction threads using Finset.induction_on with
  | empty => simp
  | insert thread threads outside ih =>
      rw [Finset.sum_insert outside, Multiset.map_add, Multiset.nodup_add]
      refine ⟨Request.flight_nodup _, ih, Multiset.disjoint_left.mpr ?_⟩
      intro id own others
      obtain ⟨flight, flightMember, rfl⟩ := Multiset.mem_map.mp own
      obtain ⟨other, otherMember, same⟩ := Multiset.mem_map.mp others
      obtain ⟨holder, holderMember, held⟩ := Multiset.mem_sum.mp otherMember
      have identified := (Request.mem_flight.mp held).2
      rw [same] at identified
      rw [distinct thread holder _ (Request.mem_flight.mp flightMember).2 identified] at outside
      exact outside holderMember

variable [DecidableEq Thread] [Fintype Thread]

theorem pool_safe_start : (settlement service faults db (FreshLedger requests db)
    requests).PoolSafe faults [] (service.pool db requests) := by
  refine Protocol.poolSafe_start (fun thread => (requests thread).flight) ?_ fun thread =>
    safe_program db
  refine ⟨id, fun chargeId => ?_, fun gateway txnId => ?_, fun chargeId => ?_,
    fun chargeId more => ?_, fun isFresh => ?_,
    fun isFresh flight member txn txnMember same => ?_⟩
  · rw [flightsAt_flights _ rfl]
    exact (Nat.add_comm _ _).le
  · rw [flightsAt_flights _ rfl]
    exact (Nat.zero_add _).le
  · rw [flightsAt_flights _ rfl]
    exact (Nat.zero_add _).le
  · exact absurd more (Nat.lt_irrefl _)
  · exact flights_nodup isFresh.distinct _
  · obtain ⟨thread, _, own⟩ := Multiset.mem_sum.mp member
    exact absurd same (isFresh.unused thread _ (Request.mem_flight.mp own).2 txn txnMember)

/-- The protocol holds in every run of every pool of requests. -/
theorem pool_safe {past : List (Event signature Db Thread Response)}
    {config : Config signature Db Thread Response}
    (run : Run sqlite faults (service.pool db requests) past config) :
    (settlement service faults db (FreshLedger requests db) requests).PoolSafe faults past config :=
  Protocol.run_safe pool_safe_start (fun _ _ => trivial) run

end Pool

end SpritexPay
