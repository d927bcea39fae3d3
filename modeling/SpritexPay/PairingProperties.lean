import SpritexPay.Arrivals
import SpritexPay.Books

/-! Payments from declared numbers. While every message still to come singles
out its own pending charge by the number it was paid from, it does not matter
which of them are served first: as the only candidate or by its number, each is
matched to that charge. -/

set_option autoImplicit false

namespace SpritexPay

open Relational Resumption

structure Payment where
  uuids : IngestUuids
  replies : List ProviderReply
  gw : String
  rawBody : String

namespace Payment

def request (payment : Payment) : Request :=
  .ingest payment.uuids payment.replies payment.gw payment.rawBody

def parsed (crates : Crates) (payment : Payment) : Option ParsedTxn :=
  (resolve payment.gw).bind fun gateway => (gateway.parseSms crates payment.rawBody).toOption

/-- The columns under the unique index on recorded messages. -/
def key (crates : Crates) (payment : Payment) : Option (Gateway × String) :=
  (payment.parsed crates).map fun txn => (txn.gateway, txn.txnId)

/-- Two messages that share neither a transaction nor a charge nor an identifier. -/
structure Apart (crates : Crates) (payer : Payment → String) (left right : Payment) : Prop where
  key : left.key crates ≠ right.key crates
  payer : payer left ≠ payer right
  event : left.uuids.event ≠ right.uuids.event
  ledger : left.uuids.settlement.ledger ≠ right.uuids.settlement.ledger
  webhook : left.uuids.settlement.webhook ≠ right.uuids.settlement.webhook

theorem Apart.symm {crates : Crates} {payer : Payment → String} {left right : Payment}
    (apart : left.Apart crates payer right) : right.Apart crates payer left :=
  ⟨apart.key.symm, apart.payer.symm, apart.event.symm, apart.ledger.symm, apart.webhook.symm⟩

end Payment

namespace Request

def payment : Request → Option Payment
  | .ingest uuids replies gw rawBody => some ⟨uuids, replies, gw, rawBody⟩
  | _ => none

def declaredNumber : Request → Option String
  | .createCharge _ req => req.customerMsisdn
  | .createCheckout _ req => req.mobileNumber
  | _ => none

/-- The request declares no number that the message is paid from. -/
def Bypasses (crates : Crates) (payment : Payment) (request : Request) : Prop :=
  ∀ txn, payment.parsed crates = some txn →
    request.declaredNumber.map Sms.normalizeMsisdn ≠ txn.senderMsisdn.map Sms.normalizeMsisdn

theorem eq_of_payment {request : Request} {payment : Payment}
    (carries : request.payment = some payment) : request = payment.request := by
  cases request with
  | ingest uuids replies gw rawBody =>
      cases carries
      rfl
  | _ => cases carries

theorem isIngest_of_payment {request : Request} (carries : request.payment = none) :
    request.isIngest = false := by
  cases request with
  | ingest uuids replies gw rawBody => cases carries
  | _ => rfl

theorem declaredNumber_of_makes {request : Request} {columns : NewCharge}
    (makes : request.makes (.charge columns)) :
    columns.customerMsisdn = request.declaredNumber := by
  cases request with
  | createCharge | createCheckout =>
      cases makes
      rfl
  | issuePayment =>
      obtain ⟨_, rfl⟩ := makes
      rfl
  | openLink =>
      obtain ⟨_, _, rfl⟩ := makes
      rfl
  | _ => cases makes

end Request

structure Charge.Fits (txn : ParsedTxn) (charge : Charge) : Prop where
  pending : charge.status = .pending
  amount : charge.amountMinor = txn.amountMinor
  number : charge.customerMsisdn.map Sms.normalizeMsisdn =
    txn.senderMsisdn.map Sms.normalizeMsisdn

instance (txn : ParsedTxn) (charge : Charge) : Decidable (charge.Fits txn) :=
  decidable_of_iff (charge.status = .pending ∧ charge.amountMinor = txn.amountMinor ∧
      charge.customerMsisdn.map Sms.normalizeMsisdn =
        txn.senderMsisdn.map Sms.normalizeMsisdn)
    ⟨fun ⟨pending, amount, number⟩ => ⟨pending, amount, number⟩,
      fun fits => ⟨fits.pending, fits.amount, fits.number⟩⟩

theorem Charge.Keeps.fits {txn : ParsedTxn} {old new : Charge} (kept : old.Keeps new) :
    new.Fits txn ↔ old.Fits txn := by
  constructor
  · rintro ⟨pending, amount, number⟩
    rw [kept.status] at pending
    rw [kept.grown.amountMinor] at amount
    rw [kept.grown.customerMsisdn] at number
    exact ⟨pending, amount, number⟩
  · rintro ⟨pending, amount, number⟩
    rw [← kept.status] at pending
    rw [← kept.grown.amountMinor] at amount
    rw [← kept.grown.customerMsisdn] at number
    exact ⟨pending, amount, number⟩

namespace Db

/-- A transaction singles out one charge among the pending ones of its amount. -/
structure SinglesOut (db : Db) (txn : ParsedTxn) (chargeId : String) : Prop where
  candidate : ∃ charge ∈ db.charges, charge.id = chargeId ∧ charge.Fits txn
  alone : ∀ charge ∈ db.charges, charge.Fits txn → charge.id = chargeId

/-- No row carries an identifier that the message has drawn. -/
structure Unused (db : Db) (uuids : IngestUuids) : Prop where
  event : ∀ row ∈ db.smsEvents, row.id ≠ "sms_" ++ uuids.event
  ledger : ∀ row ∈ db.ledgerTransactions, row.id ≠ "ltx_" ++ uuids.settlement.ledger
  webhook : ∀ row ∈ db.webhookDeliveries, row.id ≠ "whd_" ++ uuids.settlement.webhook

end Db

structure Payment.Awaited (crates : Crates) (db : Db) (chargeId : String) (payment : Payment)
    (txn : ParsedTxn) : Prop where
  parsed : payment.parsed crates = some txn
  sender : txn.senderMsisdn.isSome = true
  unseen : ∀ event ∈ db.smsEvents, ¬(event.gateway = txn.gateway ∧ event.txnId = txn.txnId)
  singled : db.SinglesOut txn chargeId
  unused : db.Unused payment.uuids

/-! ## Matching -/

/-- Whether it is the only candidate or one of several, the charge that a
transaction singles out is the one it is matched to. -/
theorem Sms.pick_of_singlesOut {db : Db} {txn : ParsedTxn} {chargeId : String}
    (sender : txn.senderMsisdn.isSome = true) (singled : db.SinglesOut txn chargeId) :
    pick txn.senderMsisdn (db.pendingByAmount txn.amountMinor) = some chargeId := by
  obtain ⟨number, paidFrom⟩ := Option.isSome_iff_exists.mp sender
  obtain ⟨charge, member, rfl, fits⟩ := singled.candidate
  have candidate : (charge.id, charge.customerMsisdn) ∈ db.pendingByAmount txn.amountMinor :=
    Db.mem_pendingByAmount.mpr ⟨charge, member, fits.amount, fits.pending, rfl⟩
  have declared : (charge.id, charge.customerMsisdn) ∈
      (db.pendingByAmount txn.amountMinor).filter (declares (normalizeMsisdn number)) := by
    refine List.mem_filter.mpr ⟨candidate, ?_⟩
    simp [declares, fits.number, paidFrom]
  have alone : ∀ other ∈ db.charges.rows, other.Fits txn → other = charge :=
    fun other otherMember otherFits =>
      Db.eq_of_charge_id otherMember member (singled.alone other otherMember otherFits)
  have single : (db.pendingByAmount txn.amountMinor).filter (declares (normalizeMsisdn number)) =
      [(charge.id, charge.customerMsisdn)] := by
    have short : ((db.pendingByAmount txn.amountMinor).filter
        (declares (normalizeMsisdn number))).length ≤ 1 := by
      rw [Db.pendingByAmount, List.filter_map, List.length_map, List.filter_filter,
        ← List.countP_eq_length_filter]
      refine Table.count_le_one fun left leftMember right rightMember leftFits rightFits => ?_
      have fitting : ∀ row : Charge, (((declares (normalizeMsisdn number)) ∘ fun charge =>
          (charge.id, charge.customerMsisdn)) row && (row.amountMinor == txn.amountMinor &&
            row.status == .pending)) = true → row.Fits txn := by
        intro row passes
        simp only [declares, Function.comp, Bool.and_eq_true, beq_iff_eq] at passes
        obtain ⟨sameNumber, amount, pending⟩ := passes
        exact ⟨pending, amount, by simpa [paidFrom] using sameNumber⟩
      rw [alone left leftMember (fitting left leftFits),
        alone right rightMember (fitting right rightFits)]
      simp [key, clash]
    obtain ⟨found, only⟩ := List.length_eq_one_iff.mp
      (le_antisymm short (List.length_pos_of_mem declared))
    rw [only, List.mem_singleton] at declared
    rw [only, declared]
  generalize db.pendingByAmount txn.amountMinor = candidates at candidate single
  unfold pick
  split
  · cases candidate
  · rw [← List.mem_singleton.mp candidate]
  · simp only [paidFrom, Option.map_some, single]

theorem Sms.recordedAs_of_parsed {crates : Crates} {payment : Payment} {txn : ParsedTxn}
    (parses : payment.parsed crates = some txn) (db : Db) :
    recordedAs crates payment.replies payment.uuids payment.gw payment.rawBody db =
      some (newSmsEvent payment.uuids (crates.sign "sms-audit" payment.rawBody) txn .regex
        (pick txn.senderMsisdn (db.pendingByAmount txn.amountMinor))) := by
  obtain ⟨gateway, resolved, accepted⟩ := Option.bind_eq_some_iff.mp parses
  cases outcome : gateway.parseSms crates payment.rawBody with
  | error error =>
      rw [outcome] at accepted
      cases accepted
  | ok found =>
      rw [outcome] at accepted
      cases accepted
      simp [recordedAs, resolved, parsed, outcome, Except.toOption]

/-! ## Steps -/

section Steps

variable {service : Service} {before after : Db} {payment : Payment} {txn : ParsedTxn}
  {chargeId : String} {response : Response}

theorem Db.Unused.steady {uuids : IngestUuids} (unused : before.Unused uuids)
    (steady : before.Steady after) : after.Unused uuids where
  event := by simpa only [steady.smsEvents] using unused.event
  ledger := by simpa only [steady.ledgerTransactions] using unused.ledger
  webhook := fun row member => by
    rcases steady.webhookDeliveries.source member with ⟨old, oldMember, grown⟩ | never
    · rw [grown.id]
      exact unused.webhook old oldMember
    · exact never.elim

theorem Payment.Awaited.aside {request : Request}
    (awaited : payment.Awaited service.crates before chargeId txn)
    (bypasses : request.Bypasses service.crates payment) (other : request.isIngest = false)
    (served : sqlite.Runs (request.program service) before response after) :
    payment.Awaited service.crates after chargeId txn := by
  have steady := steady_served other served
  have origin : ∀ charge ∈ after.charges, (∃ old ∈ before.charges, old.id = charge.id) ∨
      charge.customerMsisdn = request.declaredNumber := by
    refine charges_served ?_ ?_ (fun charge member => .inl ⟨charge, member, rfl⟩) served
    · intro old new grown
      simp only [grown.id, grown.customerMsisdn]
      exact id
    · intro columns makes now positive
      exact .inr (Request.declaredNumber_of_makes makes)
  refine { awaited with
    unseen := by simpa only [steady.smsEvents] using awaited.unseen
    singled := ⟨?_, fun charge member fits => ?_⟩
    unused := awaited.unused.steady steady }
  · obtain ⟨charge, member, rfl, fits⟩ := awaited.singled.candidate
    obtain ⟨later, laterMember, kept⟩ := steady.charges.mem member
    exact ⟨later, laterMember, kept.grown.id, kept.fits.mpr fits⟩
  · rcases origin charge member with ⟨old, oldMember, id⟩ | declared
    · obtain ⟨later, laterMember, kept⟩ := steady.charges.mem oldMember
      have same : later = charge := Db.eq_of_charge_id laterMember member (kept.grown.id.trans id)
      subst same
      rw [← id]
      exact awaited.singled.alone old oldMember (kept.fits.mp fits)
    · have number := fits.number
      rw [declared] at number
      exact absurd number (bypasses txn awaited.parsed)

/-- An awaited message settles its charge. -/
theorem Payment.Awaited.settles (awaited : payment.Awaited service.crates before chargeId txn)
    (served : sqlite.Runs (payment.request.program service) before response after) :
    ∃ columns charge, columns.id = "sms_" ++ payment.uuids.event ∧
      columns.gateway = txn.gateway ∧ columns.txnId = txn.txnId ∧ columns.matched = true ∧
      columns.chargeId = some charge.id ∧ charge.id = chargeId ∧ charge ∈ before.charges ∧
      charge.status = .pending ∧
      response = .ingested (.ok ⟨columns.id, columns.txnId, some charge.id⟩) ∧
      before.Settled service.crates payment.uuids.settlement columns charge after := by
  obtain ⟨outcome, runs, rfl⟩ := runs_respond_iff.mp served
  have row := Sms.recordedAs_of_parsed awaited.parsed before
  rw [Sms.pick_of_singlesOut awaited.sender awaited.singled] at row
  cases Sms.served_of_runs runs awaited.unused.ledger awaited.unused.webhook with
  | refused _ reason =>
      obtain ⟨charge, member, known, _⟩ := awaited.singled.candidate
      refine absurd ?_ (reason _ row)
      refine ⟨fun event member => ⟨awaited.unused.event event member, awaited.unseen event member⟩,
        ?_⟩
      exact Db.hasCharge_iff.mpr ⟨charge, member, known⟩
  | unmatched other alone =>
      cases Option.some.inj (row.symm.trans other)
      cases alone
  | @settled columns charge after other reference member pending _ settled =>
      cases Option.some.inj (row.symm.trans other)
      have same : charge.id = chargeId := (Option.some.inj reference).symm
      exact ⟨_, charge, rfl, rfl, rfl, rfl, reference, same, member, pending, rfl, settled⟩

theorem Payment.Awaited.apart {other : Payment} {otherTxn : ParsedTxn} {columns : NewSmsEvent}
    {charge : Charge} {payer : Payment → String}
    (awaited : payment.Awaited service.crates before (payer payment) txn)
    (parses : other.parsed service.crates = some otherTxn)
    (apart : payment.Apart service.crates payer other)
    (event : columns.id = "sms_" ++ other.uuids.event)
    (gateway : columns.gateway = otherTxn.gateway) (txnId : columns.txnId = otherTxn.txnId)
    (pays : charge.id = payer other)
    (settled : before.Settled service.crates other.uuids.settlement columns charge after) :
    payment.Awaited service.crates after (payer payment) txn := by
  obtain ⟨recordedAt, recorded⟩ := settled.recorded
  obtain ⟨postedAt, posted, _⟩ := settled.posted
  obtain ⟨paidAt, paid⟩ := settled.paid
  have fits : ∀ row ∈ after.charges, row.Fits txn →
      row ∈ before.charges ∧ row.id ≠ charge.id := by
    intro row member fits
    rw [paid] at member
    obtain ⟨old, oldMember, rfl⟩ := Db.mem_setChargePaid.mp member
    split at fits
    · cases fits.pending
    · rename_i unchosen
      rw [if_neg unchosen]
      exact ⟨oldMember, by simpa using unchosen⟩
  refine { awaited with
    unseen := ?_
    singled := ⟨?_, fun row member rowFits => ?_⟩
    unused := ⟨?_, ?_, ?_⟩ }
  · refine Table.forall_mem_insert? awaited.unseen ?_ recorded
    rintro ⟨sameGateway, sameTxnId⟩
    refine apart.key ?_
    have keys : (txn.gateway, txn.txnId) = (otherTxn.gateway, otherTxn.txnId) := by
      rw [← gateway, ← txnId, ← sameGateway, ← sameTxnId]
      rfl
    simp [Payment.key, awaited.parsed, parses, keys]
  · obtain ⟨row, member, id, rowFits⟩ := awaited.singled.candidate
    have different : row.id ≠ charge.id := by
      rw [id, pays]
      exact apart.payer
    refine ⟨row, ?_, id, rowFits⟩
    rw [paid]
    exact Db.mem_setChargePaid.mpr ⟨row, member, by simp [different]⟩
  · exact awaited.singled.alone row (fits row member rowFits).1 rowFits
  · refine Table.forall_mem_insert? awaited.unused.event ?_ recorded
    have fresh : columns.id ≠ "sms_" ++ payment.uuids.event := by
      rw [event]
      simpa using apart.event.symm
    exact fresh
  · refine Table.forall_mem_insert? awaited.unused.ledger ?_ posted
    simpa using apart.ledger.symm
  · cases callback : charge.callbackUrl with
    | none =>
        rw [settled.silent callback]
        exact awaited.unused.webhook
    | some url =>
        obtain ⟨queuedAt, queued⟩ := settled.announced url callback
        refine Table.forall_mem_insert? awaited.unused.webhook ?_ queued
        have fresh : "whd_" ++ other.uuids.settlement.webhook ≠
            "whd_" ++ payment.uuids.settlement.webhook := by simpa using apart.webhook.symm
        exact fresh

end Steps

/-! ## Runs -/

/-- Every message awaits its charge, and no two of them have anything in common. -/
structure Pairing (crates : Crates) (start : Db) (messages : List Payment)
    (payer : Payment → String) : Prop where
  awaited : ∀ payment ∈ messages, ∃ txn, payment.Awaited crates start (payer payment) txn
  apart : messages.Pairwise (Payment.Apart crates payer)

variable {service : Service} {start db : Db} {messages : List Payment} {payer : Payment → String}
  {calls : List Call}

theorem Pairing.apart_of_ne (pairing : Pairing service.crates start messages payer)
    {left right : Payment} (leftMember : left ∈ messages) (rightMember : right ∈ messages)
    (different : left ≠ right) : left.Apart service.crates payer right := by
  have symmetric : Std.Symm (Payment.Apart service.crates payer) := ⟨fun _ _ => Payment.Apart.symm⟩
  exact pairing.apart.forall leftMember rightMember different

theorem Pairing.bypasses (pairing : Pairing service.crates start messages payer) {request : Request}
    {payment : Payment} (member : payment ∈ messages) (undeclared : request.declaredNumber = none) :
    request.Bypasses service.crates payment := by
  obtain ⟨txn, awaited⟩ := pairing.awaited payment member
  intro other parses same
  cases Option.some.inj (awaited.parsed.symm.trans parses)
  have sender := awaited.sender
  rw [undeclared, Option.map_none, eq_comm, Option.map_eq_none_iff] at same
  rw [same] at sender
  cases sender

theorem Pairing.nodup (pairing : Pairing service.crates start messages payer) : messages.Nodup :=
  pairing.apart.imp fun apart same => apart.key (congrArg _ same)

/-- The database after some of the messages have been served. -/
structure Db.Paired (service : Service) (messages : List Payment) (payer : Payment → String)
    (db start : Db) (served : List Payment) : Prop where
  waiting : ∀ payment ∈ messages, payment ∉ served →
    ∃ txn, payment.Awaited service.crates db (payer payment) txn
  recorded : ∀ payment ∈ served, ∃ event ∈ db.smsEvents,
    payment.key service.crates = some (event.gateway, event.txnId) ∧ event.matched = true ∧
      event.chargeId = some (payer payment)
  postings : ∀ id, db.postings id = start.postings id + (served.map payer).count id
  settlements : ∀ id, db.settlements id = start.settlements id + (served.map payer).count id
  isPaid : ∀ id, db.isPaid id ↔ start.isPaid id ∨ id ∈ served.map payer

theorem Db.Steady.isPaid_iff {before after : Db} (steady : before.Steady after) (id : String) :
    after.isPaid id ↔ before.isPaid id := by
  constructor
  · rintro ⟨charge, member, same, paid⟩
    rcases steady.origin member with ⟨old, oldMember, kept⟩ | ⟨pending, _⟩
    · exact ⟨old, oldMember, kept.grown.id.symm.trans same, kept.status.symm.trans paid⟩
    · rw [pending] at paid
      cases paid
  · rintro ⟨charge, member, same, paid⟩
    obtain ⟨later, laterMember, kept⟩ := steady.charges.mem member
    exact ⟨later, laterMember, kept.grown.id.trans same, kept.status.trans paid⟩

theorem Db.Paired.aside {before after : Db} {served : List Payment} {request : Request}
    {response : Response} (paired : before.Paired service messages payer start served)
    (bypasses : ∀ payment ∈ messages, request.Bypasses service.crates payment)
    (other : request.isIngest = false)
    (runs : sqlite.Runs (request.program service) before response after) :
    after.Paired service messages payer start served := by
  have steady := steady_served other runs
  refine ⟨?_, ?_, fun id => ?_, fun id => ?_, fun id => ?_⟩
  · intro payment member unserved
    obtain ⟨txn, awaited⟩ := paired.waiting payment member unserved
    exact ⟨txn, awaited.aside (bypasses payment member) other runs⟩
  · simpa only [steady.smsEvents] using paired.recorded
  · rw [(steady.measures id).1, paired.postings]
  · rw [(steady.measures id).2.1, paired.settlements]
  · rw [steady.isPaid_iff, paired.isPaid]

theorem Db.Paired.settle {before after : Db} {served : List Payment} {payment : Payment}
    {response : Response} (pairing : Pairing service.crates start messages payer)
    (paired : before.Paired service messages payer start served) (member : payment ∈ messages)
    (unserved : payment ∉ served)
    (runs : sqlite.Runs (payment.request.program service) before response after) :
    after.Paired service messages payer start (payment :: served) ∧ ∃ ingested,
      response = .ingested (.ok ingested) ∧ ingested.matchedCharge = some (payer payment) := by
  obtain ⟨txn, awaited⟩ := paired.waiting payment member unserved
  obtain ⟨columns, charge, event, gateway, txnId, isMatched, reference, pays, chargeMember, _, rfl,
    settled⟩ := awaited.settles runs
  refine ⟨⟨?_, ?_, fun id => ?_, fun id => ?_, fun id => ?_⟩, _, rfl, congrArg some pays⟩
  · intro other otherMember otherUnserved
    obtain ⟨different, unservedYet⟩ := not_or.mp (mt List.mem_cons.mpr otherUnserved)
    obtain ⟨otherTxn, otherAwaited⟩ := paired.waiting other otherMember unservedYet
    have apart := pairing.apart_of_ne otherMember member different
    exact ⟨otherTxn, otherAwaited.apart awaited.parsed apart event gateway txnId pays settled⟩
  · obtain ⟨recordedAt, recorded⟩ := settled.recorded
    intro other otherMember
    rcases List.mem_cons.mp otherMember with rfl | earlier
    · refine ⟨_, (Table.mem_insert? recorded).mpr (.inr rfl), ?_, isMatched, ?_⟩
      · simp [Payment.key, awaited.parsed, NewSmsEvent.row, gateway, txnId]
      · exact reference.trans (congrArg some pays)
    · obtain ⟨row, rowMember, known⟩ := paired.recorded other earlier
      exact ⟨row, (Table.mem_insert? recorded).mpr (.inl rowMember), known⟩
  · rw [settled.postings, paired.postings, pays, List.map_cons, List.count_cons, Nat.add_assoc]
    simp only [beq_iff_eq]
  · rw [settled.settlements reference isMatched, paired.settlements, pays, List.map_cons,
      List.count_cons, Nat.add_assoc]
    simp only [beq_iff_eq]
  · obtain ⟨paidAt, paid⟩ := settled.paid
    have flipped : after.isPaid id ↔ (before.setChargePaid paidAt charge.id).isPaid id := by
      rw [Db.isPaid, Db.isPaid, paid]
    rw [flipped, Db.isPaid_setChargePaid, paired.isPaid, pays, List.map_cons, List.mem_cons]
    constructor
    · rintro ((old | earlier) | ⟨same, _⟩)
      · exact .inl old
      · exact .inr (.inr earlier)
      · exact .inr (.inl same.symm)
    · rintro (old | same | earlier)
      · exact .inl (.inl old)
      · exact .inr ⟨same.symm, charge, chargeMember, pays⟩
      · exact .inl (.inr earlier)

def served (calls : List Call) : List Payment :=
  (calls.map (·.request)).filterMap Request.payment

theorem paired_of_history (pairing : Pairing service.crates start messages payer)
    (history : History service start calls db) (once : (served calls).Nodup)
    (all : ∀ payment ∈ served calls, payment ∈ messages)
    (others : ∀ call ∈ calls, ∀ payment ∈ messages,
      call.request.Bypasses service.crates payment) :
    db.Paired service messages payer start (served calls) ∧
      ∀ call ∈ calls, ∀ payment, call.request.payment = some payment → ∃ ingested,
        call.response = .ingested (.ok ingested) ∧
          ingested.matchedCharge = some (payer payment) := by
  induction history with
  | start =>
      refine ⟨⟨?_, by simp [served], by simp [served], by simp [served], by simp [served]⟩,
        by simp⟩
      exact fun payment member _ => pairing.awaited payment member
  | @serve past before after request response earlier runs ih =>
      have othersBefore : ∀ call ∈ past, ∀ payment ∈ messages,
          call.request.Bypasses service.crates payment :=
        fun call member => others call (List.mem_cons_of_mem _ member)
      cases carries : request.payment with
      | none =>
          have same : served (⟨request, response⟩ :: past) = served past := by
            simp [served, carries]
          rw [same] at once all ⊢
          obtain ⟨paired, answered⟩ := ih once all othersBefore
          refine ⟨paired.aside (others _ List.mem_cons_self)
            (Request.isIngest_of_payment carries) runs, ?_⟩
          intro call member payment carried
          rcases List.mem_cons.mp member with rfl | older
          · rw [carries] at carried
            cases carried
          · exact answered call older payment carried
      | some payment =>
          have same : served (⟨request, response⟩ :: past) = payment :: served past := by
            simp [served, carries]
          rw [same] at once all ⊢
          obtain ⟨unserved, onceBefore⟩ := List.nodup_cons.mp once
          obtain ⟨paired, answered⟩ := ih onceBefore
            (fun other member => all other (List.mem_cons_of_mem _ member)) othersBefore
          rw [Request.eq_of_payment carries] at runs
          obtain ⟨pairedAfter, answer⟩ :=
            paired.settle pairing (all payment List.mem_cons_self) unserved runs
          refine ⟨pairedAfter, fun call member other carried => ?_⟩
          rcases List.mem_cons.mp member with rfl | older
          · cases carries.symm.trans carried
            exact answer
          · exact answered call older other carried

/-- Whatever the order in which the messages are served, and whatever else is
created in between under other numbers, each message settles the charge it
singles out, and nothing else is settled. -/
theorem pairs_in_every_order (pairing : Pairing service.crates start messages payer)
    (history : History service start calls db) (order : (served calls).Perm messages)
    (others : ∀ call ∈ calls, ∀ payment ∈ messages,
      call.request.Bypasses service.crates payment) :
    (∀ call ∈ calls, ∀ payment, call.request.payment = some payment → ∃ ingested,
      call.response = .ingested (.ok ingested) ∧
        ingested.matchedCharge = some (payer payment)) ∧
    (∀ payment ∈ messages, (∃ event ∈ db.smsEvents,
        payment.key service.crates = some (event.gateway, event.txnId) ∧
          event.matched = true ∧ event.chargeId = some (payer payment)) ∧
      db.isPaid (payer payment) ∧
      db.postings (payer payment) = start.postings (payer payment) + 1 ∧
      db.settlements (payer payment) = start.settlements (payer payment) + 1) ∧
    ∀ chargeId, chargeId ∉ messages.map payer → (db.isPaid chargeId ↔ start.isPaid chargeId) ∧
      db.postings chargeId = start.postings chargeId ∧
      db.settlements chargeId = start.settlements chargeId := by
  obtain ⟨paired, answered⟩ := paired_of_history pairing history
    (order.nodup_iff.mpr pairing.nodup) (fun payment => order.mem_iff.mp) others
  have payers : ((served calls).map payer).Perm (messages.map payer) := order.map payer
  have distinct : (messages.map payer).Nodup :=
    List.pairwise_map.mpr (pairing.apart.imp fun apart => apart.payer)
  refine ⟨answered, fun payment member => ?_, fun chargeId absent => ?_⟩
  · have payerMember : payer payment ∈ messages.map payer := List.mem_map_of_mem member
    have once : ((served calls).map payer).count (payer payment) = 1 := by
      rw [payers.count_eq]
      exact List.count_eq_one_of_mem distinct payerMember
    refine ⟨paired.recorded payment (order.mem_iff.mpr member), ?_, ?_, ?_⟩
    · exact (paired.isPaid _).mpr (.inr (payers.mem_iff.mpr payerMember))
    · rw [paired.postings, once]
    · rw [paired.settlements, once]
  · have absentServed : chargeId ∉ (served calls).map payer :=
      fun member => absent (payers.mem_iff.mp member)
    have never : ((served calls).map payer).count chargeId = 0 :=
      List.count_eq_zero_of_not_mem absentServed
    refine ⟨?_, ?_, ?_⟩
    · rw [paired.isPaid]
      exact or_iff_left absentServed
    · rw [paired.postings, never, Nat.add_zero]
    · rw [paired.settlements, never, Nat.add_zero]

/-! ## Two customers -/

def orderBy (uuid number : String) : Request :=
  .createCharge uuid ⟨"order-" ++ uuid, 50000, "BDT", none, some number, none⟩

def paidBy (uuid txnId sender : String) : Payment :=
  ⟨sampleUuids uuid, [], "bkash", "received Tk 500.00 from " ++ sender ++ ". TrxID " ++ txnId⟩

def anonymousOrder (uuid : String) : Request :=
  .createCharge uuid ⟨"order-" ++ uuid, 50000, "BDT", none, none, none⟩

def firstPayment : Payment := paidBy "a" "TRXA" "01711111111"

def secondPayment : Payment := paidBy "b" "TRXB" "01722222222"

def twoCustomers : Db :=
  sampleService.serve [orderBy "1" "+8801711111111", orderBy "2" "01722222222", anonymousOrder "3"]
    Db.empty

def payerOf (payment : Payment) : String := if payment.uuids.event = "a" then "chg_1" else "chg_2"

theorem twoCustomers_pairing :
    Pairing sampleCrates twoCustomers [firstPayment, secondPayment] payerOf where
  awaited := by
    simp only [List.forall_mem_cons, List.not_mem_nil, false_implies, implies_true, and_true]
    refine ⟨⟨⟨.bkash, "TRXA", 50000, some "01711111111"⟩, ?_⟩,
      ⟨⟨.bkash, "TRXB", 50000, some "01722222222"⟩, ?_⟩⟩
    all_goals
      refine ⟨by decide +kernel, rfl, by decide +kernel, ⟨?_, ?_⟩, ⟨?_, ?_, ?_⟩⟩
      all_goals decide +kernel
  apart := by
    refine List.pairwise_pair.mpr ⟨?_, ?_, ?_, ?_, ?_⟩
    all_goals decide +kernel

theorem pairs_in_every_order_sample : ∃ calls,
    let later := sampleService.serve
      [secondPayment.request, anonymousOrder "4", firstPayment.request] twoCustomers
    History sampleService twoCustomers calls later ∧
      later.isPaid "chg_1" ∧ later.isPaid "chg_2" ∧ ¬later.isPaid "chg_3" := by
  obtain ⟨calls, history, asked⟩ :=
    (History.start : History sampleService twoCustomers [] twoCustomers).serve_all
      [secondPayment.request, anonymousOrder "4", firstPayment.request]
  have order : served calls = [firstPayment, secondPayment] := by
    rw [served, asked]
    rfl
  have undeclared : ∀ request ∈ calls.map (·.request), request.declaredNumber = none := by
    rw [asked]
    simp [Payment.request, anonymousOrder, Request.declaredNumber]
  obtain ⟨_, settled, untouched⟩ := pairs_in_every_order twoCustomers_pairing history
    (order ▸ .refl _) fun call member payment paymentMember =>
      twoCustomers_pairing.bypasses paymentMember (undeclared _ (List.mem_map_of_mem member))
  have unpaid : ¬twoCustomers.isPaid "chg_3" := by decide +kernel
  exact ⟨calls, history, (settled firstPayment (by simp)).2.1,
    (settled secondPayment (by simp)).2.1,
    fun paid => unpaid ((untouched "chg_3" (by decide +kernel)).1.mp paid)⟩

end SpritexPay
