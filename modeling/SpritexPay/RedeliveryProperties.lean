import SpritexPay.RecoveryProperties
import SpritexPay.ReissueProperties

/-! One message that is delivered again. What tells a message from its repetition
is the transaction id that is read out of it, so repetitions are harmless exactly
as far as every reading of them agrees. -/

set_option autoImplicit false

namespace SpritexPay

open Relational Resumption

/-! ## One delivery -/

/-- The transaction of the gateway is on record. -/
def Db.Seen (db : Db) (key : Gateway × String) : Prop :=
  ∃ row ∈ db.smsEvents, (row.gateway, row.txnId) = key

namespace Sms

variable {crates : Crates} {replies : List ProviderReply} {uuids : IngestUuids}
  {gw rawBody : String} {before after : Db} {outcome : Except IngestError Ingested}

def readKey (crates : Crates) (replies : List ProviderReply) (gw rawBody : String) :
    Option (Gateway × String) :=
  (transaction crates replies gw rawBody).map fun parsed => (parsed.gateway, parsed.txnId)

theorem recordedAs_of_readKey {key : Gateway × String}
    (carried : readKey crates replies gw rawBody = some key) :
    ∃ columns, recordedAs crates replies uuids gw rawBody before = some columns ∧
      (columns.gateway, columns.txnId) = key := by
  obtain ⟨_, read, rfl⟩ := Option.map_eq_some_iff.mp carried
  obtain ⟨gateway, resolved, parses⟩ := Option.bind_eq_some_iff.mp read
  obtain ⟨⟨transaction, source⟩, accepted, rfl⟩ := Option.map_eq_some_iff.mp parses
  refine ⟨newSmsEvent uuids (crates.sign "sms-audit" rawBody) transaction source
    (pick transaction.senderMsisdn (before.pendingByAmount transaction.amountMinor)), ?_, rfl⟩
  simp [recordedAs, resolved, accepted]

/-- A delivery changes no money, or records the transaction that was read under
its own identifier, and the transaction was not on record. -/
theorem recorded_of_runs
    (runs : sqlite.Runs (ingest crates replies uuids gw rawBody).run before outcome after) :
    before.SameMoney after ∨ ∃ row : SmsEvent,
      readKey crates replies gw rawBody = some (row.gateway, row.txnId) ∧
      row.id = "sms_" ++ uuids.event ∧ ¬before.Seen (row.gateway, row.txnId) ∧
      after.smsEvents.rows = before.smsEvents.rows ++ [row] := by
  have stored : ∀ {columns : NewSmsEvent} {recorded : Db},
      recordedAs crates replies uuids gw rawBody before = some columns →
      before.Records recorded columns → ∃ row : SmsEvent,
        readKey crates replies gw rawBody = some (row.gateway, row.txnId) ∧
        row.id = "sms_" ++ uuids.event ∧ ¬before.Seen (row.gateway, row.txnId) ∧
        recorded.smsEvents.rows = before.smsEvents.rows ++ [row] := by
    rintro columns recorded row ⟨now, smsEvents, aiParseLog, inserted, rfl⟩
    obtain ⟨rows, apart⟩ := Table.insert?_eq_some_iff.mp inserted
    refine ⟨columns.row now, recordedAs_transaction row, recordedAs_id row, ?_, rows⟩
    rintro ⟨event, member, same⟩
    have distinct := apart event member
    obtain ⟨sameGateway, sameTxnId⟩ := Prod.mk.inj same
    simp [key, clash, sameGateway, sameTxnId] at distinct
  have ingesting := ingesting_of_ingest runs.undisturbed
  generalize some outcome = result at ingesting
  cases ingesting with
  | unrecorded same => exact .inl same
  | unmatched row _ records => exact .inr (stored row records)
  | matched row _ records _ _ _ _ settling =>
      obtain ⟨event, carried, id, unseen, rows⟩ := stored row records
      exact .inr ⟨event, carried, id, unseen, (congrArg Table.rows settling.smsEvents).trans rows⟩

/-- A delivery whose identifier is its own leaves the transaction it was read as
on record. -/
theorem seen_of_runs {key : Gateway × String}
    (carried : readKey crates replies gw rawBody = some key)
    (fresh : ∀ row ∈ before.smsEvents, row.id ≠ "sms_" ++ uuids.event)
    (runs : sqlite.Runs (ingest crates replies uuids gw rawBody).run before outcome after) :
    after.Seen key := by
  obtain ⟨columns, row, rfl⟩ := recordedAs_of_readKey carried
  have ingesting := ingesting_of_ingest runs.undisturbed
  generalize some outcome = result at ingesting
  have stored : ∀ {recorded : Db}, before.Records recorded columns →
      recorded.Seen (columns.gateway, columns.txnId) := by
    rintro _ ⟨now, smsEvents, aiParseLog, inserted, rfl⟩
    exact ⟨_, (Table.mem_insert? inserted).mpr (.inr rfl), rfl⟩
  cases ingesting with
  | unrecorded same _ reason =>
      by_contra unseen
      rcases reason with none | ⟨_, _, stopped⟩ | ⟨other, otherRow, never | never | refused⟩
      · cases none.symm.trans row
      · cases stopped
      · exact never rfl
      · exact never rfl
      · cases Option.some.inj (otherRow.symm.trans row)
        refine refused (recordable_of_recordedAs row fun event member => ⟨?_, ?_⟩)
        · rw [recordedAs_id row]
          exact fresh event member
        · rintro ⟨sameGateway, sameTxnId⟩
          refine unseen ⟨event, ?_, by rw [sameGateway, sameTxnId]⟩
          rwa [same.smsEvents]
  | unmatched otherRow _ records =>
      cases Option.some.inj (otherRow.symm.trans row)
      exact stored records
  | matched otherRow _ records _ _ _ _ settling =>
      cases Option.some.inj (otherRow.symm.trans row)
      obtain ⟨event, member, same⟩ := stored records
      exact ⟨event, settling.smsEvents ▸ member, same⟩

/-- A delivery pays one charge at most. -/
theorem paid_of_runs
    (runs : sqlite.Runs (ingest crates replies uuids gw rawBody).run before outcome after) :
    ∃ payer, ∀ chargeId, after.isPaid chargeId → before.isPaid chargeId ∨ payer = chargeId := by
  rcases pays_of_runs runs with idle | ⟨charge, pays⟩
  · exact ⟨"", fun chargeId paid => .inl ((Db.isPaid_congr idle.charges).mp paid)⟩
  · obtain ⟨now, rows⟩ := pays.paid
    refine ⟨charge.id, fun chargeId paid => ?_⟩
    rw [Db.isPaid_congr rows, Db.isPaid_setChargePaid] at paid
    exact paid.imp_right And.left

end Sms

/-! ## Any number of deliveries -/

namespace Db

/-- The charge has become paid since the start. -/
def Paid (start db : Db) (chargeId : String) : Prop := ¬start.isPaid chargeId ∧ db.isPaid chargeId

/-- Since the start one message was recorded and one charge paid, at most. -/
structure Once (start db : Db) : Prop where
  recorded : db.smsEvents.rows.length ≤ start.smsEvents.rows.length + 1
  paid : ∀ left right, start.Paid db left → start.Paid db right → left = right

end Db

/-- Any two readings of the deliveries that are not on record agree. -/
def Agree (service : Service) (start : Db) (calls : List Call) : Prop :=
  ∀ left ∈ calls, ∀ right ∈ calls, ∀ leftKey rightKey,
    left.request.key service = some leftKey → right.request.key service = some rightKey →
    ¬start.Seen leftKey → ¬start.Seen rightKey → leftKey = rightKey

def Request.eventId : Request → Option String
  | .ingest uuids _ _ _ => some ("sms_" ++ uuids.event)
  | _ => none

def eventIds (calls : List Call) : List String := calls.filterMap (·.request.eventId)

/-- The calls deliver one message to one gateway. -/
def Redeliver (gw rawBody : String) (calls : List Call) : Prop :=
  ∀ call ∈ calls, ∃ uuids replies, call.request = .ingest uuids replies gw rawBody

/-- Every delivery draws an identifier of its own. -/
structure OwnEvents (start : Db) (calls : List Call) : Prop where
  distinct : (eventIds calls).Nodup
  fresh : ∀ row ∈ start.smsEvents, row.id ∉ eventIds calls

section Deliveries

variable {service : Service} {start db : Db} {calls : List Call} {gw rawBody : String}

/-- How far the deliveries of one message have got. -/
inductive Delivered (service : Service) (start : Db) (calls : List Call) (db : Db) : Prop where
  | idle (events : db.smsEvents = start.smsEvents) (charges : db.charges = start.charges)
  | once (row : SmsEvent) (payer : String)
      (rows : db.smsEvents.rows = start.smsEvents.rows ++ [row])
      (unseen : ¬start.Seen (row.gateway, row.txnId))
      (carried : ∃ call ∈ calls, call.request.key service = some (row.gateway, row.txnId))
      (paid : ∀ chargeId, db.isPaid chargeId → start.isPaid chargeId ∨ payer = chargeId)

theorem Delivered.kept {call : Call} {after : Db} (delivered : Delivered service start calls db)
    (same : db.SameMoney after) : Delivered service start (call :: calls) after := by
  cases delivered with
  | idle events charges => exact .idle (same.smsEvents.trans events) (same.charges.trans charges)
  | once row payer rows unseen carried paid =>
      obtain ⟨earlier, member, key⟩ := carried
      refine .once row payer ?_ unseen ⟨earlier, .tail _ member, key⟩ fun chargeId => ?_
      · rw [same.smsEvents, rows]
      · rw [Db.isPaid_congr same.charges]
        exact paid chargeId

theorem delivered_of_history (history : History service start calls db)
    (redeliver : Redeliver gw rawBody calls) (agree : Agree service start calls) :
    Delivered service start calls db := by
  induction history with
  | start => exact .idle rfl rfl
  | @serve past db after request response _ served ih =>
      have delivered := ih (fun call member => redeliver call (.tail _ member))
        fun left leftMember right rightMember =>
          agree left (.tail _ leftMember) right (.tail _ rightMember)
      obtain ⟨uuids, replies, rfl⟩ := redeliver _ List.mem_cons_self
      obtain ⟨outcome, runs, rfl⟩ := runs_respond_iff.mp served
      rcases Sms.recorded_of_runs runs with same | ⟨row, carried, _, unseen, rows⟩
      · exact delivered.kept same
      · cases delivered with
        | idle events charges =>
            obtain ⟨payer, paid⟩ := Sms.paid_of_runs runs
            refine .once row payer (by rw [rows, events]) ?_ ⟨_, List.mem_cons_self, carried⟩ ?_
            · unfold Db.Seen at unseen ⊢
              rwa [← events]
            · intro chargeId isPaid
              rw [← Db.isPaid_congr charges]
              exact paid chargeId isPaid
        | once first payer firstRows firstUnseen firstCarried paid =>
            obtain ⟨earlier, member, key⟩ := firstCarried
            have first_seen : db.Seen (first.gateway, first.txnId) :=
              ⟨first, Table.mem_rows.mp (by rw [firstRows]; simp), rfl⟩
            have startUnseen : ¬start.Seen (row.gateway, row.txnId) := by
              rintro ⟨old, oldMember, same⟩
              refine unseen ⟨old, Table.mem_rows.mp ?_, same⟩
              rw [firstRows]
              exact List.mem_append_left _ oldMember
            have same := agree _ List.mem_cons_self _ (.tail _ member) _ _ carried key startUnseen
              firstUnseen
            rw [same] at unseen
            exact absurd first_seen unseen

theorem Delivered.toOnce (delivered : Delivered service start calls db) : start.Once db := by
  cases delivered with
  | idle events charges =>
      refine ⟨by rw [events]; omega, fun left _ ⟨unpaid, paid⟩ => ?_⟩
      exact absurd ((Db.isPaid_congr charges).mp paid) unpaid
  | once row payer rows unseen carried paid =>
      refine ⟨by simp [rows], fun left right ⟨leftUnpaid, leftPaid⟩ ⟨rightUnpaid, rightPaid⟩ => ?_⟩
      rw [← (paid left leftPaid).resolve_left leftUnpaid,
        ← (paid right rightPaid).resolve_left rightUnpaid]

theorem OwnEvents.tail {call : Call} (own : OwnEvents start (call :: calls)) :
    OwnEvents start calls := by
  have sublist : (eventIds calls).Sublist (eventIds (call :: calls)) :=
    (List.sublist_cons_self _ _).filterMap _
  exact ⟨own.distinct.sublist sublist, fun row member listed =>
    own.fresh row member (sublist.subset listed)⟩

theorem eventIds_cons (uuids : IngestUuids) (replies : List ProviderReply) (response : Response) :
    eventIds (⟨.ingest uuids replies gw rawBody, response⟩ :: calls) =
      ("sms_" ++ uuids.event) :: eventIds calls := rfl

theorem eventId_of_row (history : History service start calls db)
    (redeliver : Redeliver gw rawBody calls) : ∀ row ∈ db.smsEvents,
      row ∈ start.smsEvents ∨ row.id ∈ eventIds calls := by
  induction history with
  | start => exact fun row member => .inl member
  | serve _ served ih =>
      have earlier := ih fun call member => redeliver call (.tail _ member)
      obtain ⟨uuids, replies, rfl⟩ := redeliver _ List.mem_cons_self
      obtain ⟨outcome, runs, rfl⟩ := runs_respond_iff.mp served
      intro row member
      rw [eventIds_cons, List.mem_cons]
      rcases Sms.recorded_of_runs runs with same | ⟨new, _, id, _, rows⟩
      · rw [same.smsEvents] at member
        exact (earlier row member).imp_right .inr
      · rw [← Table.mem_rows, rows, List.mem_append, List.mem_singleton] at member
        rcases member with old | rfl
        · exact (earlier row old).imp_right .inr
        · exact .inr (.inl id)

/-- Every reading of the deliveries ends up on record. -/
theorem seen_of_history (history : History service start calls db)
    (redeliver : Redeliver gw rawBody calls) (own : OwnEvents start calls) {call : Call}
    (member : call ∈ calls) {key : Gateway × String} (read : call.request.key service = some key) :
    db.Seen key := by
  induction history with
  | start => cases member
  | serve earlier served ih =>
      have before := fun call member => redeliver call (.tail _ member)
      rcases List.mem_cons.mp member with rfl | old
      · obtain ⟨uuids, replies, rfl⟩ := redeliver _ List.mem_cons_self
        obtain ⟨outcome, runs, rfl⟩ := runs_respond_iff.mp served
        refine Sms.seen_of_runs read (fun row rowMember taken => ?_) runs
        have distinct := own.distinct
        rw [eventIds_cons] at distinct
        rcases eventId_of_row earlier before row rowMember with started | listed
        · refine own.fresh row started ?_
          rw [eventIds_cons, taken]
          exact List.mem_cons_self
        · rw [taken] at listed
          exact (List.nodup_cons.mp distinct).1 listed
      · obtain ⟨row, rowMember, same⟩ := ih before own.tail old
        exact ⟨row, (evolves_served served).smsEvents.subset rowMember, same⟩

theorem agree_of_once (history : History service start calls db)
    (redeliver : Redeliver gw rawBody calls) (own : OwnEvents start calls)
    (once : start.Once db) : Agree service start calls := by
  intro left leftMember right rightMember leftKey rightKey leftRead rightRead leftUnseen rightUnseen
  obtain ⟨extra, rows⟩ := (evolves_history history).smsEvents
  have short : extra.length ≤ 1 := by
    have bound := once.recorded
    rw [← rows, List.length_append] at bound
    omega
  have added : ∀ {key : Gateway × String}, ¬start.Seen key → db.Seen key →
      ∃ row ∈ extra, (row.gateway, row.txnId) = key := by
    rintro key unseen ⟨row, member, same⟩
    rw [← Table.mem_rows, ← rows, List.mem_append] at member
    exact ⟨row, member.resolve_left fun old => unseen ⟨row, old, same⟩, same⟩
  obtain ⟨leftRow, leftIn, rfl⟩ := added leftUnseen
    (seen_of_history history redeliver own leftMember leftRead)
  obtain ⟨rightRow, rightIn, rfl⟩ := added rightUnseen
    (seen_of_history history redeliver own rightMember rightRead)
  match extra, short with
  | [row], _ => rw [List.mem_singleton.mp leftIn, List.mem_singleton.mp rightIn]

/-- Deliveries of one message record at most one row and pay at most one charge
exactly when the readings that were not on record agree. -/
theorem redelivered_once_iff (history : History service start calls db)
    (redeliver : Redeliver gw rawBody calls) (own : OwnEvents start calls) :
    start.Once db ↔ Agree service start calls := by
  constructor
  · exact agree_of_once history redeliver own
  · intro agree
    exact (delivered_of_history history redeliver agree).toOnce

/-- A message that the regular expressions fit is read the same way every time. -/
theorem agree_of_regex {gateway : Gateway} {parsed : ParsedTxn}
    (resolved : resolve gw = some gateway)
    (fits : gateway.parseSms service.crates rawBody = .ok parsed)
    (redeliver : Redeliver gw rawBody calls) : Agree service start calls := by
  have read : ∀ call ∈ calls, call.request.key service = some (parsed.gateway, parsed.txnId) := by
    intro call member
    obtain ⟨uuids, replies, request⟩ := redeliver call member
    simp [request, Request.key, Sms.transaction, Sms.parsed, resolved, fits, Except.toOption]
  intro left leftMember right rightMember leftKey rightKey leftRead rightRead _ _
  rw [read left leftMember] at leftRead
  rw [read right rightMember] at rightRead
  exact Option.some.inj (leftRead.symm.trans rightRead)

end Deliveries

/-! ## A message that the language models read in two ways -/

theorem redelivered_once_iff_sample : orderedCharge.Once
    (sampleService.serve [samplePayment "a" "TRXA", samplePayment "b" "TRXA"] orderedCharge) := by
  have history := ((History.start : History sampleService orderedCharge [] orderedCharge).next
    (samplePayment "a" "TRXA")).next (samplePayment "b" "TRXA")
  have redeliver : ∀ first second, Redeliver "bkash" (sampleMessage "TRXA")
      [⟨samplePayment "b" "TRXA", second⟩, ⟨samplePayment "a" "TRXA", first⟩] := by
    simp [Redeliver, samplePayment]
  have fits : Gateway.bkash.parseSms sampleService.crates (sampleMessage "TRXA") =
      .ok ⟨.bkash, "TRXA", 50000, some "01999999999"⟩ := by decide +kernel
  exact (redelivered_once_iff history (redeliver _ _) ⟨by decide +kernel, by decide +kernel⟩).mpr
    (agree_of_regex rfl fits (redeliver _ _))

def firstAnswer : String := "\x7b\"txn_id\": \"8N7A6B\", \"amount_bdt\": 500.0\x7d"

def secondAnswer : String := "\x7b\"txn_id\": \"8n7a6b\", \"amount_bdt\": 700.0\x7d"

/-- JSON is only asked to read the two answers. -/
def readingService : Service where
  crates := { sampleCrates with
    extractionFromStr := fun text =>
      if text = firstAnswer then some ⟨some "8N7A6B", some (Binary64.F64.ofRat 500), none⟩
      else if text = secondAnswer then some ⟨some "8n7a6b", some (Binary64.F64.ofRat 700), none⟩
      else none }
  baseUrl := "https://pay.example"
  webhookSecret := "secret"

def unfitMessage : String := "Tk 500 came in, ref 8N7A6B"

def readAs (uuid answer : String) : Request :=
  .ingest (sampleUuids uuid) [⟨"openai", some answer⟩] "bkash" unfitMessage

def twoOrders : Db :=
  readingService.serve
    [sampleOrder, .createCharge "2" ⟨"order-2", 70000, "BDT", none, none, none⟩] Db.empty

theorem readings_disagree : (∃ calls, History readingService Db.empty calls twoOrders) ∧
    ∃ calls db, History readingService twoOrders calls db ∧ Redeliver "bkash" unfitMessage calls ∧
      db.smsEvents.rows.length = 2 ∧ twoOrders.Paid db "chg_1" ∧ twoOrders.Paid db "chg_2" := by
  have ordered := ((History.start : History readingService Db.empty [] Db.empty).next
    sampleOrder).next (.createCharge "2" ⟨"order-2", 70000, "BDT", none, none, none⟩)
  have history := ((History.start : History readingService twoOrders [] twoOrders).next
    (readAs "a" firstAnswer)).next (readAs "b" secondAnswer)
  refine ⟨⟨_, ordered⟩, _, _, history, ?_, by decide +kernel,
    ⟨by decide +kernel, by decide +kernel⟩, by decide +kernel, by decide +kernel⟩
  simp [Redeliver, readAs]

end SpritexPay
