import Mathlib.Data.Finset.Order
import SpritexPay.LinkProperties
import SpritexPay.MessageProperties
import SpritexPay.PairingProperties
import SpritexPay.ReissueProperties

/-! When a pending charge can be settled. Among several pending charges of one
amount a payment settles the one whose declared number is the sender's, if it is
the only one; a charge without a number of its own is locked out by the others. -/

set_option autoImplicit false

namespace SpritexPay

open Relational Resumption

namespace Sms

section Candidates

variable {candidates : List (String × Option String)} {chosen : String × Option String}

theorem eq_of_candidate_id (distinct : candidates.Pairwise fun left right => left.1 ≠ right.1)
    {left right : String × Option String} (leftMember : left ∈ candidates)
    (rightMember : right ∈ candidates) (same : left.1 = right.1) : left = right := by
  by_contra different
  have symmetric : Std.Symm fun left right : String × Option String => left.1 ≠ right.1 :=
    ⟨fun _ _ apart => apart.symm⟩
  exact distinct.forall leftMember rightMember different same

/-- A filter leaves exactly the chosen candidate when it alone passes. -/
theorem filter_eq_singleton_iff
    (distinct : candidates.Pairwise fun left right => left.1 ≠ right.1)
    (member : chosen ∈ candidates) (test : String × Option String → Bool) :
    candidates.filter test = [chosen] ↔
      test chosen = true ∧ ∀ other ∈ candidates, test other = true → other = chosen := by
  constructor
  · intro single
    have listed : chosen ∈ candidates.filter test := by simp [single]
    refine ⟨(List.mem_filter.mp listed).2, fun other otherMember passes => ?_⟩
    have otherListed : other ∈ candidates.filter test := List.mem_filter.mpr ⟨otherMember, passes⟩
    rw [single] at otherListed
    exact List.mem_singleton.mp otherListed
  · rintro ⟨passes, only⟩
    have listed : chosen ∈ candidates.filter test := List.mem_filter.mpr ⟨member, passes⟩
    have apart := distinct.filter test
    match filtered : candidates.filter test, listed, apart with
    | [single], listed, _ => rw [List.mem_singleton.mp listed]
    | first :: second :: rest, _, apart =>
        have all : ∀ other ∈ candidates.filter test, other = chosen := fun other otherListed =>
          only other (List.mem_filter.mp otherListed).1 (List.mem_filter.mp otherListed).2
        rw [filtered] at all
        have firstSame := all first List.mem_cons_self
        have secondSame := all second (List.mem_cons_of_mem _ List.mem_cons_self)
        refine absurd ?_ ((List.pairwise_cons.mp apart).1 second List.mem_cons_self)
        rw [firstSame, secondSame]

/-- A candidate is picked when it stands alone, or when it alone declares the sender. -/
theorem pick_eq_iff {sender : Option String} (member : chosen ∈ candidates)
    (distinct : candidates.Pairwise fun left right => left.1 ≠ right.1) :
    pick sender candidates = some chosen.1 ↔
      (∀ other ∈ candidates, other = chosen) ∨
      ∃ number, sender = some number ∧ declares (normalizeMsisdn number) chosen = true ∧
        ∀ other ∈ candidates, declares (normalizeMsisdn number) other = true → other = chosen := by
  match candidates, member with
  | [candidate], member =>
      obtain rfl := List.mem_singleton.mp member
      simp [pick]
  | first :: second :: rest, member =>
      have crowded : ¬∀ other ∈ first :: second :: rest, other = chosen := by
        intro all
        have firstSame := all first List.mem_cons_self
        have secondSame := all second (List.mem_cons_of_mem _ List.mem_cons_self)
        refine (List.pairwise_cons.mp distinct).1 second List.mem_cons_self ?_
        rw [firstSame, secondSame]
      rw [or_iff_right crowded]
      cases sender with
      | none => simp [pick]
      | some number =>
          have single := filter_eq_singleton_iff distinct member
            (declares (normalizeMsisdn number))
          constructor
          · intro picked
            refine ⟨number, rfl, single.mp ?_⟩
            simp only [pick, Option.map_some] at picked
            split at picked
            · rename_i candidate filtered
              have listed : candidate ∈ (first :: second :: rest).filter
                  (declares (normalizeMsisdn number)) := by simp [filtered]
              rw [filtered, eq_of_candidate_id distinct (List.mem_filter.mp listed).1 member
                (Option.some.inj picked)]
            · cases picked
          · rintro ⟨_, ⟨⟩, declared⟩
            simp only [pick, Option.map_some, single.mpr declared]

end Candidates

end Sms

/-! ## Charges -/

def Charge.Declares (charge : Charge) (number : String) : Prop :=
  ∃ declared, charge.customerMsisdn = some declared ∧
    Sms.normalizeMsisdn declared = Sms.normalizeMsisdn number

theorem Charge.declares_iff {charge : Charge} {number : String} :
    Sms.declares (Sms.normalizeMsisdn number) (charge.id, charge.customerMsisdn) = true ↔
      charge.Declares number := by
  simp [Sms.declares, Charge.Declares]

/-- The identifiers a message draws are new to the database. -/
structure IngestUuids.New (uuids : IngestUuids) (db : Db) : Prop where
  event : ∀ event ∈ db.smsEvents, event.id ≠ "sms_" ++ uuids.event
  ledger : ∀ txn ∈ db.ledgerTransactions, txn.id ≠ "ltx_" ++ uuids.settlement.ledger
  webhook : ∀ delivery ∈ db.webhookDeliveries, delivery.id ≠ "whd_" ++ uuids.settlement.webhook

namespace Db

variable {db : Db} {charge : Charge}

/-- No other pending charge has this amount. -/
def Alone (db : Db) (charge : Charge) : Prop :=
  ∀ other ∈ db.charges, other.status = .pending → other.amountMinor = charge.amountMinor →
    other = charge

/-- The charge declares the number, and no other pending charge of its amount does. -/
def AloneDeclares (db : Db) (charge : Charge) (number : String) : Prop :=
  charge.Declares number ∧ ∀ other ∈ db.charges, other.status = .pending →
    other.amountMinor = charge.amountMinor → other.Declares number → other = charge

theorem pendingByAmount_distinct (db : Db) (amountMinor : Int64) :
    (db.pendingByAmount amountMinor).Pairwise fun left right => left.1 ≠ right.1 := by
  refine List.pairwise_map.mpr (List.Pairwise.filter _ ?_)
  refine db.charges.distinct.imp fun {left right} apart same => ?_
  simp [key, clash, same] at apart

theorem pick_iff (member : charge ∈ db.charges) (pending : charge.status = .pending)
    (sender : Option String) :
    Sms.pick sender (db.pendingByAmount charge.amountMinor) = some charge.id ↔
      db.Alone charge ∨ ∃ number, sender = some number ∧ db.AloneDeclares charge number := by
  have listed : (charge.id, charge.customerMsisdn) ∈ db.pendingByAmount charge.amountMinor :=
    mem_pendingByAmount.mpr ⟨charge, member, rfl, pending, rfl⟩
  have rivals : ∀ test : String × Option String → Prop,
      (∀ other ∈ db.pendingByAmount charge.amountMinor, test other →
        other = (charge.id, charge.customerMsisdn)) ↔
      ∀ other ∈ db.charges, other.status = .pending → other.amountMinor = charge.amountMinor →
        test (other.id, other.customerMsisdn) → other = charge := by
    intro test
    constructor
    · intro all other otherMember otherPending amount passes
      have same := all _ (mem_pendingByAmount.mpr ⟨other, otherMember, amount, otherPending, rfl⟩)
        passes
      exact eq_of_charge_id otherMember member (congrArg Prod.fst same)
    · intro all candidate candidateMember passes
      obtain ⟨other, otherMember, amount, otherPending, rfl⟩ :=
        mem_pendingByAmount.mp candidateMember
      rw [all other otherMember otherPending amount passes]
  have alone := rivals fun _ => True
  simp only [forall_const] at alone
  rw [Sms.pick_eq_iff listed (db.pendingByAmount_distinct _), alone]
  simp only [rivals, Charge.declares_iff]
  rfl

end Db

theorem Sms.paid_iff_picked {crates : Crates} {replies : List ProviderReply} {uuids : IngestUuids}
    {gw rawBody : String} {gateway : Gateway} {transaction : ParsedTxn} {source : ParseSource}
    {db after : Db} {charge : Charge} {outcome : Except IngestError Ingested}
    (member : charge ∈ db.charges) (pending : charge.status = .pending)
    (resolved : resolve gw = some gateway)
    (parses : parsed crates replies gateway rawBody = .ok (transaction, source))
    (unseen : ∀ event ∈ db.smsEvents,
      ¬(event.gateway = transaction.gateway ∧ event.txnId = transaction.txnId))
    (new : uuids.New db)
    (runs : sqlite.Runs (ingest crates replies uuids gw rawBody).run db outcome after) :
    after.isPaid charge.id ↔ pick transaction.senderMsisdn
      (db.pendingByAmount transaction.amountMinor) = some charge.id := by
  generalize picked : pick transaction.senderMsisdn
    (db.pendingByAmount transaction.amountMinor) = matchedCharge
  have row : recordedAs crates replies uuids gw rawBody db = some (newSmsEvent uuids
      (crates.sign "sms-audit" rawBody) transaction source matchedCharge) := by
    simp [recordedAs, resolved, parses, Except.toOption, picked]
  have unpaid := Db.not_paid_of_pending member pending
  cases served_of_runs runs new.ledger new.webhook with
  | refused _ reason =>
      refine absurd (recordable_of_recordedAs row fun event recorded => ?_) (reason _ row)
      exact ⟨new.event event recorded, unseen event recorded⟩
  | unmatched otherRow alone records =>
      cases Option.some.inj (otherRow.symm.trans row)
      obtain ⟨_, _, _, _, rfl⟩ := records
      have none : matchedCharge = none := alone
      rw [none]
      exact iff_of_false unpaid (by simp)
  | @settled _ settledCharge _ otherRow reference settledMember _ _ settled =>
      cases Option.some.inj (otherRow.symm.trans row)
      have single : matchedCharge = some settledCharge.id := reference
      obtain ⟨now, paidRows⟩ := settled.paid
      rw [single, Option.some.injEq, Db.isPaid_congr paidRows, Db.isPaid_setChargePaid,
        or_iff_right unpaid]
      exact and_iff_left ⟨settledCharge, settledMember, rfl⟩

/-- The message is read as a transaction that no recorded message has. -/
structure Sms.Fresh (crates : Crates) (replies : List ProviderReply) (gw rawBody : String)
    (transaction : ParsedTxn) (db : Db) : Prop where
  read : ∃ gateway source, resolve gw = some gateway ∧
    parsed crates replies gateway rawBody = .ok (transaction, source)
  unseen : ∀ event ∈ db.smsEvents,
    ¬(event.gateway = transaction.gateway ∧ event.txnId = transaction.txnId)

/-- A payment of a pending charge's amount settles it when no other pending
charge has the amount, or when of those the charge alone declares the sender. -/
theorem settles_iff {crates : Crates} {replies : List ProviderReply} {uuids : IngestUuids}
    {gw rawBody : String} {transaction : ParsedTxn} {db after : Db} {charge : Charge}
    {outcome : Except IngestError Ingested} (member : charge ∈ db.charges)
    (pending : charge.status = .pending)
    (fresh : Sms.Fresh crates replies gw rawBody transaction db)
    (amount : transaction.amountMinor = charge.amountMinor) (new : uuids.New db)
    (runs : sqlite.Runs (Sms.ingest crates replies uuids gw rawBody).run db outcome after) :
    after.isPaid charge.id ↔ db.Alone charge ∨
      ∃ number, transaction.senderMsisdn = some number ∧ db.AloneDeclares charge number := by
  obtain ⟨gateway, source, resolved, parses⟩ := fresh.read
  rw [Sms.paid_iff_picked member pending resolved parses fresh.unseen new runs, amount]
  exact Db.pick_iff member pending transaction.senderMsisdn

/-! ## The payments there are -/

namespace Sms

/-- Some text in a message is read as this amount. -/
def Writable (amountMinor : Int64) : Prop :=
  ∃ amount, AmountText amount ∧ amountToMinor (String.ofList amount) = .ok amountMinor

theorem writable_of_small {charge : Charge} (small : charge.amountMinor.toInt < 2 ^ 51) :
    Writable charge.amountMinor := by
  have positive := charge.toInt_pos
  obtain ⟨minor, same⟩ := Int.eq_ofNat_of_zero_le positive.le
  rw [same] at positive small
  refine ⟨amountText minor, amountText_written minor, ?_⟩
  rw [amountToMinor_amountText (by omega) (by omega)]
  exact congrArg _ ((congrArg _ same.symm).trans (Int64.ofInt_toInt _))

theorem exists_new_txnId (db : Db) : ∃ sevens : List Char, (∀ char ∈ sevens, char = '7') ∧
    ∀ event ∈ db.smsEvents, event.txnId ≠ String.ofList ('7' :: sevens) := by
  obtain ⟨bound, most⟩ :=
    (db.smsEvents.rows.map fun event => event.txnId.length).toFinset.exists_le
  refine ⟨List.replicate bound '7', fun _ member => List.eq_of_mem_replicate member, ?_⟩
  intro event member same
  have short : event.txnId.length ≤ bound := most _ (by
    simpa using ⟨event, Table.mem_rows.mpr member, rfl⟩)
  rw [same, String.length_ofList, List.length_cons, List.length_replicate] at short
  omega

/-- bKash can report a payment of the amount from any mobile number. -/
theorem exists_fresh {crates : Crates} (ascii : crates.DigitsAscii) {amountMinor : Int64}
    (writable : Writable amountMinor) {number : String} (mobile : MsisdnText number.toList)
    (db : Db) : ∃ rawBody txnId, ∀ replies,
      Fresh crates replies "bkash" rawBody ⟨.bkash, txnId, amountMinor, some number⟩ db := by
  obtain ⟨amount, written, converted⟩ := writable
  obtain ⟨sevens, all, new⟩ := exists_new_txnId db
  have alphanumeric : ∀ char ∈ sevens, Pattern.alphanumeric char = true := by
    intro char member
    rw [all char member]
    rfl
  have started : Pattern.alphanumeric '7' = true := rfl
  have ends : ∀ char ∈ ([] : List Char).head?, Pattern.alphanumeric char = false := nofun
  have reads := parseSms_bkashMessage ascii written mobile started alphanumeric ends converted
  refine ⟨String.ofList (bkashMessage amount number.toList ('7' :: sevens) []),
    String.ofList ('7' :: sevens), fun replies => ⟨⟨.bkash, .regex, rfl, ?_⟩, ?_⟩⟩
  · rw [parsed, reads, String.ofList_toList]
  · exact fun event member same => new event member same.2

end Sms

/-- A pending charge is settled by some payment when it is alone of its amount, or
alone declares a mobile number. No payment of its amount settles it otherwise. -/
theorem settled_by_some_payment {crates : Crates} (ascii : crates.DigitsAscii) {db : Db}
    {charge : Charge} (member : charge ∈ db.charges) (pending : charge.status = .pending) :
    (charge.amountMinor.toInt < 2 ^ 51 → Sms.Writable charge.amountMinor) ∧
    (Sms.Writable charge.amountMinor →
      (db.Alone charge ∨ ∃ number, MsisdnText number.toList ∧ db.AloneDeclares charge number) →
      ∃ rawBody transaction, transaction.amountMinor = charge.amountMinor ∧
        ∀ replies, Sms.Fresh crates replies "bkash" rawBody transaction db ∧
          ∀ uuids outcome after, uuids.New db →
            sqlite.Runs (Sms.ingest crates replies uuids "bkash" rawBody).run db outcome after →
              after.isPaid charge.id) ∧
    ∀ replies gw rawBody transaction, Sms.Fresh crates replies gw rawBody transaction db →
      transaction.amountMinor = charge.amountMinor → ∀ uuids outcome after, uuids.New db →
        sqlite.Runs (Sms.ingest crates replies uuids gw rawBody).run db outcome after →
          (after.isPaid charge.id ↔ db.Alone charge ∨
            ∃ number, transaction.senderMsisdn = some number ∧ db.AloneDeclares charge number) := by
  refine ⟨Sms.writable_of_small, fun writable singled => ?_,
    fun _ _ _ _ fresh amount _ _ _ new runs => settles_iff member pending fresh amount new runs⟩
  obtain ⟨number, mobile, settles⟩ : ∃ number, MsisdnText number.toList ∧
      (db.Alone charge ∨ db.AloneDeclares charge number) := by
    rcases singled with alone | ⟨number, mobile, declared⟩
    · exact ⟨"01700000000", ⟨"700000000".toList, rfl, rfl, List.all_eq_true.mp rfl⟩, .inl alone⟩
    · exact ⟨number, mobile, .inr declared⟩
  obtain ⟨rawBody, txnId, fresh⟩ := Sms.exists_fresh ascii writable mobile db
  refine ⟨rawBody, ⟨.bkash, txnId, charge.amountMinor, some number⟩, rfl, fun replies =>
    ⟨fresh replies, fun _ _ _ new runs => ?_⟩⟩
  exact (settles_iff member pending (fresh replies) rfl new runs).mpr
    (settles.imp_right fun declared => ⟨number, rfl, declared⟩)

theorem settled_by_some_payment_sample :
    (sampleService.serve [secondPayment.request] twoCustomers).isPaid "chg_2" ∧
      ∃ rawBody, (sampleService.serve [.ingest secondPayment.uuids [] "bkash" rawBody]
        twoCustomers).isPaid "chg_2" := by
  obtain ⟨charge, member, same⟩ : ∃ charge ∈ twoCustomers.charges, charge.id = "chg_2" := by
    decide +kernel
  have facts : ∀ charge ∈ twoCustomers.charges, charge.id = "chg_2" →
      charge.status = .pending ∧ charge.amountMinor = 50000 ∧
        charge.customerMsisdn = some "01722222222" := by decide +kernel
  obtain ⟨pending, amount, number⟩ := facts charge member same
  have rivals : ∀ other ∈ twoCustomers.charges, other.id ≠ "chg_2" →
      other.customerMsisdn.map Sms.normalizeMsisdn ≠
        some (Sms.normalizeMsisdn "01722222222") := by decide +kernel
  have declared : twoCustomers.AloneDeclares charge "01722222222" := by
    refine ⟨⟨_, number, rfl⟩, fun other otherMember _ _ ⟨declared, given, reads⟩ => ?_⟩
    by_contra different
    refine rivals other otherMember (fun id => different ?_) (by rw [given, ← reads]; rfl)
    exact Db.eq_of_charge_id otherMember member (id.trans same.symm)
  have new : secondPayment.uuids.New twoCustomers :=
    ⟨by decide +kernel, by decide +kernel, by decide +kernel⟩
  have ascii : sampleCrates.DigitsAscii := fun _ _ => rfl
  obtain ⟨small, payment, every⟩ := settled_by_some_payment ascii member pending
  have mobile : MsisdnText "01722222222".toList :=
    ⟨"722222222".toList, rfl, rfl, List.all_eq_true.mp rfl⟩
  obtain ⟨rawBody, _, _, pays⟩ :=
    payment (small (by rw [amount]; decide)) (.inr ⟨_, mobile, declared⟩)
  have fresh : Sms.Fresh sampleCrates [] secondPayment.gw secondPayment.rawBody
      ⟨.bkash, "TRXB", 50000, some "01722222222"⟩ twoCustomers :=
    ⟨⟨.bkash, .regex, by decide +kernel, by decide +kernel⟩, by decide +kernel⟩
  have runs : ∀ request : Request, sqlite.Runs (request.program sampleService) twoCustomers _ _ :=
    fun request => sqlite.runs_run (request.program sampleService) (fun _ => sampleEnv) twoCustomers
  obtain ⟨_, named, _⟩ := runs_respond_iff.mp (runs secondPayment.request)
  obtain ⟨_, written, _⟩ :=
    runs_respond_iff.mp (runs (.ingest secondPayment.uuids [] "bkash" rawBody))
  have paid := (every _ _ _ _ fresh amount.symm _ _ _ new named).mpr (.inr ⟨_, rfl, declared⟩)
  have paidToo := (pays []).2 _ _ _ new written
  rw [same] at paid paidToo
  exact ⟨paid, rawBody, paidToo⟩

/-- A charge that no sender singles out is not paid by any message. -/
theorem Sms.unpaid_of_unpicked {crates : Crates} {replies : List ProviderReply}
    {uuids : IngestUuids} {gw rawBody : String} {db after : Db} {charge : Charge}
    {outcome : Except IngestError Ingested} (member : charge ∈ db.charges)
    (pending : charge.status = .pending)
    (unpicked : ∀ sender,
      pick sender (db.pendingByAmount charge.amountMinor) ≠ some charge.id)
    (runs : sqlite.Runs (ingest crates replies uuids gw rawBody).run db outcome after) :
    ¬after.isPaid charge.id := by
  have unpaid := Db.not_paid_of_pending member pending
  rcases pays_of_runs runs with idle | ⟨other, pays⟩
  · rwa [Db.isPaid_congr idle.charges]
  · obtain ⟨now, rows⟩ := pays.paid
    rw [Db.isPaid_congr rows, Db.isPaid_setChargePaid, or_iff_right unpaid]
    rintro ⟨same, _⟩
    obtain rfl := Db.eq_of_charge_id pays.member member same
    obtain ⟨sender, picked⟩ := pays.picked
    exact unpicked sender picked

/-- A link for a fixed amount that two buyers have opened. -/
def twoBuyers : Db :=
  sampleService.serve [.createLink ⟨"link", "abcdefghijklmnop"⟩ ⟨"T-shirt", some 50000, none, none⟩,
    twoOpens false, twoOpens true] Db.empty

theorem buyers_locked_out : (∃ calls, History sampleService Db.empty calls twoBuyers) ∧
    ∃ charge ∈ twoBuyers.charges, charge.status = .pending ∧
      ∀ crates replies uuids gw rawBody outcome after,
        sqlite.Runs (Sms.ingest crates replies uuids gw rawBody).run twoBuyers outcome after →
          ¬after.isPaid charge.id := by
  obtain ⟨calls, history, _⟩ :=
    (History.start : History sampleService Db.empty [] Db.empty).serve_all
      [.createLink ⟨"link", "abcdefghijklmnop"⟩ ⟨"T-shirt", some 50000, none, none⟩,
        twoOpens false, twoOpens true]
  obtain ⟨charge, member, pending, amount⟩ : ∃ charge ∈ twoBuyers.charges,
      charge.status = .pending ∧ charge.amountMinor = 50000 := by decide +kernel
  have crowd : twoBuyers.pendingByAmount 50000 = [("chg_1", none), ("chg_2", none)] := by
    decide +kernel
  refine ⟨⟨calls, history⟩, charge, member, pending, fun _ _ _ _ _ _ _ runs => ?_⟩
  refine Sms.unpaid_of_unpicked member pending (fun sender picked => ?_) runs
  rw [amount, crowd] at picked
  cases sender <;> simp [Sms.pick, Sms.declares] at picked

end SpritexPay
