import SpritexPay.BooksProperties
import SpritexPay.InterferenceProperties
import SpritexPay.ReissueProperties

/-! What `verify` answers a merchant. The status and the transaction id come from
the message that settled the charge. The gateway and the sender come from the
columns customers write, which hold what was last accepted from the customer. -/

set_option autoImplicit false

namespace SpritexPay

open Relational Resumption

/-! ## What customers have typed in -/

structure Charge.KeepsTyped (old new : Charge) : Prop where
  payRef : new.payRef = old.payRef
  gateway : new.gateway = old.gateway
  claimedSender : new.claimedSender = old.claimedSender

def Charge.Untyped (charge : Charge) : Prop :=
  charge.gateway = none ∧ charge.claimedSender = none

theorem Charge.KeepsTyped.refl (charge : Charge) : charge.KeepsTyped charge := ⟨rfl, rfl, rfl⟩

theorem Charge.KeepsTyped.trans {first second third : Charge} (before : first.KeepsTyped second)
    (after : second.KeepsTyped third) : first.KeepsTyped third where
  payRef := after.payRef.trans before.payRef
  gateway := after.gateway.trans before.gateway
  claimedSender := after.claimedSender.trans before.claimedSender

theorem Charge.KeepsTyped.untyped (old new : Charge) (kept : old.KeepsTyped new)
    (untyped : old.Untyped) : new.Untyped :=
  ⟨kept.gateway.trans untyped.1, kept.claimedSender.trans untyped.2⟩

def Db.KeepsTyped (before after : Db) : Prop :=
  Extends Charge.KeepsTyped Charge.Untyped before.charges.rows after.charges.rows

namespace Db

theorem KeepsTyped.refl (db : Db) : db.KeepsTyped db := Extends.refl Charge.KeepsTyped.refl _

theorem KeepsTyped.trans {first second third : Db} (before : first.KeepsTyped second)
    (after : second.KeepsTyped third) : first.KeepsTyped third :=
  Extends.trans Charge.KeepsTyped.trans Charge.KeepsTyped.untyped before after

theorem KeepsTyped.ofCharges {db : Db} {charges : Table Charge}
    (kept : Extends Charge.KeepsTyped Charge.Untyped db.charges.rows charges.rows) :
    db.KeepsTyped { db with charges } := kept

end Db

theorem keepsTyped_apply {op : Statement} (other : op.impartial) (env : Env) (before : Db) :
    before.KeepsTyped (sqlite.apply env op before).2 := by
  rcases reply_cases (.commit env : sqlite.Replies false op before _ _) with
    ⟨_, _, executed, _⟩ | ⟨_, _, same⟩
  swap
  · rw [same]
    exact .refl before
  generalize (sqlite.apply env op before).2 = after at executed ⊢
  cases op with
  | setChargeGateway | setChargeClaim => cases other
  | insertCharge columns =>
      obtain ⟨_, charges, stored, rfl⟩ := Db.insertCharge_ok (Statement.stored_ok executed)
      exact .ofCharges (Table.extends_insert? Charge.KeepsTyped.refl ⟨rfl, rfl⟩ stored)
  | setChargePaid id =>
      cases executed
      exact .ofCharges (Table.extends_update Charge.KeepsTyped.refl fun _ => ⟨rfl, rfl, rfl⟩)
  | ledgerTransaction writes =>
      obtain ⟨_, _, rfl⟩ := Statement.exec_differsAt executed
      exact .refl before
  | insertSmsEvent | insertAiParse | insertWebhook | webhookDelivered | webhookFailed
  | webhookRetry | insertInvoice | insertInvoiceItem | linkInvoice | settleInvoices
  | insertPaymentLink | takeLinkUse | insertDomain | deleteDomain =>
      obtain ⟨_, rfl⟩ := Statement.exec_differsAt executed
      exact .refl before
  | _ =>
      rw [Statement.exec_reads rfl executed]
      exact .refl before

theorem keepsTyped_served {service : Service} {request : Request} {before after : Db}
    {response : Response} (other : request.ofCustomer = false)
    (served : sqlite.Runs (request.program service) before response after) :
    before.KeepsTyped after :=
  (served.relates ((request.paces_program service other).uses fun _ _ => rfl)
    Db.KeepsTyped.refl Db.KeepsTyped.trans fun env _ db impartial =>
      keepsTyped_apply impartial env db).2

/-! ## Calls of customers -/

/-- The gateway an accepted call has chosen for a checkout. -/
def Call.selects (payRef : String) : Call → Option String
  | ⟨.selectGateway ref gateway, .accepted (.ok _)⟩ => if ref = payRef then some gateway else none
  | _ => none

/-- The sender an accepted call has claimed for a checkout. -/
def Call.claims (payRef : String) : Call → Option (Option String)
  | ⟨.submitManual ref _ sender, .accepted (.ok _)⟩ => if ref = payRef then some sender else none
  | _ => none

def lastSelected (calls : List Call) (payRef : String) : Option String :=
  (calls.filterMap (Call.selects payRef)).head?

def lastClaimed (calls : List Call) (payRef : String) : Option String :=
  (calls.filterMap (Call.claims payRef)).head?.join

theorem Call.silent_of_other {request : Request} {response : Response}
    (other : request.ofCustomer = false) (payRef : String) :
    Call.selects payRef ⟨request, response⟩ = none ∧
      Call.claims payRef ⟨request, response⟩ = none := by
  cases request with
  | selectGateway | submitManual => cases other
  | _ => exact ⟨rfl, rfl⟩

namespace Db

/-- The columns customers write hold what was last accepted for the checkout. -/
structure Typed (db : Db) (calls : List Call) : Prop where
  referenced : ∀ charge ∈ db.charges, charge.Referenced
  gateway : ∀ charge ∈ db.charges, ∀ payRef, charge.payRef = some payRef →
    charge.gateway = lastSelected calls payRef
  claimedSender : ∀ charge ∈ db.charges, ∀ payRef, charge.payRef = some payRef →
    charge.claimedSender = lastClaimed calls payRef
  unknown : ∀ payRef, (∀ charge ∈ db.charges, charge.payRef ≠ some payRef) →
    lastSelected calls payRef = none ∧ lastClaimed calls payRef = none

variable {before after : Db} {calls : List Call}

theorem typed_empty : Db.empty.Typed [] := by
  constructor
  · simp [Db.empty]
  · simp [Db.empty]
  · simp [Db.empty]
  · exact fun _ _ => ⟨rfl, rfl⟩

theorem eq_of_payRef {db : Db} (referenced : ∀ charge ∈ db.charges, charge.Referenced)
    {left right : Charge} (leftMember : left ∈ db.charges) (rightMember : right ∈ db.charges)
    {payRef : String} (leftRef : left.payRef = some payRef)
    (rightRef : right.payRef = some payRef) : left = right := by
  have sameOrder : left.orderId = right.orderId := by
    rw [referenced left leftMember payRef leftRef, referenced right rightMember payRef rightRef]
  exact Table.eq_of_clash leftMember rightMember (by simp [key, clash, sameOrder])

theorem Typed.other {request : Request} {response : Response} (typed : before.Typed calls)
    (other : request.ofCustomer = false) (kept : before.KeepsTyped after)
    (referenced : ∀ charge ∈ after.charges, charge.Referenced) :
    after.Typed (⟨request, response⟩ :: calls) := by
  have selected : ∀ payRef,
      lastSelected (⟨request, response⟩ :: calls) payRef = lastSelected calls payRef := by
    intro payRef
    rw [lastSelected, List.filterMap_cons_none (Call.silent_of_other other payRef).1, lastSelected]
  have claimed : ∀ payRef,
      lastClaimed (⟨request, response⟩ :: calls) payRef = lastClaimed calls payRef := by
    intro payRef
    rw [lastClaimed, List.filterMap_cons_none (Call.silent_of_other other payRef).2, lastClaimed]
  have origin : ∀ charge ∈ after.charges, ∀ payRef, charge.payRef = some payRef →
      charge.gateway = lastSelected calls payRef ∧
        charge.claimedSender = lastClaimed calls payRef := by
    intro charge member payRef carries
    by_cases known : ∃ old ∈ before.charges, old.payRef = some payRef
    · obtain ⟨old, oldMember, oldRef⟩ := known
      obtain ⟨later, laterMember, same⟩ := kept.mem oldMember
      obtain rfl := eq_of_payRef referenced laterMember member (same.payRef.trans oldRef) carries
      exact ⟨same.gateway.trans (typed.gateway old oldMember payRef oldRef),
        same.claimedSender.trans (typed.claimedSender old oldMember payRef oldRef)⟩
    · have unknown := typed.unknown payRef fun old oldMember oldRef =>
        known ⟨old, oldMember, oldRef⟩
      rcases kept.source member with ⟨old, oldMember, same⟩ | untyped
      · exact absurd ⟨old, oldMember, same.payRef.symm.trans carries⟩ known
      · exact ⟨untyped.1.trans unknown.1.symm, untyped.2.trans unknown.2.symm⟩
  constructor
  · exact referenced
  · intro charge member payRef carries
    rw [selected]
    exact (origin charge member payRef carries).1
  · intro charge member payRef carries
    rw [claimed]
    exact (origin charge member payRef carries).2
  · intro payRef unknown
    rw [selected, claimed]
    refine typed.unknown payRef fun old oldMember oldRef => ?_
    obtain ⟨later, laterMember, same⟩ := kept.mem oldMember
    exact unknown later laterMember (same.payRef.trans oldRef)

theorem Typed.refused {request : Request} {error : CheckoutError} (typed : before.Typed calls)
    (same : ∀ charge, charge ∈ after.charges ↔ charge ∈ before.charges) :
    after.Typed (⟨request, .accepted (.error error)⟩ :: calls) := by
  have selected : ∀ payRef, Call.selects payRef ⟨request, .accepted (.error error)⟩ = none := by
    intro payRef
    cases request <;> rfl
  have claimed : ∀ payRef, Call.claims payRef ⟨request, .accepted (.error error)⟩ = none := by
    intro payRef
    cases request <;> rfl
  constructor
  · simpa only [same] using typed.referenced
  · simpa only [same, lastSelected, List.filterMap_cons_none (selected _)] using typed.gateway
  · simpa only [same, lastClaimed, List.filterMap_cons_none (claimed _)] using typed.claimedSender
  · simpa only [same, lastSelected, lastClaimed, List.filterMap_cons_none (selected _),
      List.filterMap_cons_none (claimed _)] using typed.unknown

section Accepted

variable {payRef : String}

theorem isOpenCheckout_iff {charge : Charge} :
    isOpenCheckout payRef charge = true ↔
      charge.payRef = some payRef ∧ charge.status = .pending := by
  simp [isOpenCheckout]

/-- The open checkout is the only charge with its reference. -/
theorem Typed.chosen_iff (typed : before.Typed calls) {opened charge : Charge}
    (openedMember : opened ∈ before.charges) (isOpen : isOpenCheckout payRef opened = true)
    (member : charge ∈ before.charges) :
    isOpenCheckout payRef charge = true ↔ charge.payRef = some payRef := by
  constructor
  · exact fun chosen => (isOpenCheckout_iff.mp chosen).1
  · intro carries
    rwa [eq_of_payRef typed.referenced member openedMember carries
      (isOpenCheckout_iff.mp isOpen).1]

/-- An accepted call rewrites the columns of the open checkout, and no other row. -/
theorem Typed.rewrite {call : Call} {set : Charge → Charge} (typed : before.Typed calls)
    (setGateway setSender : Option String → Option String) {opened : Charge}
    (openedMember : opened ∈ before.charges)
    (isOpen : isOpenCheckout payRef opened = true)
    (rows : ∀ charge, charge ∈ after.charges ↔ ∃ old ∈ before.charges,
      (if isOpenCheckout payRef old then set old else old) = charge)
    (terms : ∀ charge, (set charge).payRef = charge.payRef ∧ (set charge).orderId = charge.orderId)
    (gateways : ∀ charge, (set charge).gateway = setGateway charge.gateway)
    (senders : ∀ charge, (set charge).claimedSender = setSender charge.claimedSender)
    (selected : ∀ ref, lastSelected (call :: calls) ref =
      if payRef = ref then setGateway (lastSelected calls ref) else lastSelected calls ref)
    (claimed : ∀ ref, lastClaimed (call :: calls) ref =
      if payRef = ref then setSender (lastClaimed calls ref) else lastClaimed calls ref) :
    after.Typed (call :: calls) := by
  have origin : ∀ charge ∈ after.charges, ∃ old ∈ before.charges,
      charge.payRef = old.payRef ∧ charge.orderId = old.orderId ∧
        ∀ ref, old.payRef = some ref →
          charge.gateway = (if payRef = ref then setGateway old.gateway else old.gateway) ∧
          charge.claimedSender =
            if payRef = ref then setSender old.claimedSender else old.claimedSender := by
    intro charge member
    obtain ⟨old, oldMember, rfl⟩ := (rows charge).mp member
    have chosen := typed.chosen_iff openedMember isOpen oldMember
    refine ⟨old, oldMember, ?_⟩
    by_cases carries : old.payRef = some payRef
    · rw [if_pos (chosen.mpr carries)]
      refine ⟨(terms old).1, (terms old).2, fun ref named => ?_⟩
      have same : payRef = ref := Option.some.inj (carries.symm.trans named)
      rw [if_pos same, if_pos same]
      exact ⟨gateways old, senders old⟩
    · rw [if_neg (mt chosen.mp carries)]
      refine ⟨rfl, rfl, fun ref named => ?_⟩
      have other : payRef ≠ ref := fun same => carries (same ▸ named)
      rw [if_neg other, if_neg other]
      exact ⟨rfl, rfl⟩
  constructor
  · intro charge member ref carries
    obtain ⟨old, oldMember, sameRef, sameOrder, _⟩ := origin charge member
    rw [sameOrder]
    exact typed.referenced old oldMember ref (sameRef ▸ carries)
  · intro charge member ref carries
    obtain ⟨old, oldMember, sameRef, _, columns⟩ := origin charge member
    have oldRef : old.payRef = some ref := sameRef ▸ carries
    rw [(columns ref oldRef).1, selected, typed.gateway old oldMember ref oldRef]
  · intro charge member ref carries
    obtain ⟨old, oldMember, sameRef, _, columns⟩ := origin charge member
    have oldRef : old.payRef = some ref := sameRef ▸ carries
    rw [(columns ref oldRef).2, claimed, typed.claimedSender old oldMember ref oldRef]
  · intro ref unknown
    have absent : ∀ charge ∈ before.charges, charge.payRef ≠ some ref := by
      intro old oldMember oldRef
      refine unknown _ ((rows _).mpr ⟨old, oldMember, rfl⟩) ?_
      split
      · exact (terms old).1.trans oldRef
      · exact oldRef
    have other : payRef ≠ ref := by
      rintro rfl
      exact absent opened openedMember (isOpenCheckout_iff.mp isOpen).1
    rw [selected, claimed, if_neg other, if_neg other]
    exact typed.unknown ref absent

theorem mem_setChargeGateway {gateway : String} {charge : Charge} :
    charge ∈ (before.setChargeGateway payRef gateway).charges ↔ ∃ old ∈ before.charges,
      (if isOpenCheckout payRef old then { old with gateway := some gateway } else old) =
        charge := by
  refine Table.mem_update ?_
  exact fun _ => rfl

theorem mem_setChargeClaim {trxId : String} {sender : Option String} {charge : Charge} :
    charge ∈ (before.setChargeClaim payRef trxId sender).charges ↔ ∃ old ∈ before.charges,
      (if isOpenCheckout payRef old then
        { old with claimedTrxId := some trxId, claimedSender := sender } else old) = charge := by
  refine Table.mem_update ?_
  exact fun _ => rfl

theorem Typed.select {gateway : String} (typed : before.Typed calls) {opened : Charge}
    (openedMember : opened ∈ before.charges) (isOpen : isOpenCheckout payRef opened = true) :
    (before.setChargeGateway payRef gateway).Typed
      (⟨.selectGateway payRef gateway, .accepted (.ok ())⟩ :: calls) := by
  refine typed.rewrite (fun _ => some gateway) id openedMember isOpen
    (fun _ => mem_setChargeGateway) (fun _ => ⟨rfl, rfl⟩) (fun _ => rfl) (fun _ => rfl) ?_ ?_
  · intro ref
    by_cases same : payRef = ref <;> simp [lastSelected, Call.selects, same]
  · intro ref
    rw [id, ite_self]
    rfl

theorem Typed.claim {trxId : String} {sender : Option String} (typed : before.Typed calls)
    {opened : Charge} (openedMember : opened ∈ before.charges)
    (isOpen : isOpenCheckout payRef opened = true) :
    (before.setChargeClaim payRef trxId sender).Typed
      (⟨.submitManual payRef trxId sender, .accepted (.ok ())⟩ :: calls) := by
  refine typed.rewrite id (fun _ => sender) openedMember isOpen
    (fun _ => mem_setChargeClaim) (fun _ => ⟨rfl, rfl⟩) (fun _ => rfl) (fun _ => rfl) ?_ ?_
  · intro ref
    rw [id, ite_self]
    rfl
  · intro ref
    by_cases same : payRef = ref <;> simp [lastClaimed, Call.claims, same]

end Accepted

end Db

namespace Checkout

variable {before after : Db} {payRef : String} {outcome : Except CheckoutError Unit}

/-- An update by public reference reports a missing checkout when it met no open row. -/
def typingOutcome (db : Db) (payRef : String) : Except CheckoutError Unit :=
  if db.charges.count (Db.isOpenCheckout payRef) = 0 then .error .notFound else .ok ()

theorem runs_typing {count : Nat}
    (runs : sqlite.Runs (if count = 0 then throw .notFound else return () :
      Query CheckoutError Unit).run before outcome after) :
    outcome = (if count = 0 then .error .notFound else .ok ()) ∧ after = before := by
  split at runs
  · rename_i none
    rw [if_pos none]
    exact Machine.runs_done_iff.mp runs
  · rename_i some
    rw [if_neg some]
    exact Machine.runs_done_iff.mp runs

theorem runs_selectGateway {gateway : String}
    (runs : sqlite.Runs (selectGateway payRef gateway).run before outcome after) :
    outcome = typingOutcome before payRef ∧ after = before.setChargeGateway payRef gateway :=
  runs_typing (runs_query_bind (fun _ => rfl) runs)

theorem runs_submitManual {trxId : String} {sender : Option String}
    (runs : sqlite.Runs (submitManual payRef trxId sender).run before outcome after) :
    outcome = typingOutcome before payRef ∧ after = before.setChargeClaim payRef trxId sender :=
  runs_typing (runs_query_bind (fun _ => rfl) runs)

end Checkout

namespace Db

variable {before after : Db} {calls : List Call} {payRef : String}

/-- A call that found no open checkout wrote nothing. -/
theorem Typed.typing {request : Request} {set : Charge → Charge} (typed : before.Typed calls)
    (rows : ∀ charge, charge ∈ after.charges ↔ ∃ old ∈ before.charges,
      (if isOpenCheckout payRef old then set old else old) = charge)
    (accepted : ∀ opened ∈ before.charges, isOpenCheckout payRef opened = true →
      after.Typed (⟨request, .accepted (.ok ())⟩ :: calls)) :
    after.Typed (⟨request, .accepted (Checkout.typingOutcome before payRef)⟩ :: calls) := by
  unfold Checkout.typingOutcome
  split
  · rename_i none
    have closed := Table.count_eq_zero_iff.mp none
    refine typed.refused fun charge => (rows charge).trans ?_
    constructor
    · rintro ⟨old, member, rfl⟩
      rwa [if_neg (by simp [closed old member])]
    · intro member
      exact ⟨charge, member, if_neg (by simp [closed charge member])⟩
  · rename_i some
    obtain ⟨opened, member, isOpen⟩ := Table.count_pos_iff.mp (Nat.pos_of_ne_zero some)
    exact accepted opened member isOpen

end Db

/-! ## The answer -/

namespace Checkout

variable {crates : Crates} {db after : Db} {payRef : String}
  {outcome : Except CheckoutError VerifyResult}

/-- The columns of the answer that tell of the payment. -/
structure Reports (db : Db) (charge : Charge) (result : VerifyResult) : Prop where
  status : result.status = publicStatus charge.status
  transactionId : result.transactionId =
    (((db.smsEvents.rows.filter (Db.settles charge.id)).argmax (·.receivedAt)).map (·.txnId)).or
      charge.claimedTrxId
  gateway : result.gateway = charge.gateway
  sender : result.sender = charge.claimedSender

theorem runs_verify (referenced : ∀ charge ∈ db.charges, charge.Referenced) {charge : Charge}
    (member : charge ∈ db.charges) (carries : charge.payRef = some payRef)
    (runs : sqlite.Runs (verify crates payRef).run db outcome after) :
    ∃ result, outcome = .ok result ∧ Reports db charge result := by
  have found : db.charges.find? (·.payRef == some payRef) = some charge :=
    Table.find?_eq_some_of_mem member (by simp [carries]) fun other otherMember same => by
      rw [Db.eq_of_payRef referenced otherMember member (by simpa using same) carries]
      simp [key, clash]
  have reads : ∀ env, sqlite.exec env (.chargeByPayRef payRef) db = .ok (some charge, db) := by
    intro env
    rw [← found]
    rfl
  have answered := runs_query_bind (fun _ => rfl) (runs_query_bind reads runs)
  obtain ⟨rfl, rfl⟩ := Machine.runs_done_iff.mp answered
  exact ⟨_, rfl, rfl, rfl, rfl, rfl⟩

/-- The answer tells of the payment as the message that settled the charge does. -/
structure Verified (db : Db) (charge : Charge) (result : VerifyResult) : Prop where
  status : result.status = "completed" ↔
    ∃ event ∈ db.smsEvents, Db.settles charge.id event = true
  payment : ∀ event ∈ db.smsEvents, Db.settles charge.id event = true →
    result.transactionId = some event.txnId ∧ result.sender = event.senderMsisdn ∧
      result.gateway = some event.gateway.id

end Checkout

section Runs

variable {service : Service} {calls : List Call} {db : Db}

theorem typed_of_history (history : History service Db.empty calls db) : db.Typed calls := by
  induction history with
  | start => exact Db.typed_empty
  | @serve past before after request response earlier served ih =>
      have referenced := referenced_served served ih.referenced
      cases customer : request.ofCustomer with
      | false => exact ih.other customer (keepsTyped_served customer served) referenced
      | true =>
          cases request with
          | selectGateway payRef gateway =>
              obtain ⟨outcome, runs, rfl⟩ := runs_respond_iff.mp served
              obtain ⟨rfl, rfl⟩ := Checkout.runs_selectGateway runs
              exact ih.typing (fun _ => Db.mem_setChargeGateway) fun opened member isOpen =>
                ih.select member isOpen
          | submitManual payRef trxId sender =>
              obtain ⟨outcome, runs, rfl⟩ := runs_respond_iff.mp served
              obtain ⟨rfl, rfl⟩ := Checkout.runs_submitManual runs
              exact ih.typing (fun _ => Db.mem_setChargeClaim) fun opened member isOpen =>
                ih.claim member isOpen
          | _ => cases customer

end Runs

namespace Db

variable {db : Db} {charge : Charge} {event : SmsEvent}

theorem Books.paid_iff (books : db.Books) (member : charge ∈ db.charges) :
    charge.status = .paid ↔ ∃ event ∈ db.smsEvents, settles charge.id event = true := by
  rw [← Table.count_pos_iff]
  rcases books.accounts charge member with ⟨pending, accounts⟩ | ⟨paid, accounts⟩
  · have none : db.smsEvents.count (settles charge.id) = 0 := accounts.recorded
    simp [pending, none]
  · have one : db.smsEvents.count (settles charge.id) = 1 := accounts.recorded
    simp [paid, one]

/-- Only one message settles a charge. -/
theorem Books.settling_eq (books : db.Books) (member : charge ∈ db.charges)
    (recorded : event ∈ db.smsEvents) (settled : settles charge.id event = true) :
    db.smsEvents.rows.filter (settles charge.id) = [event] := by
  have paid := (books.paid_iff member).mpr ⟨event, recorded, settled⟩
  rcases books.accounts charge member with ⟨pending, _⟩ | ⟨_, accounts⟩
  · rw [pending] at paid
    cases paid
  · have one : (db.smsEvents.rows.filter (settles charge.id)).length = 1 :=
      List.countP_eq_length_filter.symm.trans accounts.recorded
    obtain ⟨only, same⟩ := List.length_eq_one_iff.mp one
    have listed : event ∈ db.smsEvents.rows.filter (settles charge.id) :=
      List.mem_filter.mpr ⟨recorded, settled⟩
    rw [same, List.mem_singleton] at listed
    rw [same, listed]

end Db

theorem Checkout.publicStatus_completed {status : ChargeStatus} :
    publicStatus status = "completed" ↔ status = .paid := by
  cases status <;> decide

/-- A merchant is told of the payment as the settling message says, exactly when
what the customer last typed in for the checkout is what that message says. -/
theorem verify_reports_payment {service : Service} {calls : List Call} {db after : Db}
    (history : History service Db.empty calls db) (fresh : FreshIds calls) {charge : Charge}
    (member : charge ∈ db.charges) {payRef : String} (carries : charge.payRef = some payRef)
    {outcome : Except CheckoutError VerifyResult}
    (runs : sqlite.Runs (Checkout.verify service.crates payRef).run db outcome after) :
    (∃ result, outcome = .ok result ∧ Checkout.Verified db charge result) ↔
      ∀ event ∈ db.smsEvents, Db.settles charge.id event = true →
        lastSelected calls payRef = some event.gateway.id ∧
          lastClaimed calls payRef = event.senderMsisdn := by
  have typed := typed_of_history history
  obtain ⟨books, _⟩ := books_of_history history fresh
  obtain ⟨result, rfl, reports⟩ := Checkout.runs_verify typed.referenced member carries runs
  have gateway : result.gateway = lastSelected calls payRef :=
    reports.gateway.trans (typed.gateway charge member payRef carries)
  have sender : result.sender = lastClaimed calls payRef :=
    reports.sender.trans (typed.claimedSender charge member payRef carries)
  constructor
  · rintro ⟨_, ⟨⟩, verified⟩ event recorded settled
    obtain ⟨_, sameSender, sameGateway⟩ := verified.payment event recorded settled
    exact ⟨gateway.symm.trans sameGateway, sender.symm.trans sameSender⟩
  · intro meets
    refine ⟨result, rfl, ?_, ?_⟩
    · rw [reports.status, Checkout.publicStatus_completed, books.paid_iff member]
    · intro event recorded settled
      obtain ⟨selected, claimed⟩ := meets event recorded settled
      refine ⟨?_, sender.trans claimed, gateway.trans selected⟩
      rw [reports.transactionId, books.settling_eq member recorded settled]
      rfl

/-- A customer who selects the gateway and claims the sender of a payment. -/
def typedRun (gateway sender : String) : List Request :=
  [sampleCheckout, .selectGateway "pay_1" gateway, .submitManual "pay_1" "TRXFAKE" (some sender),
    samplePayment "a" "TRXA"]

def typedDb (gateway sender : String) : Db :=
  sampleService.serve (typedRun gateway sender) Db.empty

/-- What `verify` answers of the checkout: its status, gateway and sender. -/
def answered (db : Db) : Option (String × Option String × Option String) :=
  (sqlite.run (Checkout.verify sampleCrates "pay_1").run (fun _ => sampleEnv) db).1.toOption.map
    fun result => (result.status, result.gateway, result.sender)

theorem verify_reports_payment_sample : ∃ charge ∈ (typedDb "bkash" "01999999999").charges,
    ∃ result, Checkout.Verified (typedDb "bkash" "01999999999") charge result := by
  have history := ((((History.start : History sampleService Db.empty [] Db.empty).next
    sampleCheckout).next (.selectGateway "pay_1" "bkash")).next
      (.submitManual "pay_1" "TRXFAKE" (some "01999999999"))).next (samplePayment "a" "TRXA")
  obtain ⟨charge, member, carries⟩ : ∃ charge ∈ (typedDb "bkash" "01999999999").charges,
      charge.payRef = some "pay_1" := by decide +kernel
  have verified := sqlite.runs_run (Checkout.verify sampleCrates "pay_1").run (fun _ => sampleEnv)
    (typedDb "bkash" "01999999999")
  have typed : ∀ event ∈ (typedDb "bkash" "01999999999").smsEvents,
      event.gateway = .bkash ∧ event.senderMsisdn = some "01999999999" := by decide +kernel
  obtain ⟨result, _, told⟩ := (verify_reports_payment history
    ⟨by decide +kernel, by decide +kernel⟩ member carries verified).mpr fun event recorded _ => by
      rw [(typed event recorded).1, (typed event recorded).2]
      decide +kernel
  exact ⟨charge, member, result, told⟩

theorem customer_claim_reported : ∃ calls,
    History sampleService Db.empty calls (typedDb "nagad" "01700000000") ∧
    answered (typedDb "nagad" "01700000000") =
      some ("completed", some "nagad", some "01700000000") ∧
    ∀ event ∈ (typedDb "nagad" "01700000000").smsEvents, Db.settles "chg_1" event = true ∧
      event.gateway = .bkash ∧ event.senderMsisdn = some "01999999999" := by
  obtain ⟨calls, history, _⟩ := (History.start :
    History sampleService Db.empty [] Db.empty).serve_all (typedRun "nagad" "01700000000")
  exact ⟨calls, history, by decide +kernel, by decide +kernel⟩

end SpritexPay
