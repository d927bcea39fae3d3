import SpritexPay.Relational.Total
import SpritexPay.Serving

/-! The books of a deployment that serves one request at a time. Charges,
recorded messages, ledger and queue are written by different statements; the
books are in order when they say the same of every charge and in total. -/

set_option autoImplicit false

namespace SpritexPay

open Relational Resumption

namespace Db

/-- What an account holds in some of the currencies, in minor units. -/
def held (db : Db) (account : String) (inCurrency : String → Bool) : Int :=
  total (fun entry => entry.account == account && inCurrency entry.currency)
    (·.amountMinor.toInt) db.ledgerEntries

def paidIn (db : Db) (inCurrency : String → Bool) : Int :=
  total (fun charge => charge.status == .paid && inCurrency charge.currency)
    (·.amountMinor.toInt) db.charges.rows

def settledTotal (db : Db) (gateway : Option String) : Int :=
  total (isSettled gateway) (·.amountMinor.toInt) db.smsEvents.rows

/-- A charge is accounted for so many times, in every table. -/
structure Accounts (db : Db) (charge : Charge) (times : Nat) : Prop where
  posted : db.postings charge.id = times
  recorded : db.settlements charge.id = times
  announced : db.notifications charge.id = if charge.callbackUrl.isSome then times else 0

structure Books (db : Db) : Prop where
  sound : db.Sound
  known : ∀ delivery ∈ db.webhookDeliveries, db.hasCharge delivery.chargeId = true
  accounts : ∀ charge ∈ db.charges,
    charge.status = .pending ∧ db.Accounts charge 0 ∨ charge.status = .paid ∧ db.Accounts charge 1
  received : ∀ inCurrency, db.held Charge.merchantReceivable inCurrency = db.paidIn inCurrency
  cleared : ∀ inCurrency, db.held Charge.customerClearing inCurrency = -db.paidIn inCurrency
  collected : db.settledTotal none = db.paidIn fun _ => true

theorem books_empty : Db.empty.Books where
  sound := sound_empty
  known := by simp [Db.empty]
  accounts := by simp [Db.empty]
  received := fun _ => rfl
  cleared := fun _ => rfl
  collected := rfl

variable {before after : Db}

/-! ## Steps that settle nothing -/

theorem Books.same (books : before.Books) (same : before.SameMoney after) : after.Books where
  sound :=
    books.sound.kept same.charges same.smsEvents same.ledgerTransactions same.ledgerEntries
  known := by simpa only [same.webhookDeliveries, hasCharge, same.charges] using books.known
  accounts := by
    intro charge member
    rw [same.charges] at member
    refine (books.accounts charge member).imp ?_ ?_
    all_goals
      rintro ⟨status, posted, recorded, announced⟩
      refine ⟨status, ?_, ?_, ?_⟩
      · simpa only [postings, same.ledgerTransactions] using posted
      · simpa only [settlements, same.smsEvents] using recorded
      · simpa only [notifications, same.webhookDeliveries] using announced
  received := by simpa only [held, paidIn, same.ledgerEntries, same.charges] using books.received
  cleared := by simpa only [held, paidIn, same.ledgerEntries, same.charges] using books.cleared
  collected := by
    simpa only [settledTotal, paidIn, same.smsEvents, same.charges] using books.collected

/-- Nothing is booked under an identifier that no charge has. -/
theorem Books.absent (books : before.Books) {chargeId : String}
    (absent : ∀ charge ∈ before.charges, charge.id ≠ chargeId) :
    before.postings chargeId = 0 ∧ before.settlements chargeId = 0 ∧
      before.notifications chargeId = 0 := by
  refine ⟨?_, ?_, ?_⟩
  · refine Table.count_eq_zero_iff.mpr fun txn member => ?_
    obtain ⟨charge, chargeMember, reference, _⟩ := books.sound.posted txn member
    simpa [reference] using absent charge chargeMember
  · refine Table.count_eq_zero_iff.mpr fun event member => ?_
    by_contra settles
    obtain ⟨reference, isMatched⟩ : event.chargeId = some chargeId ∧ event.matched = true := by
      simpa [Db.settles] using settles
    obtain ⟨charge, chargeMember, same, _⟩ := books.sound.matchedCharge event member isMatched
    exact absent charge chargeMember (Option.some.inj (same.symm.trans reference))
  · refine Table.count_eq_zero_iff.mpr fun delivery member => ?_
    obtain ⟨charge, chargeMember, same⟩ := hasCharge_iff.mp (books.known delivery member)
    simpa [← same] using fun id => absurd id (absent charge chargeMember)

theorem Steady.origin (steady : before.Steady after) {charge : Charge}
    (member : charge ∈ after.charges) : (∃ old ∈ before.charges, old.Keeps charge) ∨
      charge.status = .pending ∧ ∀ old ∈ before.charges, old.id ≠ charge.id := by
  rcases steady.charges.source member with kept | pending
  · exact .inl kept
  · by_cases known : ∃ old ∈ before.charges, old.id = charge.id
    · obtain ⟨old, oldMember, id⟩ := known
      obtain ⟨later, laterMember, kept⟩ := steady.charges.mem oldMember
      have same : later = charge := eq_of_charge_id laterMember member (by rw [kept.grown.id, id])
      exact .inl ⟨old, oldMember, same ▸ kept⟩
    · exact .inr ⟨pending, fun old oldMember id => known ⟨old, oldMember, id⟩⟩

theorem Steady.measures (steady : before.Steady after) (chargeId : String) :
    after.postings chargeId = before.postings chargeId ∧
      after.settlements chargeId = before.settlements chargeId ∧
      after.notifications chargeId = before.notifications chargeId := by
  refine ⟨by rw [postings, steady.ledgerTransactions, ← postings],
    by rw [settlements, steady.smsEvents, ← settlements], ?_⟩
  refine steady.webhookDeliveries.countP_eq ?_ fun _ never => never.elim
  intro old new grown
  rw [grown.chargeId, grown.event]

theorem Steady.paidIn (steady : before.Steady after) (inCurrency : String → Bool) :
    after.paidIn inCurrency = before.paidIn inCurrency := by
  refine steady.charges.total_eq ?_ ?_
  · intro old new kept
    rw [kept.status, kept.grown.currency, kept.grown.amountMinor]
    exact ⟨rfl, rfl⟩
  · intro charge pending
    simp [show charge.status = .pending from pending]

theorem Steady.sound (steady : before.Steady after) (sound : before.Sound) : after.Sound := by
  refine sound.quiet (fun charge member => ?_)
    ⟨steady.smsEvents, steady.ledgerTransactions, steady.ledgerEntries, ?_⟩
  · obtain ⟨later, laterMember, kept⟩ := steady.charges.mem member
    exact ⟨later, laterMember, kept.grown⟩
  · rintro chargeId ⟨charge, member, id, paid⟩
    rcases steady.origin member with ⟨old, oldMember, kept⟩ | ⟨pending, _⟩
    · exact ⟨old, oldMember, kept.grown.id.symm.trans id, kept.status.symm.trans paid⟩
    · rw [pending] at paid
      cases paid

theorem Books.steady (books : before.Books) (steady : before.Steady after) : after.Books where
  sound := steady.sound books.sound
  known := by
    intro delivery member
    rcases steady.webhookDeliveries.source member with ⟨old, oldMember, grown⟩ | never
    · obtain ⟨charge, chargeMember, id⟩ := hasCharge_iff.mp (books.known old oldMember)
      obtain ⟨later, laterMember, kept⟩ := steady.charges.mem chargeMember
      exact hasCharge_iff.mpr ⟨later, laterMember, by rw [kept.grown.id, id, grown.chargeId]⟩
    · exact never.elim
  accounts := by
    intro charge member
    obtain ⟨postings, settlements, notifications⟩ := steady.measures charge.id
    rcases steady.origin member with ⟨old, oldMember, kept⟩ | ⟨pending, absent⟩
    · rw [kept.grown.id] at postings settlements notifications
      refine (books.accounts old oldMember).imp ?_ ?_
      all_goals
        rintro ⟨status, posted, recorded, announced⟩
        refine ⟨kept.status.trans status, ?_, ?_, ?_⟩
        · rw [kept.grown.id, postings, posted]
        · rw [kept.grown.id, settlements, recorded]
        · rw [kept.grown.id, notifications, announced, kept.grown.callbackUrl]
    · obtain ⟨unposted, unrecorded, unannounced⟩ := books.absent absent
      refine .inl ⟨pending, postings.trans unposted, settlements.trans unrecorded, ?_⟩
      simp [notifications, unannounced]
  received := fun inCurrency => by
    rw [steady.paidIn, held, steady.ledgerEntries]
    exact books.received inCurrency
  cleared := fun inCurrency => by
    rw [steady.paidIn, held, steady.ledgerEntries]
    exact books.cleared inCurrency
  collected := by
    rw [steady.paidIn, settledTotal, steady.smsEvents]
    exact books.collected

theorem Books.records {columns : NewSmsEvent} (books : before.Books)
    (records : before.Records after columns) (unmatched : columns.matched = false) :
    after.Books := by
  have sound := books.sound.records records (by simp [unmatched])
  obtain ⟨now, smsEvents, aiParseLog, stored, rfl⟩ := records
  refine ⟨sound, books.known, fun charge member => ?_, books.received, books.cleared, ?_⟩
  · have counted : smsEvents.count (settles charge.id) = before.settlements charge.id := by
      simpa [settlements, settles, NewSmsEvent.row, unmatched] using
        Table.count_insert? (settles charge.id) stored
    refine (books.accounts charge member).imp ?_ ?_
    all_goals
      rintro ⟨status, posted, recorded, announced⟩
      exact ⟨status, posted, counted.trans recorded, announced⟩
  · refine Eq.trans ?_ books.collected
    rw [settledTotal, Table.rows_insert? stored, total_append, total_cons]
    simp [settledTotal, isSettled, NewSmsEvent.row, unmatched]

/-! ## A message that settles a charge -/

section Settled

variable {crates : Crates} {uuids : SettlementUuids} {columns : NewSmsEvent} {charge : Charge}

theorem Settled.postings (settled : before.Settled crates uuids columns charge after)
    (chargeId : String) : after.postings chargeId =
      before.postings chargeId + if charge.id = chargeId then 1 else 0 := by
  obtain ⟨now, posted, _⟩ := settled.posted
  simpa [Db.postings] using Table.count_insert? (·.reference == chargeId) posted

theorem Settled.settlements (settled : before.Settled crates uuids columns charge after)
    (reference : columns.chargeId = some charge.id) (isMatched : columns.matched = true)
    (chargeId : String) : after.settlements chargeId =
      before.settlements chargeId + if charge.id = chargeId then 1 else 0 := by
  obtain ⟨now, stored⟩ := settled.recorded
  simpa [Db.settlements, settles, NewSmsEvent.row, reference, isMatched] using
    Table.count_insert? (settles chargeId) stored

theorem Settled.notifications (settled : before.Settled crates uuids columns charge after)
    (chargeId : String) : after.notifications chargeId = before.notifications chargeId +
      if charge.id = chargeId ∧ charge.callbackUrl.isSome then 1 else 0 := by
  cases callback : charge.callbackUrl with
  | none => simp [Db.notifications, settled.silent callback]
  | some url =>
      obtain ⟨now, queued⟩ := settled.announced url callback
      simpa [Db.notifications, Charge.notification, NewWebhook.row] using Table.count_insert?
        (fun delivery => delivery.chargeId == chargeId && delivery.event == "charge.paid") queued

theorem Settled.mem_charges (settled : before.Settled crates uuids columns charge after)
    {row : Charge} (member : row ∈ after.charges) : ∃ old ∈ before.charges,
      row.id = old.id ∧ row.callbackUrl = old.callbackUrl ∧
        row.status = if old.id = charge.id then .paid else old.status := by
  obtain ⟨now, paid⟩ := settled.paid
  rw [paid] at member
  obtain ⟨old, oldMember, rfl⟩ := mem_setChargePaid.mp member
  refine ⟨old, oldMember, ?_⟩
  by_cases chosen : old.id = charge.id <;> simp [chosen]

theorem Settled.grows (settled : before.Settled crates uuids columns charge after) {old : Charge}
    (member : old ∈ before.charges) : ∃ later ∈ after.charges, old.Grows later := by
  obtain ⟨now, paid⟩ := settled.paid
  rw [paid]
  exact (evolves_apply ⟨now, .status 0⟩ (.setChargePaid charge.id) before).charges.mem member

theorem paidIn_setChargePaid (member : charge ∈ before.charges)
    (pending : charge.status = .pending) (now : Timestamp) (inCurrency : String → Bool) :
    (before.setChargePaid now charge.id).paidIn inCurrency = before.paidIn inCurrency +
      if inCurrency charge.currency then charge.amountMinor.toInt else 0 := by
  have only : ∀ other ∈ before.charges, (other.id == charge.id) = true → other = charge :=
    fun other otherMember same => eq_of_charge_id otherMember member (by simpa using same)
  refine (Table.total_update ?_ member (by simp) only (by simp [key, clash]) ?_).trans ?_
  · exact fun _ => rfl
  · simp [pending]
  · simp [Db.paidIn]

theorem Settled.paidIn (settled : before.Settled crates uuids columns charge after)
    (member : charge ∈ before.charges) (pending : charge.status = .pending)
    (inCurrency : String → Bool) : after.paidIn inCurrency = before.paidIn inCurrency +
      if inCurrency charge.currency then charge.amountMinor.toInt else 0 := by
  obtain ⟨now, paid⟩ := settled.paid
  rw [← paidIn_setChargePaid member pending now, Db.paidIn, paid]
  rfl

theorem Settled.held (settled : before.Settled crates uuids columns charge after)
    (account : String) (inCurrency : String → Bool) :
    after.held account inCurrency = before.held account inCurrency +
      total (fun entry => entry.account == account && inCurrency entry.currency)
        (·.amountMinor.toInt) (Charge.settlementEntries charge) := by
  obtain ⟨now, _, entries⟩ := settled.posted
  rw [Db.held, entries, total_append]
  simp [Db.held, Charge.settlementEntries, Entry.row]

theorem received_entries (charge : Charge) (inCurrency : String → Bool) :
    total (fun entry => entry.account == Charge.merchantReceivable && inCurrency entry.currency)
      (·.amountMinor.toInt) (Charge.settlementEntries charge) =
        if inCurrency charge.currency then charge.amountMinor.toInt else 0 := by
  simp [Charge.settlementEntries, Entry.debit, Entry.credit, Charge.merchantReceivable,
    Charge.customerClearing]

/-- A positive amount has an exact negative. -/
theorem cleared_entries (charge : Charge) (inCurrency : String → Bool) :
    total (fun entry => entry.account == Charge.customerClearing && inCurrency entry.currency)
      (·.amountMinor.toInt) (Charge.settlementEntries charge) =
        -if inCurrency charge.currency then charge.amountMinor.toInt else 0 := by
  have negated : (-charge.amountMinor).toInt = -charge.amountMinor.toInt := by
    have positive := charge.toInt_pos
    have bounded := charge.amountMinor.toInt_lt
    rw [Int64.toInt_neg, Int.bmod_eq_of_le] <;> omega
  simp [Charge.settlementEntries, Entry.debit, Entry.credit, Charge.merchantReceivable,
    Charge.customerClearing, negated]
  split <;> rfl

theorem Books.settle (books : before.Books) (sound : after.Sound)
    (settled : before.Settled crates uuids columns charge after) (member : charge ∈ before.charges)
    (pending : charge.status = .pending) (amount : charge.amountMinor = columns.amountMinor)
    (reference : columns.chargeId = some charge.id) (isMatched : columns.matched = true) :
    after.Books where
  sound := sound
  known := by
    intro delivery deliveryMember
    have kept : before.hasCharge delivery.chargeId = true := by
      cases callback : charge.callbackUrl with
      | none =>
          rw [settled.silent callback] at deliveryMember
          exact books.known delivery deliveryMember
      | some url =>
          obtain ⟨now, queued⟩ := settled.announced url callback
          rcases (Table.mem_insert? queued).mp deliveryMember with old | rfl
          · exact books.known delivery old
          · exact hasCharge_iff.mpr ⟨charge, member, rfl⟩
    obtain ⟨old, oldMember, id⟩ := hasCharge_iff.mp kept
    obtain ⟨later, laterMember, grown⟩ := settled.grows oldMember
    exact hasCharge_iff.mpr ⟨later, laterMember, grown.id.trans id⟩
  accounts := by
    intro row rowMember
    obtain ⟨old, oldMember, id, callbackUrl, status⟩ := settled.mem_charges rowMember
    have posted := settled.postings row.id
    have recorded := settled.settlements reference isMatched row.id
    have announced := settled.notifications row.id
    rw [id] at posted recorded announced
    by_cases same : old.id = charge.id
    · have accounts : before.Accounts charge 0 := by
        rcases books.accounts charge member with ⟨_, accounts⟩ | ⟨paid, _⟩
        · exact accounts
        · rw [pending] at paid
          cases paid
      rw [eq_of_charge_id oldMember member same] at id callbackUrl posted recorded announced
      refine .inr ⟨by rw [status, if_pos same], ?_, ?_, ?_⟩
      · rw [id, posted, accounts.posted, if_pos rfl]
      · rw [id, recorded, accounts.recorded, if_pos rfl]
      · rw [id, announced, accounts.announced, callbackUrl]
        cases charge.callbackUrl <;> simp
    · have other : ¬charge.id = old.id := fun equal => same equal.symm
      rw [if_neg other, Nat.add_zero] at posted recorded
      rw [if_neg fun both => other both.1, Nat.add_zero] at announced
      rw [if_neg same] at status
      refine (books.accounts old oldMember).imp ?_ ?_
      all_goals
        rintro ⟨before, accounts⟩
        refine ⟨status.trans before, ?_, ?_, ?_⟩
        · rw [id, posted, accounts.posted]
        · rw [id, recorded, accounts.recorded]
        · rw [id, announced, accounts.announced, callbackUrl]
  received := by
    intro inCurrency
    rw [settled.held, settled.paidIn member pending, books.received, received_entries]
  cleared := by
    intro inCurrency
    rw [settled.held, settled.paidIn member pending, books.cleared, cleared_entries]
    split <;> omega
  collected := by
    obtain ⟨now, stored⟩ := settled.recorded
    rw [settled.paidIn member pending, settledTotal, Table.rows_insert? stored, total_append,
      ← settledTotal, books.collected]
    simp [isSettled, NewSmsEvent.row, isMatched, amount]

end Settled

end Db

end SpritexPay
