import SpritexPay.Settlement

/-! What recording, posting and paying do to the invariant of the books. -/

set_option autoImplicit false

namespace SpritexPay

open Relational Resumption

def Entry.row (entry : Entry) (txnId : String) (now : Timestamp) : LedgerEntry :=
  ⟨txnId, entry.account, entry.amountMinor, entry.currency, now⟩

namespace Charge.Grows

variable {old new : Charge}

theorem settlementEntries (grown : old.Grows new) :
    Charge.settlementEntries new = Charge.settlementEntries old := by
  simp only [Charge.settlementEntries, grown.amountMinor, grown.currency]

end Charge.Grows

namespace Db

variable {db before after : Db} {now : Timestamp}

theorem Evolves.isPaid (evolved : before.Evolves after) {chargeId : String}
    (paid : before.isPaid chargeId) : after.isPaid chargeId := by
  obtain ⟨charge, member, rfl, status⟩ := paid
  obtain ⟨later, laterMember, grown⟩ := evolved.charges.mem member
  refine ⟨later, laterMember, grown.id, ?_⟩
  rcases grown.status with same | paid
  · rw [same, status]
  · exact paid

theorem hasCharge_iff {chargeId : String} :
    db.hasCharge chargeId = true ↔ ∃ charge ∈ db.charges, charge.id = chargeId := by
  simp only [hasCharge, List.any_eq_true, beq_iff_eq]
  rfl

theorem Evolves.hasCharge (evolved : before.Evolves after) {chargeId : String}
    (known : before.hasCharge chargeId = true) : after.hasCharge chargeId = true := by
  obtain ⟨charge, member, rfl⟩ := hasCharge_iff.mp known
  obtain ⟨later, laterMember, grown⟩ := evolved.charges.mem member
  exact hasCharge_iff.mpr ⟨later, laterMember, grown.id⟩

theorem Evolves.postings_le (evolved : before.Evolves after) (chargeId : String) :
    before.postings chargeId ≤ after.postings chargeId :=
  evolved.ledgerTransactions.sublist.countP_le

theorem Evolves.settlements_le (evolved : before.Evolves after) (chargeId : String) :
    before.settlements chargeId ≤ after.settlements chargeId :=
  evolved.smsEvents.sublist.countP_le

theorem eq_of_charge_id {left right : Charge} (leftMember : left ∈ db.charges)
    (rightMember : right ∈ db.charges) (same : left.id = right.id) : left = right :=
  Table.eq_of_clash leftMember rightMember (by simp [key, clash, same])

theorem find_charge {charge : Charge} (member : charge ∈ db.charges) :
    db.charges.find? (·.id == charge.id) = some charge := by
  refine Table.find?_eq_some_of_mem member (by simp) fun other _ same => ?_
  have sameId : other.id = charge.id := by simpa using same
  simp [key, clash, sameId]

theorem mem_pendingByAmount {amountMinor : Int64} {candidate : String × Option String} :
    candidate ∈ db.pendingByAmount amountMinor ↔ ∃ charge ∈ db.charges,
      charge.amountMinor = amountMinor ∧ charge.status = .pending ∧
        (charge.id, charge.customerMsisdn) = candidate := by
  simp only [pendingByAmount, List.mem_map, List.mem_filter, Bool.and_eq_true, beq_iff_eq,
    and_assoc]
  rfl

/-! ## Recording -/

section Record

variable {row : SmsEvent} {smsEvents : Table SmsEvent}

theorem settlements_record (stored : db.smsEvents.insert? row = some smsEvents)
    (chargeId : String) : Db.settlements { db with smsEvents } chargeId =
      db.settlements chargeId + if settles chargeId row then 1 else 0 :=
  Table.count_insert? _ stored

theorem recordings_record (stored : db.smsEvents.insert? row = some smsEvents)
    (gateway : Gateway) (txnId : String) : Db.recordings { db with smsEvents } gateway txnId =
      db.recordings gateway txnId +
        if row.gateway == gateway && row.txnId == txnId then 1 else 0 :=
  Table.count_insert? _ stored

/-- The unique index on gateway and transaction id. -/
theorem recordings_le_one (db : Db) (gateway : Gateway) (txnId : String) :
    db.recordings gateway txnId ≤ 1 := by
  refine Table.count_le_one fun left _ right _ leftKey rightKey => ?_
  simp only [Bool.and_eq_true, beq_iff_eq] at leftKey rightKey
  simp [key, clash, leftKey, rightKey]

/-- The constraints of `sms_events` admit the row. -/
def recordable (db : Db) (columns : NewSmsEvent) : Prop :=
  (∀ row ∈ db.smsEvents, row.id ≠ columns.id ∧
    ¬(row.gateway = columns.gateway ∧ row.txnId = columns.txnId)) ∧
  columns.chargeId.all db.hasCharge = true

theorem insertSmsEvent_recordable {columns : NewSmsEvent} (recordable : db.recordable columns)
    (now : Timestamp) : ∃ smsEvents, db.smsEvents.insert? (columns.row now) = some smsEvents ∧
      db.insertSmsEvent now columns = .ok { db with smsEvents } := by
  cases stored : db.smsEvents.insert? (columns.row now) with
  | none =>
      obtain ⟨row, member, same⟩ := Table.insert?_eq_none_iff.mp stored
      obtain ⟨otherId, otherKey⟩ := recordable.1 row member
      have clashes : row.id = columns.id ∨
          row.gateway = columns.gateway ∧ row.txnId = columns.txnId := by
        simpa [key, clash, NewSmsEvent.row] using same
      rcases clashes with sameId | sameKey
      · exact absurd sameId otherId
      · exact absurd sameKey otherKey
  | some smsEvents =>
      refine ⟨smsEvents, rfl, ?_⟩
      simp only [insertSmsEvent, stored, recordable.2, if_true]

theorem not_recordable_of_refused {columns : NewSmsEvent} {error : SqlError}
    (refused : db.insertSmsEvent now columns = .error error) : ¬db.recordable columns := by
  intro recordable
  obtain ⟨smsEvents, _, inserted⟩ := insertSmsEvent_recordable recordable now
  rw [inserted] at refused
  cases refused

theorem recordable_of_stored {columns : NewSmsEvent} {now : Timestamp} {smsEvents : Table SmsEvent}
    (stored : db.smsEvents.insert? (columns.row now) = some smsEvents)
    (known : columns.chargeId.all db.hasCharge = true) : db.recordable columns := by
  refine ⟨fun row member => ?_, known⟩
  have apart := (Table.insert?_eq_some_iff.mp stored).2 row member
  simpa [key, clash, NewSmsEvent.row] using apart

theorem Sound.record (sound : db.Sound) (stored : db.smsEvents.insert? row = some smsEvents)
    (backed : row.matched = true → ∃ charge ∈ db.charges, row.chargeId = some charge.id ∧
      row.amountMinor = charge.amountMinor) : Db.Sound { db with smsEvents } where
  matchedCharge := by
    intro event member isMatched
    rcases (Table.mem_insert? stored).mp member with old | rfl
    · exact sound.matchedCharge event old isMatched
    · exact backed isMatched
  posted := sound.posted
  entryTxn := sound.entryTxn
  paid := sound.paid

end Record

/-! ## Posting -/

def postingWrites (id reference memo : String) (entries : List Entry) : List LedgerWrite :=
  .insertTransaction id reference memo :: entries.map (.insertEntry id)

private theorem insertEntries {id : String} (entries : List Entry)
    (known : db.ledgerTransactions.rows.any (·.id == id) = true) :
    (entries.map (LedgerWrite.insertEntry id)).foldlM (ledgerWrite now) db =
      .ok { db with ledgerEntries := db.ledgerEntries ++ entries.map (·.row id now) } := by
  induction entries generalizing db with
  | nil => simp [pure, Except.pure]
  | cons entry entries ih =>
      rw [List.map_cons, List.foldlM_cons]
      simp only [ledgerWrite, known, if_true, bind, Except.bind]
      refine (ih ?_).trans ?_
      · exact known
      · simp [Entry.row]

theorem post_eq (db : Db) (now : Timestamp) (id reference memo : String) (entries : List Entry) :
    (postingWrites id reference memo entries).foldlM (ledgerWrite now) db =
      match db.ledgerTransactions.insert? ⟨id, reference, memo, now⟩ with
      | none => .error .uniqueViolation
      | some ledgerTransactions => .ok { db with
          ledgerTransactions
          ledgerEntries := db.ledgerEntries ++ entries.map (·.row id now) } := by
  rw [postingWrites, List.foldlM_cons]
  cases stored : db.ledgerTransactions.insert? ⟨id, reference, memo, now⟩ with
  | none => simp only [ledgerWrite, stored, bind, Except.bind]
  | some ledgerTransactions =>
      simp only [ledgerWrite, stored, bind, Except.bind]
      rw [insertEntries]
      simp [Table.rows_insert? stored]

section Post

variable {id memo : String} {charge : Charge} {ledgerTransactions : Table LedgerTransaction}

theorem postings_post (stored :
      db.ledgerTransactions.insert? ⟨id, charge.id, memo, now⟩ = some ledgerTransactions)
    (ledgerEntries : List LedgerEntry) (chargeId : String) :
    Db.postings { db with ledgerTransactions, ledgerEntries } chargeId =
      db.postings chargeId + if charge.id == chargeId then 1 else 0 :=
  Table.count_insert? _ stored

theorem entriesOf_append (entries : List Entry) (txnId : String)
    (ledgerTransactions : Table LedgerTransaction) :
    Db.entriesOf { db with
        ledgerTransactions, ledgerEntries := db.ledgerEntries ++ entries.map (·.row id now) }
        txnId =
      db.entriesOf txnId ++ if id = txnId then entries else [] := by
  simp only [entriesOf, List.filter_append, List.map_append, List.filter_map]
  congr 1
  split
  · rename_i same
    have all : entries.filter ((·.txnId == txnId) ∘ (·.row id now)) = entries :=
      List.filter_eq_self.mpr fun entry _ => by simp [Entry.row, same]
    rw [all, List.map_map]
    exact List.map_id entries
  · rename_i other
    have none : entries.filter ((·.txnId == txnId) ∘ (·.row id now)) = [] :=
      List.filter_eq_nil_iff.mpr fun entry _ => by simp [Entry.row, other]
    rw [none]
    rfl

theorem entriesOf_eq_nil (sound : db.Sound)
    (fresh : ∀ txn ∈ db.ledgerTransactions, txn.id ≠ id) : db.entriesOf id = [] := by
  rw [entriesOf, List.map_eq_nil_iff, List.filter_eq_nil_iff]
  intro entry member same
  obtain ⟨txn, txnMember, owner⟩ := sound.entryTxn entry member
  exact fresh txn txnMember (by rw [← owner]; simpa using same)

theorem Sound.post (sound : db.Sound) (member : charge ∈ db.charges) (stored :
      db.ledgerTransactions.insert? ⟨id, charge.id, memo, now⟩ = some ledgerTransactions) :
    Db.Sound { db with
      ledgerTransactions
      ledgerEntries :=
        db.ledgerEntries ++ (Charge.settlementEntries charge).map (·.row id now) } := by
  have fresh : ∀ txn ∈ db.ledgerTransactions, txn.id ≠ id := by
    intro txn txnMember
    simpa [key, clash] using (Table.insert?_eq_some_iff.mp stored).2 txn txnMember
  refine ⟨sound.matchedCharge, ?_, ?_, ?_⟩
  · intro txn txnMember
    rw [entriesOf_append]
    rcases (Table.mem_insert? stored).mp txnMember with old | rfl
    · obtain ⟨owner, ownerMember, reference, entries⟩ := sound.posted txn old
      refine ⟨owner, ownerMember, reference, ?_⟩
      rw [if_neg (Ne.symm (fresh txn old)), List.append_nil]
      exact entries
    · refine ⟨charge, member, rfl, ?_⟩
      rw [entriesOf_eq_nil sound fresh, if_pos rfl, List.nil_append]
  · intro entry entryMember
    rcases List.mem_append.mp entryMember with old | new
    · obtain ⟨txn, txnMember, owner⟩ := sound.entryTxn entry old
      exact ⟨txn, (Table.mem_insert? stored).mpr (.inl txnMember), owner⟩
    · obtain ⟨source, _, rfl⟩ := List.mem_map.mp new
      exact ⟨_, (Table.mem_insert? stored).mpr (.inr rfl), rfl⟩
  · intro chargeId paid
    rw [postings_post stored]
    exact Nat.add_pos_left (sound.paid chargeId paid) _

end Post

/-! ## Paying -/

theorem mem_setChargePaid {id : String} {charge : Charge} :
    charge ∈ (db.setChargePaid now id).charges ↔ ∃ old ∈ db.charges,
      (if old.id == id then { old with status := .paid, updatedAt := now } else old) = charge := by
  refine Table.mem_update ?_
  exact fun _ => rfl

theorem mem_settleInvoices {chargeId : String} {invoice : Invoice} :
    invoice ∈ (db.settleInvoices now chargeId).invoices ↔ ∃ old ∈ db.invoices,
      (if collects chargeId old then { old with status := .paid, updatedAt := now } else old) =
        invoice := by
  refine Table.mem_update ?_
  exact fun _ => rfl

theorem not_paid_of_pending {charge : Charge} (member : charge ∈ db.charges)
    (pending : charge.status = .pending) : ¬db.isPaid charge.id := by
  rintro ⟨other, otherMember, id, paid⟩
  rw [eq_of_charge_id otherMember member id, pending] at paid
  cases paid

theorem isPaid_congr {before after : Db} (same : after.charges = before.charges)
    {chargeId : String} : after.isPaid chargeId ↔ before.isPaid chargeId := by
  unfold isPaid
  rw [same]

theorem isPaid_setChargePaid {id chargeId : String} :
    (db.setChargePaid now id).isPaid chargeId ↔
      db.isPaid chargeId ∨ id = chargeId ∧ ∃ charge ∈ db.charges, charge.id = id := by
  constructor
  · rintro ⟨charge, member, rfl, paid⟩
    obtain ⟨old, oldMember, rfl⟩ := mem_setChargePaid.mp member
    by_cases chosen : old.id == id
    · refine .inr ⟨?_, old, oldMember, by simpa using chosen⟩
      simpa [chosen] using (beq_iff_eq.mp chosen).symm
    · refine .inl ⟨old, oldMember, ?_, ?_⟩
      · simp [chosen]
      · simpa [chosen] using paid
  · rintro (⟨charge, member, rfl, paid⟩ | ⟨rfl, charge, member, rfl⟩)
    · refine ⟨_, mem_setChargePaid.mpr ⟨charge, member, rfl⟩, ?_, ?_⟩
      · split <;> rfl
      · split
        · rfl
        · exact paid
    · refine ⟨_, mem_setChargePaid.mpr ⟨charge, member, rfl⟩, ?_, ?_⟩
      · simp
      · simp

theorem Sound.pay {id : String} (sound : db.Sound) (posted : 0 < db.postings id) :
    (db.setChargePaid now id).Sound := by
  have evolved : db.Evolves (db.setChargePaid now id) :=
    evolves_apply ⟨now, .status 0⟩ (.setChargePaid id) db
  refine ⟨?_, ?_, sound.entryTxn, ?_⟩
  · intro event member isMatched
    obtain ⟨charge, chargeMember, reference, amount⟩ := sound.matchedCharge event member isMatched
    obtain ⟨later, laterMember, grown⟩ := evolved.charges.mem chargeMember
    exact ⟨later, laterMember, by rw [grown.id, reference], by rw [grown.amountMinor, amount]⟩
  · intro txn member
    obtain ⟨charge, chargeMember, reference, entries⟩ := sound.posted txn member
    obtain ⟨later, laterMember, grown⟩ := evolved.charges.mem chargeMember
    refine ⟨later, laterMember, by rw [grown.id, reference], ?_⟩
    rw [grown.settlementEntries, ← entries]
    rfl
  · intro chargeId paid
    rcases isPaid_setChargePaid.mp paid with old | ⟨rfl, _⟩
    · exact sound.paid chargeId old
    · exact posted

/-! ## Everything else -/

theorem Sound.quiet (sound : before.Sound)
    (grows : ∀ charge ∈ before.charges, ∃ later ∈ after.charges, charge.Grows later)
    (quiet : before.Quiet after) : after.Sound := by
  have entriesOf : after.entriesOf = before.entriesOf := by
    unfold Db.entriesOf
    rw [quiet.ledgerEntries]
  refine ⟨?_, ?_, ?_, ?_⟩
  · intro event member isMatched
    rw [quiet.smsEvents] at member
    obtain ⟨charge, chargeMember, reference, amount⟩ := sound.matchedCharge event member isMatched
    obtain ⟨later, laterMember, grown⟩ := grows charge chargeMember
    exact ⟨later, laterMember, by rw [grown.id, reference], by rw [grown.amountMinor, amount]⟩
  · intro txn member
    rw [quiet.ledgerTransactions] at member
    obtain ⟨charge, chargeMember, reference, entries⟩ := sound.posted txn member
    obtain ⟨later, laterMember, grown⟩ := grows charge chargeMember
    exact ⟨later, laterMember, by rw [grown.id, reference],
      by rw [grown.settlementEntries, entriesOf, entries]⟩
  · rw [quiet.ledgerEntries, quiet.ledgerTransactions]
    exact sound.entryTxn
  · intro chargeId paid
    have posted := sound.paid chargeId (quiet.isPaid chargeId paid)
    simpa only [postings, quiet.ledgerTransactions] using posted

theorem Quiet.postings (quiet : before.Quiet after) (chargeId : String) :
    after.postings chargeId = before.postings chargeId := by
  simp only [Db.postings, quiet.ledgerTransactions]

theorem Quiet.settlements (quiet : before.Quiet after) (chargeId : String) :
    after.settlements chargeId = before.settlements chargeId := by
  simp only [Db.settlements, quiet.smsEvents]

theorem Quiet.recordings (quiet : before.Quiet after) (gateway : Gateway) (txnId : String) :
    after.recordings gateway txnId = before.recordings gateway txnId := by
  simp only [Db.recordings, quiet.smsEvents]

end Db

/-! ## Replies to the settling statements -/

section Replies

variable {faults : Bool} {before after : Db}

theorem reply_chargeById {id : String} {reply : signature.Reply (.chargeById id)}
    (replied : sqlite.Replies faults (.chargeById id) before reply after) :
    after = before ∧ (reply = .ok (before.charges.find? (·.id == id)) ∨
      faults = true ∧ ∃ error, reply = .error error) := by
  cases replied with
  | commit env => exact ⟨rfl, .inl rfl⟩
  | fault allowed => exact ⟨rfl, .inr ⟨allowed, _, rfl⟩⟩

theorem reply_pendingByAmount {amountMinor : Int64}
    {reply : signature.Reply (.pendingByAmount amountMinor)}
    (replied : sqlite.Replies faults (.pendingByAmount amountMinor) before reply after) :
    after = before ∧ (reply = .ok (before.pendingByAmount amountMinor) ∨
      faults = true ∧ ∃ error, reply = .error error) := by
  cases replied with
  | commit env => exact ⟨rfl, .inl rfl⟩
  | fault allowed => exact ⟨rfl, .inr ⟨allowed, _, rfl⟩⟩

theorem reply_setChargePaid {id : String} {reply : signature.Reply (.setChargePaid id)}
    (replied : sqlite.Replies faults (.setChargePaid id) before reply after) :
    (∃ now, reply = .ok () ∧ after = before.setChargePaid now id) ∨
      faults = true ∧ after = before ∧ ∃ error, reply = .error error := by
  cases replied with
  | commit env => exact .inl ⟨env.now, rfl, rfl⟩
  | fault allowed => exact .inr ⟨allowed, rfl, _, rfl⟩

theorem reply_insertSmsEvent {columns : NewSmsEvent}
    {reply : signature.Reply (.insertSmsEvent columns)}
    (replied : sqlite.Replies faults (.insertSmsEvent columns) before reply after) :
    (∃ now smsEvents, reply = .ok () ∧
      before.smsEvents.insert? (columns.row now) = some smsEvents ∧
      columns.chargeId.all before.hasCharge = true ∧
      after = { before with smsEvents }) ∨ after = before ∧ ∃ error, reply = .error error := by
  rcases reply_cases replied with ⟨env, answer, executed, rfl⟩ | ⟨error, rfl, same⟩
  · obtain ⟨smsEvents, stored, known, rfl⟩ := Db.insertSmsEvent_ok (Statement.stored_ok executed)
    exact .inl ⟨env.now, smsEvents, rfl, stored, known, rfl⟩
  · exact .inr ⟨same, error, rfl⟩

theorem exec_insertSmsEvent (env : Env) (columns : NewSmsEvent) (db : Db) :
    sqlite.exec env (.insertSmsEvent columns) db =
      (db.insertSmsEvent env.now columns).map fun after => ((), after) := by
  change (do return ((), ← db.insertSmsEvent env.now columns)) = _
  cases db.insertSmsEvent env.now columns <;> rfl

theorem exec_ledgerTransaction (env : Env) (writes : List LedgerWrite) (db : Db) :
    sqlite.exec env (.ledgerTransaction writes) db =
      (writes.foldlM (Db.ledgerWrite env.now) db).map fun after => ((), after) := by
  change (do return ((), ← writes.foldlM (Db.ledgerWrite env.now) db)) = _
  cases writes.foldlM (Db.ledgerWrite env.now) db <;> rfl

theorem reply_post {id reference memo : String} {entries : List Entry}
    {reply : signature.Reply (.ledgerTransaction (Db.postingWrites id reference memo entries))}
    (replied : sqlite.Replies faults
      (.ledgerTransaction (Db.postingWrites id reference memo entries)) before reply after) :
    (∃ now ledgerTransactions, reply = .ok () ∧
      before.ledgerTransactions.insert? ⟨id, reference, memo, now⟩ = some ledgerTransactions ∧
      after = { before with
        ledgerTransactions
        ledgerEntries := before.ledgerEntries ++ entries.map (·.row id now) }) ∨
      after = before ∧ (∃ error, reply = .error error) ∧ (faults = true ∨ ∃ now,
        before.ledgerTransactions.insert? ⟨id, reference, memo, now⟩ = none) := by
  cases replied with
  | fault allowed => exact .inr ⟨rfl, ⟨_, rfl⟩, .inl allowed⟩
  | commit env =>
      have executed := exec_ledgerTransaction env
        (Db.postingWrites id reference memo entries) before
      rw [Db.post_eq] at executed
      cases stored : before.ledgerTransactions.insert? ⟨id, reference, memo, env.now⟩ with
      | some ledgerTransactions =>
          rw [stored] at executed
          have applied := Machine.apply_ok executed
          exact .inl ⟨env.now, ledgerTransactions, congrArg Prod.fst applied, stored,
            congrArg Prod.snd applied⟩
      | none =>
          rw [stored] at executed
          have applied := Machine.apply_error executed
          exact .inr ⟨congrArg Prod.snd applied, ⟨_, congrArg Prod.fst applied⟩,
            .inr ⟨env.now, stored⟩⟩

end Replies

end SpritexPay
