import SpritexPay.SettleableProperties

/-! The matcher over any order of its candidates, and what its tie-break rests
on. Which charge a payment belongs to is a property of the pending charges of
its amount as a set. -/

set_option autoImplicit false

namespace SpritexPay

open Relational Resumption

/-! ## Orders of rows -/

/-- An order in which a query without ORDER BY returns its rows. -/
structure RowOrder where
  arrange : List (String × Option String) → List (String × Option String)
  rearranges : ∀ rows, (arrange rows).Perm rows

/-- The database, with the candidates of the matcher in this order. -/
def RowOrder.sqlite (order : RowOrder) : Machine signature Env Db where
  exec env
    | .pendingByAmount amountMinor, db => .ok (order.arrange (db.pendingByAmount amountMinor), db)
    | op, db => op.exec env db
  fault := .unavailable

theorem RowOrder.run_findMatchingCharge (order : RowOrder) (parsed : ParsedTxn) (envs : Nat → Env)
    (db : Db) : order.sqlite.run (Sms.findMatchingCharge parsed).run envs db =
      (.ok (Sms.pick parsed.senderMsisdn
        (order.arrange (db.pendingByAmount parsed.amountMinor))), db) := rfl

/-- The order of the candidates has no part in the choice. -/
theorem Sms.pick_perm {candidates rows : List (String × Option String)}
    (perm : candidates.Perm rows) (distinct : rows.Pairwise fun left right => left.1 ≠ right.1)
    (sender : Option String) : pick sender candidates = pick sender rows := by
  have apart : candidates.Pairwise fun left right => left.1 ≠ right.1 :=
    (perm.pairwise_iff fun apart => apart.symm).mpr distinct
  have agree : ∀ chosen ∈ rows,
      pick sender candidates = some chosen.1 ↔ pick sender rows = some chosen.1 := by
    intro chosen member
    rw [pick_eq_iff (perm.mem_iff.mpr member) apart, pick_eq_iff member distinct]
    simp only [perm.mem_iff]
  refine Option.ext fun chargeId => ?_
  constructor
  · intro picked
    obtain ⟨chosen, member, rfl⟩ := mem_of_pick picked
    exact (agree chosen (perm.mem_iff.mp member)).mp picked
  · intro picked
    obtain ⟨chosen, member, rfl⟩ := mem_of_pick picked
    exact (agree chosen member).mpr picked

/-! ## Eligible charges -/

namespace Db

/-- The charge a payment belongs to: a pending one of its amount that has no
rival, or alone of several declares the sender. -/
structure Eligible (db : Db) (parsed : ParsedTxn) (charge : Charge) : Prop where
  member : charge ∈ db.charges
  pending : charge.status = .pending
  amount : charge.amountMinor = parsed.amountMinor
  single : db.Alone charge ∨
    ¬db.Alone charge ∧ ∃ sender, parsed.senderMsisdn = some sender ∧ db.AloneDeclares charge sender

/-- The two databases have the same pending charges of this amount. -/
def SameCandidates (db other : Db) (amountMinor : Int64) : Prop :=
  ∀ charge : Charge, charge.status = .pending → charge.amountMinor = amountMinor →
    (charge ∈ db.charges ↔ charge ∈ other.charges)

variable {db other : Db} {parsed : ParsedTxn}

theorem Eligible.unique {left right : Charge} (leftEligible : db.Eligible parsed left)
    (rightEligible : db.Eligible parsed right) : left = right := by
  have amounts := leftEligible.amount.trans rightEligible.amount.symm
  rcases leftEligible.single with alone | ⟨_, sender, sent, _, only⟩
  · exact (alone right rightEligible.member rightEligible.pending amounts.symm).symm
  · rcases rightEligible.single with alone | ⟨_, other, otherSent, declares, _⟩
    · exact alone left leftEligible.member leftEligible.pending amounts
    · obtain rfl : sender = other := Option.some.inj (sent.symm.trans otherSent)
      exact (only right rightEligible.member rightEligible.pending amounts.symm declares).symm

theorem Eligible.not_alone {charge : Charge} (eligible : db.Eligible parsed charge)
    (crowded : 2 ≤ (db.pendingByAmount parsed.amountMinor).length) : ¬db.Alone charge := by
  intro alone
  have all : ∀ candidate ∈ db.pendingByAmount parsed.amountMinor,
      candidate = (charge.id, charge.customerMsisdn) := by
    intro candidate listed
    obtain ⟨other, member, amount, pending, rfl⟩ := mem_pendingByAmount.mp listed
    rw [alone other member pending (amount.trans eligible.amount.symm)]
  have distinct := db.pendingByAmount_distinct parsed.amountMinor
  match rows : db.pendingByAmount parsed.amountMinor, crowded, all, distinct with
  | first :: second :: rest, _, all, distinct =>
      have same := (all first List.mem_cons_self).trans
        (all second (List.mem_cons_of_mem _ List.mem_cons_self)).symm
      exact (List.pairwise_cons.mp distinct).1 second List.mem_cons_self (congrArg _ same)

theorem pick_eq_some_iff {chargeId : String} :
    Sms.pick parsed.senderMsisdn (db.pendingByAmount parsed.amountMinor) = some chargeId ↔
      ∃ charge, db.Eligible parsed charge ∧ charge.id = chargeId := by
  constructor
  · intro picked
    obtain ⟨candidate, listed, rfl⟩ := Sms.mem_of_pick picked
    obtain ⟨charge, member, amount, pending, rfl⟩ := mem_pendingByAmount.mp listed
    rw [← amount, pick_iff member pending] at picked
    refine ⟨charge, ⟨member, pending, amount, ?_⟩, rfl⟩
    by_cases alone : db.Alone charge
    · exact .inl alone
    · exact .inr ⟨alone, picked.resolve_left alone⟩
  · rintro ⟨charge, eligible, rfl⟩
    rw [← eligible.amount, pick_iff eligible.member eligible.pending]
    exact eligible.single.imp_right And.right

theorem SameCandidates.symm {amountMinor : Int64} (same : db.SameCandidates other amountMinor) :
    other.SameCandidates db amountMinor := fun charge pending amount =>
  (same charge pending amount).symm

theorem Eligible.transfer {charge : Charge} (eligible : db.Eligible parsed charge)
    (same : db.SameCandidates other parsed.amountMinor) : other.Eligible parsed charge := by
  have back : ∀ rival ∈ other.charges, rival.status = .pending →
      rival.amountMinor = charge.amountMinor → rival ∈ db.charges :=
    fun rival member pending amount =>
      (same rival pending (amount.trans eligible.amount)).mpr member
  have forth : ∀ rival ∈ db.charges, rival.status = .pending →
      rival.amountMinor = charge.amountMinor → rival ∈ other.charges :=
    fun rival member pending amount =>
      (same rival pending (amount.trans eligible.amount)).mp member
  refine ⟨(same charge eligible.pending eligible.amount).mp eligible.member, eligible.pending,
    eligible.amount, ?_⟩
  rcases eligible.single with alone | ⟨crowded, sender, sent, declares, only⟩
  · exact .inl fun rival member pending amount =>
      alone rival (back rival member pending amount) pending amount
  · refine .inr ⟨fun alone => crowded fun rival member pending amount =>
      alone rival (forth rival member pending amount) pending amount, sender, sent, declares, ?_⟩
    exact fun rival member pending amount =>
      only rival (back rival member pending amount) pending amount

end Db

/-- Whatever the order of the rows, the matcher returns the one eligible charge
and nothing if there is none. Only the pending charges of the amount matter. -/
theorem matches_exactly (order : RowOrder) (parsed : ParsedTxn) (db : Db) (envs : Nat → Env) :
    ∃ found, order.sqlite.run (Sms.findMatchingCharge parsed).run envs db = (.ok found, db) ∧
      (∀ chargeId, found = some chargeId ↔
        ∃ charge, db.Eligible parsed charge ∧ charge.id = chargeId) ∧
      (∀ left right, db.Eligible parsed left → db.Eligible parsed right → left = right) ∧
      ∀ (otherOrder : RowOrder) (other : Db) (otherEnvs : Nat → Env),
        db.SameCandidates other parsed.amountMinor →
          otherOrder.sqlite.run (Sms.findMatchingCharge parsed).run otherEnvs other =
            (.ok found, other) := by
  have picks : ∀ (order : RowOrder) (db : Db), Sms.pick parsed.senderMsisdn
      (order.arrange (db.pendingByAmount parsed.amountMinor)) =
        Sms.pick parsed.senderMsisdn (db.pendingByAmount parsed.amountMinor) := fun order db =>
    Sms.pick_perm (order.rearranges _) (db.pendingByAmount_distinct _) _
  refine ⟨_, order.run_findMatchingCharge parsed envs db, fun chargeId => ?_,
    fun left right => Db.Eligible.unique, fun otherOrder other otherEnvs same => ?_⟩
  · rw [picks, Db.pick_eq_some_iff]
  · rw [otherOrder.run_findMatchingCharge, picks, picks]
    refine congrArg (fun found => (Except.ok found, other)) (Option.ext fun chargeId => ?_)
    rw [Db.pick_eq_some_iff, Db.pick_eq_some_iff]
    constructor
    · rintro ⟨charge, eligible, id⟩
      exact ⟨charge, eligible.transfer same.symm, id⟩
    · rintro ⟨charge, eligible, id⟩
      exact ⟨charge, eligible.transfer same, id⟩

/-! ## The tie-break -/

namespace Sms

def digits (text : String) : List Char := text.toList.filter Char.isDigit

def lastTen (text : String) : List Char := (digits text).drop ((digits text).length - 10)

/-- Two texts that name one phone number: each has the digits of one, and the
last ten agree. -/
def SamePhone (sender declared : String) : Prop :=
  10 ≤ (digits sender).length ∧ 10 ≤ (digits declared).length ∧ lastTen sender = lastTen declared

theorem normalizeMsisdn_eq_iff {left right : String} :
    normalizeMsisdn left = normalizeMsisdn right ↔ lastTen left = lastTen right :=
  String.ofList_inj

theorem length_lastTen (text : String) : (lastTen text).length = min 10 (digits text).length := by
  rw [lastTen, List.length_drop]
  omega

/-- Equal numbers are phone numbers as soon as one of them has the digits. -/
theorem samePhone_iff {sender declared : String}
    (same : normalizeMsisdn declared = normalizeMsisdn sender) :
    SamePhone sender declared ↔ 10 ≤ (digits sender).length := by
  have agree := normalizeMsisdn_eq_iff.mp same
  have lengths := congrArg List.length agree
  rw [length_lastTen, length_lastTen] at lengths
  constructor
  · exact fun phone => phone.1
  · intro enough
    exact ⟨enough, by omega, agree.symm⟩

end Sms

/-- Among several candidates the charge that is settled is one that the sender's
phone number names exactly when the sender has the digits of a phone number. -/
theorem tieBreak_rests_on_phone_iff {order : RowOrder} {parsed : ParsedTxn} {db : Db}
    {envs : Nat → Env} {charge : Charge} (member : charge ∈ db.charges)
    (crowded : 2 ≤ (db.pendingByAmount parsed.amountMinor).length)
    (settles : (order.sqlite.run (Sms.findMatchingCharge parsed).run envs db).1 =
      .ok (some charge.id)) :
    (∃ sender declared, parsed.senderMsisdn = some sender ∧
      charge.customerMsisdn = some declared ∧ Sms.SamePhone sender declared) ↔
    ∀ sender, parsed.senderMsisdn = some sender → 10 ≤ (Sms.digits sender).length := by
  have picked : Sms.pick parsed.senderMsisdn (db.pendingByAmount parsed.amountMinor) =
      some charge.id := by
    rw [← Sms.pick_perm (order.rearranges _) (db.pendingByAmount_distinct _)]
    exact Except.ok.inj settles
  obtain ⟨found, eligible, id⟩ := Db.pick_eq_some_iff.mp picked
  obtain rfl := Db.eq_of_charge_id eligible.member member id
  have rivals := eligible.not_alone crowded
  obtain ⟨_, sender, sent, ⟨declared, given, same⟩, _⟩ := eligible.single.resolve_left rivals
  have phone := Sms.samePhone_iff same
  constructor
  · rintro ⟨_, _, otherSent, otherGiven, isPhone⟩ other thirdSent
    obtain rfl := Option.some.inj (otherSent.symm.trans thirdSent)
    exact isPhone.1
  · exact fun enough => ⟨sender, declared, sent, given, phone.mpr (enough sender sent)⟩

theorem tieBreak_rests_on_phone_iff_sample : ∃ charge ∈ twoCustomers.charges,
    charge.id = "chg_2" ∧ ∃ declared, charge.customerMsisdn = some declared ∧
      Sms.SamePhone "01722222222" declared := by
  obtain ⟨charge, member, same⟩ : ∃ charge ∈ twoCustomers.charges, charge.id = "chg_2" := by
    decide +kernel
  let payment : ParsedTxn := ⟨.bkash, "TRXB", 50000, some "01722222222"⟩
  let newestFirst : RowOrder := ⟨List.reverse, List.reverse_perm⟩
  have crowded : 2 ≤ (twoCustomers.pendingByAmount payment.amountMinor).length := by decide +kernel
  have picked : Sms.pick (some "01722222222") (twoCustomers.pendingByAmount 50000).reverse =
      some "chg_2" := by decide +kernel
  have settles : (newestFirst.sqlite.run (Sms.findMatchingCharge payment).run (fun _ => sampleEnv)
      twoCustomers).1 = .ok (some charge.id) := by
    rw [newestFirst.run_findMatchingCharge, same]
    exact congrArg Except.ok picked
  obtain ⟨sender, declared, sent, given, phone⟩ :=
    (tieBreak_rests_on_phone_iff member crowded settles).mpr (by decide +kernel)
  obtain rfl := Option.some.inj sent
  exact ⟨charge, member, same, declared, given, phone⟩

/-! ## A reply without a number -/

def unknownReply : String :=
  "\x7b\"txn_id\": \"TRXA\", \"amount_bdt\": 500, \"sender_msisdn\": \"unknown\"\x7d"

/-- JSON is only asked to read the reply. -/
def unknownSenderService : Service where
  crates := { sampleCrates with
    extractionFromStr := fun text =>
      if text = unknownReply then
        some ⟨some "TRXA", some (Binary64.F64.ofRat 500), some "unknown"⟩
      else none }
  baseUrl := "https://pay.example"
  webhookSecret := "secret"

def customerCheckout (uuid : String) (mobileNumber : Option String) : Request :=
  .createCheckout ⟨uuid, uuid⟩
    ⟨none, none, mobileNumber, Binary64.F64.ofRat 500, "BDT", none, none, .null⟩

/-- Two checkouts of one amount. The first customer left the number empty. -/
def emptyNumber : Db :=
  unknownSenderService.serve
    [customerCheckout "1" (some ""), customerCheckout "2" (some "01722222222")] Db.empty

theorem unknown_sender_settles :
    (∃ calls, History unknownSenderService Db.empty calls emptyNumber) ∧
    ∃ parsed, parseExtraction unknownSenderService.crates .bkash unknownReply = .ok (some parsed) ∧
      2 ≤ (emptyNumber.pendingByAmount parsed.amountMinor).length ∧
      sqlite.run (Sms.findMatchingCharge parsed).run (fun _ => sampleEnv) emptyNumber =
        (.ok (some "chg_1"), emptyNumber) ∧
      parsed.senderMsisdn = some "unknown" ∧ Sms.digits "unknown" = [] ∧
      ∃ charge ∈ emptyNumber.charges, charge.id = "chg_1" ∧ charge.customerMsisdn = some "" := by
  have history := ((History.start : History unknownSenderService Db.empty [] Db.empty).next
    (customerCheckout "1" (some ""))).next (customerCheckout "2" (some "01722222222"))
  refine ⟨⟨_, history⟩, ⟨.bkash, "TRXA", 50000, some "unknown"⟩, by decide +kernel,
    by decide +kernel, ?_, rfl, by decide +kernel, by decide +kernel⟩
  have picked : Sms.pick (some "unknown") (emptyNumber.pendingByAmount 50000) = some "chg_1" := by
    decide +kernel
  exact congrArg (fun found => (Except.ok found, emptyNumber)) picked

end SpritexPay
