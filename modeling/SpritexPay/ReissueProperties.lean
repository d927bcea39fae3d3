import SpritexPay.Books
import SpritexPay.CheckoutProperties
import SpritexPay.CollectionProperties
import SpritexPay.SettlementSafety

/-! Issuing the payment of an invoice more than once. Two charges that are
pending for one invoice have the same amount and no declared number, so no
message is matched to either. An invoice can only be collected twice when its
payment is issued again after it was paid. -/

set_option autoImplicit false

namespace SpritexPay

open Relational Resumption

/-! ## Issuing a payment alone -/

/-- The public reference of a checkout is its order. -/
def Charge.Referenced (charge : Charge) : Prop :=
  ∀ payRef, charge.payRef = some payRef → charge.orderId = payRef

theorem Charge.lasting_referenced : Charge.Lasting Charge.Referenced := by
  intro old new grown referenced payRef carries
  rw [grown.orderId]
  exact referenced payRef (grown.payRef ▸ carries)

theorem Request.referenced_of_makes {request : Request} {columns : NewCharge}
    (makes : request.makes (.charge columns)) (now : Timestamp)
    (positive : 0 < columns.amountMinor) : (columns.row now positive).Referenced := by
  intro payRef carries
  cases request with
  | createCharge =>
      cases makes
      cases carries
  | createCheckout =>
      cases makes
      exact Option.some.inj carries
  | issuePayment =>
      obtain ⟨_, rfl⟩ := makes
      exact Option.some.inj carries
  | openLink =>
      obtain ⟨_, _, rfl⟩ := makes
      exact Option.some.inj carries
  | _ => cases makes

namespace Invoice

/-- What issuing a payment alone does to the database: it is refused, or it
inserts a charge and stores it in the invoice. -/
inductive Issued (uuids : CheckoutUuids) (id : String) (before : Db) :
    Except InvoiceError CheckoutCreated → Db → Prop where
  | refused (error : InvoiceError) : Issued uuids id before (.error error) before
  | minted {invoice : Invoice} {created : CheckoutCreated} {charges : Table Charge}
      {mintedAt : Timestamp} (linkedAt : Timestamp) (member : invoice ∈ before.invoices)
      (same : invoice.id = id)
      (positive : 0 < (Checkout.newCharge uuids (checkoutRequest invoice)).amountMinor)
      (stored : before.charges.insert?
        ((Checkout.newCharge uuids (checkoutRequest invoice)).row mintedAt positive) =
          some charges) :
      Issued uuids id before (.ok created)
        (Db.linkInvoice { before with charges } linkedAt id ("pay_" ++ uuids.payRef)
          (some ("chg_" ++ uuids.charge)))

variable {baseUrl : String} {uuids : CheckoutUuids} {id : String} {before after : Db}

theorem find_minted {charges : Table Charge} {row : Charge} {payRef : String}
    (referenced : ∀ charge ∈ before.charges, charge.Referenced)
    (stored : before.charges.insert? row = some charges) (carries : row.payRef = some payRef)
    (own : row.Referenced) : charges.find? (·.payRef == some payRef) = some row := by
  refine Table.find?_eq_some_of_mem ((Table.mem_insert? stored).mpr (.inr rfl)) (by simp [carries])
    fun other member passes => ?_
  have every := Table.forall_mem_insert? referenced own stored
  have sameOrder : other.orderId = row.orderId := by
    rw [every other member payRef (by simpa using passes), own payRef carries]
  simp [key, clash, sameOrder]

theorem issued_of_runs (referenced : ∀ charge ∈ before.charges, charge.Referenced)
    {outcome : Except InvoiceError CheckoutCreated}
    (runs : sqlite.Runs (issuePayment baseUrl uuids id).run before outcome after) :
    Issued uuids id before outcome after := by
  rw [run_issuePayment] at runs
  rcases runs_issue_cases runs with ⟨_, _, _, executed, rest⟩ | ⟨_, _, executed, _⟩
  swap
  · cases executed
  cases executed
  cases loaded : before.invoices.find? (·.id == id) with
  | none =>
      rw [loaded] at rest
      obtain ⟨rfl, rfl⟩ := Machine.runs_done_iff.mp rest
      exact .refused _
  | some invoice =>
      rw [loaded] at rest
      obtain ⟨member, same⟩ := Table.mem_of_find?_eq_some loaded
      change sqlite.Runs (collect baseUrl uuids id invoice) before outcome after at rest
      unfold collect at rest
      split at rest
      swap
      · obtain ⟨rfl, rfl⟩ := Machine.runs_done_iff.mp rest
        exact .refused _
      rcases runs_issue_cases rest with ⟨mint, _, _, inserting, rest⟩ | ⟨_, _, _, rfl, rfl⟩
      swap
      · exact .refused _
      obtain ⟨positive, charges, stored, rfl⟩ := Db.insertCharge_ok (Statement.stored_ok inserting)
      rcases runs_issue_cases rest with ⟨_, _, _, looking, rest⟩ | ⟨_, _, looking, _⟩
      swap
      · cases looking
      cases looking
      rw [find_minted referenced stored rfl fun _ => Option.some.inj] at rest
      rcases runs_issue_cases rest with ⟨link, _, _, linking, rest⟩ | ⟨_, _, linking, _⟩
      swap
      · cases linking
      cases linking
      obtain ⟨rfl, rfl⟩ := Machine.runs_done_iff.mp rest
      exact .minted link.now member (by simpa using same) positive stored

end Invoice

/-! ## Requests that leave an invoice alone -/

theorem Request.billed_of_makes {request : Request} {invoiceId : String}
    (makes : request.makes (.collection invoiceId)) : request.billed = some invoiceId := by
  cases request with
  | issuePayment uuids id =>
      cases makes
      rfl
  | _ => cases makes

namespace Db

variable {before after : Db} {invoiceId : String}

theorem eq_of_invoice_id {db : Db} {left right : Invoice} (leftMember : left ∈ db.invoices)
    (rightMember : right ∈ db.invoices) (same : left.id = right.id) : left = right :=
  Table.eq_of_clash leftMember rightMember (by simp [key, clash, same])

theorem mem_linkInvoice {db : Db} {now : Timestamp} {id payRef : String}
    {chargeId : Option String} {invoice : Invoice} :
    invoice ∈ (db.linkInvoice now id payRef chargeId).invoices ↔ ∃ old ∈ db.invoices,
      (if old.id == id then { old with payRef := some payRef, chargeId, updatedAt := now }
        else old) = invoice := by
  refine Table.mem_update ?_
  exact fun _ => rfl

/-- The invoice stays as it is, or it is drafted. -/
structure KeepsInvoice (invoiceId : String) (before after : Db) : Prop where
  kept : ∀ invoice ∈ before.invoices, invoice.id = invoiceId → invoice ∈ after.invoices
  origin : ∀ invoice ∈ after.invoices, invoice.id = invoiceId →
    invoice ∈ before.invoices ∨ invoice.chargeId = none ∧ invoice.status = .unpaid

theorem KeepsInvoice.refl (db : Db) : KeepsInvoice invoiceId db db :=
  ⟨fun _ member _ => member, fun _ member _ => .inl member⟩

theorem KeepsInvoice.trans {first second third : Db} (before : KeepsInvoice invoiceId first second)
    (after : KeepsInvoice invoiceId second third) : KeepsInvoice invoiceId first third where
  kept := fun invoice member same => after.kept invoice (before.kept invoice member same) same
  origin := fun invoice member same => by
    rcases after.origin invoice member same with older | drafted
    · exact before.origin invoice older same
    · exact .inr drafted

end Db

theorem keepsInvoice_reply {faults : Bool} {op : Statement} {before after : Db}
    {reply : signature.Reply op} {invoiceId : String} (aside : op.aside)
    (spares : op.makes ≠ some (.collection invoiceId))
    (replied : sqlite.Replies faults op before reply after) :
    Db.KeepsInvoice invoiceId before after := by
  rcases reply_cases replied with ⟨env, answer, executed, _⟩ | ⟨error, _, rfl⟩
  swap
  · exact .refl after
  cases op with
  | insertSmsEvent | ledgerTransaction | setChargePaid | settleInvoices | insertWebhook =>
      cases aside
  | insertInvoice columns =>
      obtain ⟨positive, invoices, stored, rfl⟩ := Db.insertInvoice_ok (Statement.stored_ok executed)
      refine ⟨fun invoice member _ => (Table.mem_insert? stored).mpr (.inl member),
        fun invoice member _ => ?_⟩
      rcases (Table.mem_insert? stored).mp member with old | rfl
      · exact .inl old
      · exact .inr ⟨rfl, rfl⟩
  | linkInvoice id payRef chargeId =>
      cases executed
      have other : id ≠ invoiceId := fun same => spares (by rw [← same]; rfl)
      refine ⟨fun invoice member same => ?_, fun invoice member same => .inl ?_⟩
      · exact Db.mem_linkInvoice.mpr ⟨invoice, member, by simp [same, other.symm]⟩
      · obtain ⟨old, oldMember, rfl⟩ := Db.mem_linkInvoice.mp member
        split
        · rename_i chosen
          rw [if_pos chosen] at same
          exact absurd ((beq_iff_eq.mp chosen).symm.trans same) other
        · exact oldMember
  | insertCharge | setChargeGateway | setChargeClaim | insertAiParse | webhookDelivered
  | webhookFailed | webhookRetry | insertInvoiceItem | insertPaymentLink | takeLinkUse
  | insertDomain | deleteDomain =>
      obtain ⟨_, rfl⟩ := Statement.exec_differsAt executed
      exact { Db.KeepsInvoice.refl before with }
  | _ =>
      rw [Statement.exec_reads rfl executed]
      exact .refl before

theorem keepsInvoice_served {service : Service} {request : Request} {before after : Db}
    {response : Response} {invoiceId : String} (other : request.isIngest = false)
    (spares : request.billed ≠ some invoiceId)
    (served : sqlite.Runs (request.program service) before response after) :
    Db.KeepsInvoice invoiceId before after := by
  refine (served.relates ((request.uses_program service other).and (request.uses_made service))
    Db.KeepsInvoice.refl Db.KeepsInvoice.trans ?_).2
  rintro env op db ⟨aside, made⟩
  refine keepsInvoice_reply aside (fun makes => spares ?_)
    (.commit env : sqlite.Replies false op db _ _)
  exact Request.billed_of_makes (made _ makes)

/-! ## An invoice and its charges -/

/-- A pending charge of the amount of an invoice, without a number. -/
structure Charge.Anonymous (invoice : Invoice) (charge : Charge) : Prop where
  pending : charge.status = .pending
  number : charge.customerMsisdn = none
  amount : charge.amountMinor = Checkout.minorUnits (Invoice.checkoutRequest invoice).amount

namespace Db

/-- The invoice is not paid, and neither is any charge minted for it. The newest
of them is stored in it. -/
structure Waiting (db : Db) (invoiceId : String) (minted : List String) : Prop where
  unpaid : ¬db.hasPaid invoiceId
  linked : ∀ invoice ∈ db.invoices, invoice.id = invoiceId → invoice.chargeId = minted.head?
  charges : ∀ id ∈ minted, ∃ invoice ∈ db.invoices, invoice.id = invoiceId ∧
    ∃ charge ∈ db.charges, charge.id = id ∧ charge.Anonymous invoice
  distinct : minted.Nodup

/-- The invoice is paid, and so is the one charge minted for it. -/
structure Collected (db : Db) (invoiceId : String) (minted : List String) : Prop where
  paid : db.hasPaid invoiceId
  single : ∃ id, minted = [id] ∧ db.isPaid id

variable {before after : Db} {invoiceId : String} {minted : List String}

theorem Collected.evolves (collected : before.Collected invoiceId minted)
    (evolved : before.Evolves after) : after.Collected invoiceId minted := by
  obtain ⟨id, single, paid⟩ := collected.single
  exact ⟨evolved.hasPaid collected.paid, id, single, evolved.isPaid paid⟩

theorem Waiting.kept (waiting : before.Waiting invoiceId minted)
    (charges : after.charges = before.charges) (invoices : after.invoices = before.invoices) :
    after.Waiting invoiceId minted where
  unpaid := by simpa only [hasPaid, invoices] using waiting.unpaid
  linked := by simpa only [invoices] using waiting.linked
  charges := by simpa only [invoices, charges] using waiting.charges
  distinct := waiting.distinct

theorem Waiting.aside (waiting : before.Waiting invoiceId minted) (steady : before.Steady after)
    (keeps : KeepsInvoice invoiceId before after) : after.Waiting invoiceId minted where
  unpaid := by
    rintro ⟨invoice, member, same, paid⟩
    rcases keeps.origin invoice member same with old | ⟨_, unpaid⟩
    · exact waiting.unpaid ⟨invoice, old, same, paid⟩
    · rw [unpaid] at paid
      cases paid
  linked := by
    intro invoice member same
    rcases keeps.origin invoice member same with old | ⟨unlinked, _⟩
    · exact waiting.linked invoice old same
    · cases newest : minted.head? with
      | none => exact unlinked
      | some id =>
          obtain ⟨old, oldMember, oldSame, _⟩ := waiting.charges id (List.mem_of_mem_head? newest)
          have found := eq_of_invoice_id (keeps.kept old oldMember oldSame) member
            (oldSame.trans same.symm)
          rw [← found, waiting.linked old oldMember oldSame, newest]
  charges := by
    intro id member
    obtain ⟨invoice, invoiceMember, same, charge, chargeMember, named, anonymous⟩ :=
      waiting.charges id member
    obtain ⟨later, laterMember, kept⟩ := steady.charges.mem chargeMember
    refine ⟨invoice, keeps.kept invoice invoiceMember same, same, later, laterMember,
      kept.grown.id.trans named, ?_, ?_, ?_⟩
    · exact kept.status.trans anonymous.pending
    · exact kept.grown.customerMsisdn.trans anonymous.number
    · exact kept.grown.amountMinor.trans anonymous.amount
  distinct := waiting.distinct

end Db

/-! ## Settling -/

namespace Sms

/-- A candidate without a number is only taken when it is the only one. -/
theorem sole_of_pick {sender : Option String} {candidates : List (String × Option String)}
    {chargeId : String} (picked : pick sender candidates = some chargeId) :
    (∃ candidate, candidates = [candidate] ∧ candidate.1 = chargeId) ∨
      ∃ candidate ∈ candidates, candidate.1 = chargeId ∧ candidate.2.isSome = true := by
  unfold pick at picked
  split at picked
  · cases picked
  · exact .inl ⟨_, rfl, Option.some.inj picked⟩
  · split at picked
    · cases picked
    · rename_i number _
      split at picked
      · rename_i candidate single
        have passing : candidate ∈ candidates.filter (declares number) := by simp [single]
        obtain ⟨member, declared⟩ := List.mem_filter.mp passing
        refine .inr ⟨candidate, member, Option.some.inj picked, ?_⟩
        cases declaredNumber : candidate.2 with
        | none => simp [declares, declaredNumber] at declared
        | some _ => rfl
      · cases picked

theorem recordedAs_picked {crates : Crates} {replies : List ProviderReply} {uuids : IngestUuids}
    {gw rawBody chargeId : String} {db : Db} {columns : NewSmsEvent}
    (row : recordedAs crates replies uuids gw rawBody db = some columns)
    (reference : columns.chargeId = some chargeId) :
    ∃ sender, pick sender (db.pendingByAmount columns.amountMinor) = some chargeId := by
  obtain ⟨gateway, _, parsing⟩ := Option.bind_eq_some_iff.mp row
  obtain ⟨_, _, rfl⟩ := Option.map_eq_some_iff.mp parsing
  exact ⟨_, reference⟩

/-- A message is only refused for its identifier or its transaction. -/
theorem recordable_of_recordedAs {crates : Crates} {replies : List ProviderReply}
    {uuids : IngestUuids} {gw rawBody : String} {db : Db} {columns : NewSmsEvent}
    (row : recordedAs crates replies uuids gw rawBody db = some columns)
    (fresh : ∀ event ∈ db.smsEvents, event.id ≠ columns.id ∧
      ¬(event.gateway = columns.gateway ∧ event.txnId = columns.txnId)) :
    db.recordable columns := by
  refine ⟨fresh, ?_⟩
  cases reference : columns.chargeId with
  | none => rfl
  | some chargeId =>
      obtain ⟨sender, picked⟩ := recordedAs_picked row reference
      obtain ⟨_, listed, rfl⟩ := mem_of_pick picked
      obtain ⟨charge, member, _, _, rfl⟩ := Db.mem_pendingByAmount.mp listed
      exact Db.hasCharge_iff.mpr ⟨charge, member, rfl⟩

end Sms

namespace Db

variable {charge : Charge} {before after : Db} {invoiceId : String} {minted : List String}

structure Idle (before after : Db) : Prop where
  charges : after.charges = before.charges
  invoices : after.invoices = before.invoices
  ledgerTransactions : after.ledgerTransactions = before.ledgerTransactions

/-- A matched charge is posted and paid, and so are the invoices it collects. -/
structure Pays (charge : Charge) (before after : Db) : Prop where
  member : charge ∈ before.charges
  pending : charge.status = .pending
  picked : ∃ sender,
    Sms.pick sender (before.pendingByAmount charge.amountMinor) = some charge.id
  posted : ∀ chargeId, charge.id ≠ chargeId → after.postings chargeId = before.postings chargeId
  paid : ∃ now, after.charges = (before.setChargePaid now charge.id).charges
  collected : ∃ now, after.invoices = (before.settleInvoices now charge.id).invoices

end Db

/-- A message that is served alone pays one charge or none, whether or not the
identifiers it has drawn are its own. -/
theorem Sms.pays_of_runs {crates : Crates} {replies : List ProviderReply} {uuids : IngestUuids}
    {gw rawBody : String} {before after : Db} {outcome : Except IngestError Ingested}
    (runs : sqlite.Runs (ingest crates replies uuids gw rawBody).run before outcome after) :
    before.Idle after ∨ ∃ charge, before.Pays charge after := by
  have ingesting := ingesting_of_ingest runs.undisturbed
  generalize some outcome = result at ingesting
  cases ingesting with
  | unrecorded same => exact .inl ⟨same.charges, same.invoices, same.ledgerTransactions⟩
  | unmatched row _ records =>
      obtain ⟨_, _, _, _, rfl⟩ := records
      exact .inl ⟨rfl, rfl, rfl⟩
  | @matched columns charge _ _ _ row _ records reference member pending amount settling =>
      obtain ⟨_, smsEvents, aiParseLog, _, rfl⟩ := records
      obtain ⟨sender, picked⟩ := recordedAs_picked row reference
      rw [← amount] at picked
      have pays : ∀ {posted : Db} (paidAt collectedAt : Timestamp),
          Db.Posts { before with smsEvents, aiParseLog } posted uuids.settlement.ledger charge →
            before.Pays charge
              ((posted.setChargePaid paidAt charge.id).settleInvoices collectedAt charge.id) := by
        rintro _ paidAt collectedAt ⟨now, ledgerTransactions, stored, rfl⟩
        refine ⟨member, pending, ⟨sender, picked⟩, fun chargeId other => ?_, ⟨paidAt, rfl⟩,
          collectedAt, rfl⟩
        refine (Db.postings_post stored before.ledgerEntries chargeId).trans ?_
        rw [if_neg (by simpa using other), Nat.add_zero]
        rfl
      cases settling with
      | unposted => exact .inl ⟨rfl, rfl, rfl⟩
      | unpaid _ _ never => exact absurd rfl never
      | uncollected _ _ _ _ never => exact absurd rfl never
      | unannounced paidAt collectedAt posting | silent paidAt collectedAt posting =>
          exact .inr ⟨charge, pays paidAt collectedAt posting.posts⟩
      | announced paidAt collectedAt posting _ queues =>
          obtain ⟨_, _, _, rfl⟩ := queues
          exact .inr ⟨charge, { pays paidAt collectedAt posting.posts with }⟩

namespace Db

variable {charge : Charge} {before after : Db} {invoiceId : String} {minted : List String}

/-- A minted charge that a message is matched to is the only one. -/
theorem Waiting.minted_eq (waiting : before.Waiting invoiceId minted)
    (pays : before.Pays charge after) (own : charge.id ∈ minted) : minted = [charge.id] := by
  obtain ⟨member, _, ⟨sender, picked⟩⟩ := pays
  obtain ⟨invoice, invoiceMember, same, found, foundMember, named, anonymous⟩ :=
    waiting.charges charge.id own
  obtain rfl := eq_of_charge_id foundMember member named
  have candidates : ∀ candidate ∈ before.pendingByAmount found.amountMinor,
      candidate.1 = found.id → candidate.2 = none := by
    rintro candidate candidateMember id
    obtain ⟨other, otherMember, _, _, rfl⟩ := mem_pendingByAmount.mp candidateMember
    rw [eq_of_charge_id otherMember member id]
    exact anonymous.number
  rcases Sms.sole_of_pick picked with ⟨sole, only, id⟩ | ⟨candidate, candidateMember, id, numbered⟩
  swap
  · rw [candidates candidate candidateMember id] at numbered
    cases numbered
  have all : ∀ id ∈ minted, id = found.id := by
    intro other otherMinted
    obtain ⟨otherInvoice, otherInvoiceMember, otherSame, row, rowMember, rfl, rowAnonymous⟩ :=
      waiting.charges other otherMinted
    obtain rfl := eq_of_invoice_id otherInvoiceMember invoiceMember (otherSame.trans same.symm)
    have candidate : (row.id, row.customerMsisdn) ∈ before.pendingByAmount found.amountMinor :=
      mem_pendingByAmount.mpr ⟨row, rowMember, rowAnonymous.amount.trans anonymous.amount.symm,
        rowAnonymous.pending, rfl⟩
    rw [only, List.mem_singleton] at candidate
    rw [← id, ← candidate]
  exact List.perm_singleton.mp
    ((List.perm_ext_iff_of_nodup waiting.distinct (List.nodup_singleton _)).mpr fun id =>
      ⟨fun idMember => List.mem_singleton.mpr (all id idMember),
        fun idMember => List.mem_singleton.mp idMember ▸ own⟩)

theorem Waiting.collect (waiting : before.Waiting invoiceId [charge.id]) (billed : before.Billed)
    (pays : before.Pays charge after) : after.Collected invoiceId [charge.id] := by
  obtain ⟨paidAt, paid⟩ := pays.paid
  obtain ⟨collectedAt, collected⟩ := pays.collected
  obtain ⟨invoice, invoiceMember, same, _⟩ := waiting.charges charge.id List.mem_cons_self
  have binds : before.Binds invoiceId charge.id :=
    ⟨invoice, invoiceMember, same, .inl (waiting.linked invoice invoiceMember same)⟩
  refine ⟨?_, charge.id, rfl, ?_⟩
  · rw [hasPaid, collected]
    exact binds.settled billed collectedAt
  · rw [isPaid, paid]
    exact isPaid_setChargePaid.mpr (.inr ⟨rfl, charge, pays.member, rfl⟩)

theorem Waiting.apart (waiting : before.Waiting invoiceId minted)
    (pays : before.Pays charge after) (other : charge.id ∉ minted) :
    after.Waiting invoiceId minted := by
  obtain ⟨paidAt, paid⟩ := pays.paid
  obtain ⟨collectedAt, collected⟩ := pays.collected
  have uncollected : ∀ invoice ∈ before.invoices, invoice.id = invoiceId →
      collects charge.id invoice = false := by
    intro invoice member same
    have unlinked : invoice.chargeId ≠ some charge.id := by
      rw [waiting.linked invoice member same]
      exact fun newest => other (List.mem_of_mem_head? newest)
    simp [collects, unlinked]
  have origin : ∀ invoice ∈ after.invoices, invoice.id = invoiceId →
      invoice ∈ before.invoices := by
    intro invoice member same
    rw [collected] at member
    obtain ⟨old, oldMember, rfl⟩ := mem_settleInvoices.mp member
    have oldSame : old.id = invoiceId := by
      rw [← same]
      split <;> rfl
    rw [uncollected old oldMember oldSame]
    exact oldMember
  refine ⟨?_, fun invoice member same => waiting.linked invoice (origin invoice member same) same,
    ?_, waiting.distinct⟩
  · rintro ⟨invoice, member, same, isPaid⟩
    exact waiting.unpaid ⟨invoice, origin invoice member same, same, isPaid⟩
  · intro id idMember
    obtain ⟨invoice, invoiceMember, same, row, rowMember, named, anonymous⟩ :=
      waiting.charges id idMember
    refine ⟨invoice, ?_, same, row, ?_, named, anonymous⟩
    · rw [collected]
      exact mem_settleInvoices.mpr
        ⟨invoice, invoiceMember, by simp [uncollected invoice invoiceMember same]⟩
    · have different : row.id ≠ charge.id := fun sameId => other (sameId ▸ named ▸ idMember)
      rw [paid]
      exact mem_setChargePaid.mpr ⟨row, rowMember, by simp [different]⟩

theorem Waiting.issue {uuids : CheckoutUuids} {created : CheckoutCreated}
    (waiting : before.Waiting invoiceId minted)
    (issued : Invoice.Issued uuids invoiceId before (.ok created) after) :
    after.Waiting invoiceId (("chg_" ++ uuids.charge) :: minted) := by
  cases issued with
  | @minted invoice _ charges mintedAt linkedAt member same positive stored =>
      refine ⟨?_, ?_, ?_, ?_⟩
      · rintro ⟨invoice, invoiceMember, named, paid⟩
        obtain ⟨old, oldMember, rfl⟩ := mem_linkInvoice.mp invoiceMember
        refine waiting.unpaid ⟨old, oldMember, ?_, ?_⟩
        · rw [← named]
          split <;> rfl
        · rw [← paid]
          split <;> rfl
      · intro invoice invoiceMember named
        obtain ⟨old, oldMember, rfl⟩ := mem_linkInvoice.mp invoiceMember
        have chosen : (old.id == invoiceId) = true := by
          rw [← named]
          split <;> simp
        rw [if_pos chosen]
        rfl
      · have linked : ∀ old ∈ before.invoices, old.id = invoiceId → ∀ charge : Charge,
            charge.Anonymous old → ∃ invoice ∈ (linkInvoice { before with charges } linkedAt
              invoiceId ("pay_" ++ uuids.payRef) (some ("chg_" ++ uuids.charge))).invoices,
              invoice.id = invoiceId ∧ charge.Anonymous invoice := by
          intro old oldMember oldSame charge anonymous
          refine ⟨_, mem_linkInvoice.mpr ⟨old, oldMember, rfl⟩, ?_, ?_⟩
          · rw [← oldSame]
            split <;> rfl
          · split
            · exact ⟨anonymous.pending, anonymous.number, anonymous.amount⟩
            · exact anonymous
        intro id idMember
        rcases List.mem_cons.mp idMember with rfl | older
        · obtain ⟨issued, issuedMember, named, anonymous⟩ := linked invoice member same
            ((Checkout.newCharge uuids (Invoice.checkoutRequest invoice)).row mintedAt positive)
            ⟨rfl, rfl, rfl⟩
          exact ⟨issued, issuedMember, named, _, (Table.mem_insert? stored).mpr (.inr rfl), rfl,
            anonymous⟩
        · obtain ⟨old, oldMember, oldSame, charge, chargeMember, chargeId, anonymous⟩ :=
            waiting.charges id older
          obtain ⟨invoice, invoiceMember, named, still⟩ :=
            linked old oldMember oldSame charge anonymous
          exact ⟨invoice, invoiceMember, named, charge,
            (Table.mem_insert? stored).mpr (.inl chargeMember), chargeId, still⟩
      · refine List.nodup_cons.mpr ⟨fun older => ?_, waiting.distinct⟩
        obtain ⟨_, _, _, charge, chargeMember, chargeId, _⟩ := waiting.charges _ older
        have apart := (Table.insert?_eq_some_iff.mp stored).2 charge chargeMember
        simp [key, clash, chargeId, NewCharge.row, Checkout.newCharge] at apart

end Db

/-! ## Runs -/

/-- Requests served one after the other, where a payment is only issued of an
invoice that is not paid. -/
inductive IssuesUnpaid (service : Service) (start : Db) : List Call → Db → Prop where
  | start : IssuesUnpaid service start [] start
  | serve {past : List Call} {db after : Db} {request : Request} {response : Response}
      (earlier : IssuesUnpaid service start past db)
      (unpaid : ∀ invoiceId, request.billed = some invoiceId → ¬db.hasPaid invoiceId)
      (served : sqlite.Runs (request.program service) db response after) :
      IssuesUnpaid service start (⟨request, response⟩ :: past) after

def Call.minted (invoiceId : String) : Call → Option String
  | ⟨.issuePayment uuids id, .payment (.ok _)⟩ =>
      if id = invoiceId then some ("chg_" ++ uuids.charge) else none
  | _ => none

/-- The charges that issuing payments has minted for an invoice, newest first. -/
def mintedFor (calls : List Call) (invoiceId : String) : List String :=
  calls.filterMap (Call.minted invoiceId)

section Runs

variable {service : Service} {start before after db : Db} {past more calls : List Call}
  {request : Request} {response : Response} {invoiceId : String}

theorem mintedFor_cons_of_ne (other : request.billed ≠ some invoiceId) :
    mintedFor (⟨request, response⟩ :: calls) invoiceId = mintedFor calls invoiceId := by
  refine List.filterMap_cons_none ?_
  unfold Call.minted
  split
  · rename_i same
    cases same
    exact if_neg fun own => other (congrArg some own)
  · rfl

theorem evolves_served (served : sqlite.Runs (request.program service) before response after) :
    before.Evolves after :=
  (served.relates (request.uses_made service) Db.Evolves.refl Db.Evolves.trans
    fun env op db _ => evolves_apply env op db).2

theorem evolves_history (history : History service start calls db) : start.Evolves db := by
  induction history with
  | start => exact Db.Evolves.refl start
  | serve _ served ih => exact ih.trans (evolves_served served)

theorem billed_served (served : sqlite.Runs (request.program service) before response after)
    (billed : before.Billed) : after.Billed :=
  (served.keeps ((request.uses_made service).keeps fun _ _ env _ kept => billed_apply env kept)
    billed).2

theorem referenced_served (served : sqlite.Runs (request.program service) before response after)
    (referenced : ∀ charge ∈ before.charges, charge.Referenced) :
    ∀ charge ∈ after.charges, charge.Referenced :=
  charges_served Charge.lasting_referenced
    (fun _ makes now positive => Request.referenced_of_makes makes now positive) referenced served

theorem Db.Waiting.serve (waiting : before.Waiting invoiceId (mintedFor calls invoiceId))
    (billed : before.Billed) (referenced : ∀ charge ∈ before.charges, charge.Referenced)
    (served : sqlite.Runs (request.program service) before response after) :
    after.Waiting invoiceId (mintedFor (⟨request, response⟩ :: calls) invoiceId) ∨
      after.Collected invoiceId (mintedFor (⟨request, response⟩ :: calls) invoiceId) := by
  cases ingests : request.isIngest with
  | true =>
      obtain ⟨uuids, replies, gw, rawBody, rfl⟩ := Request.eq_ingest ingests
      obtain ⟨outcome, runs, rfl⟩ := runs_respond_iff.mp served
      have other : (Request.ingest uuids replies gw rawBody).billed ≠ some invoiceId := nofun
      rw [mintedFor_cons_of_ne other]
      rcases Sms.pays_of_runs runs with idle | ⟨charge, pays⟩
      · exact .inl (waiting.kept idle.charges idle.invoices)
      · by_cases own : charge.id ∈ mintedFor calls invoiceId
        · have single := waiting.minted_eq pays own
          rw [single] at waiting ⊢
          exact .inr (waiting.collect billed pays)
        · exact .inl (waiting.apart pays own)
  | false =>
      by_cases other : request.billed = some invoiceId
      swap
      · rw [mintedFor_cons_of_ne other]
        exact .inl (waiting.aside (steady_served ingests served)
          (keepsInvoice_served ingests other served))
      cases request with
      | issuePayment uuids id =>
          obtain rfl := Option.some.inj other
          obtain ⟨outcome, runs, rfl⟩ := runs_respond_iff.mp served
          have issued := Invoice.issued_of_runs referenced runs
          cases outcome with
          | error error =>
              cases issued
              exact .inl waiting
          | ok created =>
              have minted :
                  mintedFor (⟨.issuePayment uuids id, .payment (.ok created)⟩ :: calls) id =
                    ("chg_" ++ uuids.charge) :: mintedFor calls id :=
                List.filterMap_cons_some (if_pos rfl)
              rw [minted]
              exact .inl (waiting.issue issued)
      | _ => cases other

theorem Db.Collected.serve (collected : before.Collected invoiceId (mintedFor calls invoiceId))
    (unpaid : ∀ id, request.billed = some id → ¬before.hasPaid id)
    (served : sqlite.Runs (request.program service) before response after) :
    after.Collected invoiceId (mintedFor (⟨request, response⟩ :: calls) invoiceId) ∧
      ∀ chargeId ∈ mintedFor calls invoiceId,
        after.postings chargeId = before.postings chargeId := by
  rw [mintedFor_cons_of_ne fun own => unpaid invoiceId own collected.paid]
  refine ⟨collected.evolves (evolves_served served), fun chargeId member => ?_⟩
  cases ingests : request.isIngest with
  | false => exact ((steady_served ingests served).measures chargeId).1
  | true =>
      obtain ⟨uuids, replies, gw, rawBody, rfl⟩ := Request.eq_ingest ingests
      obtain ⟨outcome, runs, rfl⟩ := runs_respond_iff.mp served
      rcases Sms.pays_of_runs runs with idle | ⟨charge, pays⟩
      · rw [Db.postings, idle.ledgerTransactions, ← Db.postings]
      · refine pays.posted chargeId ?_
        rintro rfl
        obtain ⟨id, single, paid⟩ := collected.single
        rw [single, List.mem_singleton] at member
        exact Db.not_paid_of_pending pays.member pays.pending (member.symm ▸ paid)

theorem waits_or_collected (run : IssuesUnpaid service Db.empty calls db) (invoiceId : String) :
    db.Billed ∧ (∀ charge ∈ db.charges, charge.Referenced) ∧
      (db.Waiting invoiceId (mintedFor calls invoiceId) ∨
        db.Collected invoiceId (mintedFor calls invoiceId)) := by
  induction run with
  | start =>
      refine ⟨Db.billed_empty, by simp [Db.empty], .inl ⟨?_, ?_, ?_, List.nodup_nil⟩⟩
      · simp [Db.hasPaid, Db.empty]
      · simp [Db.empty]
      · simp [mintedFor]
  | serve _ unpaid served ih =>
      obtain ⟨billed, referenced, phase⟩ := ih
      refine ⟨billed_served served billed, referenced_served served referenced, ?_⟩
      rcases phase with waiting | collected
      · exact waiting.serve billed referenced served
      · exact .inr (collected.serve unpaid served).1

theorem Db.Collected.run (collected : db.Collected invoiceId (mintedFor calls invoiceId))
    (later : IssuesUnpaid service db more after) :
    after.Collected invoiceId (mintedFor (more ++ calls) invoiceId) ∧
      ∀ chargeId ∈ mintedFor (more ++ calls) invoiceId,
        after.postings chargeId = db.postings chargeId := by
  induction later with
  | start => exact ⟨collected, fun _ _ => rfl⟩
  | serve _ unpaid served ih =>
      obtain ⟨before, posted⟩ := ih
      obtain ⟨after, kept⟩ := before.serve unpaid served
      refine ⟨after, fun chargeId member => ?_⟩
      rw [List.cons_append, mintedFor_cons_of_ne fun own => unpaid _ own before.paid] at member
      exact (kept chargeId member).trans (posted chargeId member)

/-- Where payments are only issued of invoices that are not paid, an invoice is
collected by one charge at most, and no other posting is made for it once it is
paid. -/
theorem collected_once (run : IssuesUnpaid service Db.empty calls db) (invoiceId : String) :
    (∀ left ∈ mintedFor calls invoiceId, ∀ right ∈ mintedFor calls invoiceId,
      db.isPaid left → db.isPaid right → left = right) ∧
    (db.hasPaid invoiceId → ∀ more after, IssuesUnpaid service db more after →
      ∀ chargeId ∈ mintedFor (more ++ calls) invoiceId,
        after.postings chargeId = db.postings chargeId) := by
  obtain ⟨_, _, phase⟩ := waits_or_collected run invoiceId
  rcases phase with waiting | collected
  · refine ⟨fun left leftMember right _ leftPaid _ => ?_, fun paid => absurd paid waiting.unpaid⟩
    obtain ⟨_, _, _, charge, member, rfl, anonymous⟩ := waiting.charges left leftMember
    exact absurd leftPaid (Db.not_paid_of_pending member anonymous.pending)
  · refine ⟨fun left leftMember right rightMember _ _ => ?_,
      fun _ more after later => (collected.run later).2⟩
    obtain ⟨id, single, _⟩ := collected.single
    rw [single, List.mem_singleton] at leftMember rightMember
    rw [leftMember, rightMember]

end Runs

/-! ## An invoice that is issued again -/

theorem History.next {service : Service} {start db : Db} {calls : List Call}
    (history : History service start calls db) (request : Request) :
    History service start
      (⟨request, (sqlite.run (request.program service) (fun _ => sampleEnv) db).1⟩ :: calls)
      (service.serve [request] db) :=
  history.serve (sqlite.runs_run (request.program service) (fun _ => sampleEnv) db)

theorem IssuesUnpaid.next {service : Service} {start db : Db} {calls : List Call}
    (run : IssuesUnpaid service start calls db) (request : Request)
    (unpaid : ∀ invoiceId, request.billed = some invoiceId → ¬db.hasPaid invoiceId) :
    IssuesUnpaid service start
      (⟨request, (sqlite.run (request.program service) (fun _ => sampleEnv) db).1⟩ :: calls)
      (service.serve [request] db) :=
  run.serve unpaid (sqlite.runs_run (request.program service) (fun _ => sampleEnv) db)

def sampleIssue (uuid : String) : Request := .issuePayment ⟨uuid, uuid⟩ "inv_1"

def paidInvoice : Db :=
  sampleService.serve [sampleInvoice, sampleIssue "1", samplePayment "a" "TRXA"] Db.empty

theorem collected_once_sample : (∃ calls, IssuesUnpaid sampleService Db.empty calls paidInvoice) ∧
    (sampleService.serve [samplePayment "b" "TRXB"] paidInvoice).postings "chg_1" =
      paidInvoice.postings "chg_1" := by
  have issuable : ∀ invoiceId, (sampleIssue "1").billed = some invoiceId →
      ¬(sampleService.serve [sampleInvoice] Db.empty).hasPaid invoiceId := by
    rintro _ ⟨⟩
    decide +kernel
  have drafted := (IssuesUnpaid.start : IssuesUnpaid sampleService Db.empty [] Db.empty).next
    sampleInvoice nofun
  have run : IssuesUnpaid sampleService Db.empty _ paidInvoice :=
    (drafted.next (sampleIssue "1") issuable).next (samplePayment "a" "TRXA") nofun
  have later := (IssuesUnpaid.start : IssuesUnpaid sampleService paidInvoice [] paidInvoice).next
    (samplePayment "b" "TRXB") nofun
  have paid : paidInvoice.hasPaid "inv_1" := by decide +kernel
  refine ⟨⟨_, run⟩, (collected_once run "inv_1").2 paid _ _ later "chg_1" ?_⟩
  decide +kernel

/-- An invoice that is issued and paid, and then issued and paid again. -/
theorem paid_invoice_collected_again : ∃ calls db, History sampleService Db.empty calls db ∧
    mintedFor calls "inv_1" = ["chg_2", "chg_1"] ∧ db.isPaid "chg_1" ∧ db.isPaid "chg_2" := by
  have issued := ((History.start : History sampleService Db.empty [] Db.empty).next
    sampleInvoice).next (sampleIssue "1")
  have reissued := (issued.next (samplePayment "a" "TRXA")).next (sampleIssue "2")
  have history := reissued.next (samplePayment "b" "TRXB")
  exact ⟨_, _, history, by decide +kernel, by decide +kernel, by decide +kernel⟩

end SpritexPay
