import SpritexPay.Ingestion
import SpritexPay.Steadiness

/-! Messages that are served alone, with identifiers of their own. Nothing can
come in between, so a message changes no money, or is recorded without a match,
or settles the one charge it was matched to in full. -/

set_option autoImplicit false

namespace SpritexPay

open Relational Resumption

namespace Db

/-- The tables of the money after a message has settled a charge. -/
structure Settled (crates : Crates) (uuids : SettlementUuids) (columns : NewSmsEvent)
    (charge : Charge) (before after : Db) : Prop where
  recorded : ∃ now, before.smsEvents.insert? (columns.row now) = some after.smsEvents
  posted : ∃ now, before.ledgerTransactions.insert?
      ⟨"ltx_" ++ uuids.ledger, charge.id, Charge.settlementMemo charge, now⟩ =
        some after.ledgerTransactions ∧
    after.ledgerEntries = before.ledgerEntries ++
      (Charge.settlementEntries charge).map (·.row ("ltx_" ++ uuids.ledger) now)
  paid : ∃ now, after.charges = (before.setChargePaid now charge.id).charges
  collected : ∃ now, after.invoices = (before.settleInvoices now charge.id).invoices
  silent : charge.callbackUrl = none → after.webhookDeliveries = before.webhookDeliveries
  announced : ∀ url, charge.callbackUrl = some url → ∃ now, before.webhookDeliveries.insert?
    ((Charge.notification crates uuids.webhook charge url).row now) = some after.webhookDeliveries

/-- The tables of the money after a charge has been marked paid. -/
structure Marked (crates : Crates) (uuids : SettlementUuids) (charge : Charge)
    (before after : Db) : Prop where
  smsEvents : after.smsEvents = before.smsEvents
  posted : ∃ now, before.ledgerTransactions.insert?
      ⟨"ltx_" ++ uuids.ledger, charge.id, Charge.settlementMemo charge, now⟩ =
        some after.ledgerTransactions ∧
    after.ledgerEntries = before.ledgerEntries ++
      (Charge.settlementEntries charge).map (·.row ("ltx_" ++ uuids.ledger) now)
  paid : ∃ now, after.charges = (before.setChargePaid now charge.id).charges
  collected : ∃ now, after.invoices = (before.settleInvoices now charge.id).invoices
  silent : charge.callbackUrl = none → after.webhookDeliveries = before.webhookDeliveries
  announced : ∀ url, charge.callbackUrl = some url → ∃ now, before.webhookDeliveries.insert?
    ((Charge.notification crates uuids.webhook charge url).row now) = some after.webhookDeliveries

/-- No row is stored under the identifiers of a settlement yet. -/
structure Vacant (db : Db) (uuids : SettlementUuids) : Prop where
  ledger : ∀ txn ∈ db.ledgerTransactions, txn.id ≠ "ltx_" ++ uuids.ledger
  webhook : ∀ delivery ∈ db.webhookDeliveries, delivery.id ≠ "whd_" ++ uuids.webhook

end Db

theorem Db.Sound.kept {before after : Db} (sound : before.Sound)
    (charges : after.charges = before.charges) (smsEvents : after.smsEvents = before.smsEvents)
    (ledgerTransactions : after.ledgerTransactions = before.ledgerTransactions)
    (ledgerEntries : after.ledgerEntries = before.ledgerEntries) : after.Sound := by
  refine sound.quiet (fun charge member => ⟨charge, charges ▸ member, .refl charge⟩)
    ⟨smsEvents, ledgerTransactions, ledgerEntries, fun chargeId paid => ?_⟩
  unfold Db.isPaid at paid ⊢
  rwa [charges] at paid

theorem Db.Sound.records {before after : Db} {columns : NewSmsEvent} (sound : before.Sound)
    (records : before.Records after columns)
    (backed : columns.matched = true → ∃ charge ∈ before.charges,
      columns.chargeId = some charge.id ∧ columns.amountMinor = charge.amountMinor) :
    after.Sound := by
  obtain ⟨now, smsEvents, aiParseLog, stored, rfl⟩ := records
  exact { sound.record stored backed with }

namespace Charge.Settling

variable {crates : Crates} {uuids : SettlementUuids} {plan : Statement → Fate} {charge : Charge}
  {before after : Db} {result : Option (Except ChargeError Unit)}

theorem marked (settling : Settling crates uuids (fun _ => .commit) charge before result after)
    (vacant : before.Vacant uuids) :
    result = some (.ok ()) ∧ before.Marked crates uuids charge after := by
  cases settling with
  | unposted _ reason =>
      rcases reason with never | never | ⟨txn, member, taken⟩
      · exact absurd rfl never
      · exact absurd rfl never
      · exact absurd taken (vacant.ledger txn member)
  | unpaid _ _ never => exact absurd rfl never
  | uncollected _ _ _ _ never => exact absurd rfl never
  | unannounced _ _ _ _ _ _ _ reason =>
      rcases reason with never | ⟨delivery, member, taken⟩
      · exact absurd rfl never
      · exact absurd taken (vacant.webhook delivery member)
  | silent paidAt collectedAt posting callback =>
      obtain ⟨postedAt, ledgerTransactions, posted, rfl⟩ := posting.posts
      refine ⟨rfl, rfl, ⟨postedAt, posted, rfl⟩, ⟨paidAt, rfl⟩, ⟨collectedAt, rfl⟩, fun _ => rfl,
        fun url called => ?_⟩
      rw [callback] at called
      cases called
  | announced paidAt collectedAt posting callback queues =>
      obtain ⟨queuedAt, webhookDeliveries, queued, rfl⟩ := queues
      obtain ⟨postedAt, ledgerTransactions, posted, rfl⟩ := posting.posts
      refine ⟨rfl, rfl, ⟨postedAt, posted, rfl⟩, ⟨paidAt, rfl⟩, ⟨collectedAt, rfl⟩,
        fun silent => ?_, fun other called => ?_⟩
      · rw [callback] at silent
        cases silent
      · cases callback.symm.trans called
        exact ⟨queuedAt, queued⟩

theorem settled (settling : Settling crates uuids (fun _ => .commit) charge before result after)
    (freshLedger : ∀ txn ∈ before.ledgerTransactions, txn.id ≠ "ltx_" ++ uuids.ledger)
    (freshWebhook : ∀ delivery ∈ before.webhookDeliveries, delivery.id ≠ "whd_" ++ uuids.webhook)
    {columns : NewSmsEvent} {origin : Db} (records : origin.Records before columns) :
    result = some (.ok ()) ∧ origin.Settled crates uuids columns charge after := by
  obtain ⟨ended, marked⟩ := settling.marked ⟨freshLedger, freshWebhook⟩
  obtain ⟨recordedAt, smsEvents, aiParseLog, stored, rfl⟩ := records
  have recorded : origin.smsEvents.insert? (columns.row recordedAt) = some after.smsEvents := by
    rw [marked.smsEvents]
    exact stored
  exact ⟨ended, ⟨recordedAt, recorded⟩, marked.posted, marked.paid, marked.collected,
    marked.silent, marked.announced⟩

theorem sound (settling : Settling crates uuids plan charge before result after)
    (member : charge ∈ before.charges) (sound : before.Sound) : after.Sound := by
  have posts : ∀ {posted : Db}, before.Posts posted uuids.ledger charge →
      posted.Sound ∧ 0 < posted.postings charge.id := by
    rintro posted ⟨now, ledgerTransactions, stored, rfl⟩
    refine ⟨sound.post member stored, ?_⟩
    rw [Db.postings_post stored]
    simp
  cases settling with
  | unposted => exact sound
  | unpaid posting => exact (posts posting.posts).1
  | uncollected paidAt posting =>
      obtain ⟨kept, posted⟩ := posts posting.posts
      exact kept.pay posted
  | unannounced paidAt collectedAt posting | silent paidAt collectedAt posting =>
      obtain ⟨kept, posted⟩ := posts posting.posts
      exact (kept.pay posted).kept rfl rfl rfl rfl
  | announced paidAt collectedAt posting callback queues =>
      obtain ⟨kept, posted⟩ := posts posting.posts
      obtain ⟨queuedAt, webhookDeliveries, queued, rfl⟩ := queues
      exact (kept.pay posted).kept rfl rfl rfl rfl

end Charge.Settling

namespace Sms

variable (crates : Crates) (replies : List ProviderReply) (uuids : IngestUuids)
  (gw rawBody : String) (before : Db)

/-- What becomes of a message that is served alone. -/
inductive Served : Except IngestError Ingested → Db → Prop where
  | refused {error : IngestError} {after : Db} (same : before.SameMoney after)
      (reason : ∀ columns, recordedAs crates replies uuids gw rawBody before = some columns →
        ¬before.recordable columns) : Served (.error error) after
  | unmatched {columns : NewSmsEvent} {after : Db}
      (row : recordedAs crates replies uuids gw rawBody before = some columns)
      (alone : columns.chargeId = none) (records : before.Records after columns) :
      Served (.ok ⟨columns.id, columns.txnId, none⟩) after
  | settled {columns : NewSmsEvent} {charge : Charge} {after : Db}
      (row : recordedAs crates replies uuids gw rawBody before = some columns)
      (reference : columns.chargeId = some charge.id) (member : charge ∈ before.charges)
      (pending : charge.status = .pending) (amount : charge.amountMinor = columns.amountMinor)
      (settled : before.Settled crates uuids.settlement columns charge after) :
      Served (.ok ⟨columns.id, columns.txnId, some charge.id⟩) after

variable {crates replies uuids gw rawBody before}

theorem served_of_runs {outcome : Except IngestError Ingested} {after : Db}
    (runs : sqlite.Runs (ingest crates replies uuids gw rawBody).run before outcome after)
    (freshLedger : ∀ txn ∈ before.ledgerTransactions, txn.id ≠ "ltx_" ++ uuids.settlement.ledger)
    (freshWebhook : ∀ delivery ∈ before.webhookDeliveries,
      delivery.id ≠ "whd_" ++ uuids.settlement.webhook) :
    Served crates replies uuids gw rawBody before outcome after := by
  have ingesting := ingesting_of_ingest runs.undisturbed
  generalize ended : some outcome = result at ingesting
  cases ingesting with
  | unrecorded same unfinished reason =>
      subst ended
      cases outcome with
      | ok value => exact absurd rfl (unfinished value)
      | error error =>
          refine .refused same fun columns row recordable => ?_
          rcases reason with none | ⟨_, _, never⟩ | ⟨other, otherRow, never | never | refused⟩
          · rw [row] at none
            cases none
          · cases never
          · exact never rfl
          · exact never rfl
          · cases Option.some.inj (row.symm.trans otherRow)
            exact refused recordable
  | unmatched row _ records alone =>
      cases ended
      exact .unmatched row alone records
  | matched row _ records reference member pending amount settling =>
      have kept := records
      obtain ⟨_, _, _, _, rfl⟩ := kept
      obtain ⟨rfl, settled⟩ := settling.settled freshLedger freshWebhook records
      cases ended
      exact .settled row reference member pending amount settled

theorem sound_of_runs {outcome : Except IngestError Ingested} {after : Db}
    (runs : sqlite.Runs (ingest crates replies uuids gw rawBody).run before outcome after)
    (sound : before.Sound) : after.Sound := by
  have ingesting := ingesting_of_ingest runs.undisturbed
  generalize some outcome = result at ingesting
  cases ingesting with
  | unrecorded same =>
      exact sound.kept same.charges same.smsEvents same.ledgerTransactions same.ledgerEntries
  | unmatched row _ records alone =>
      refine sound.records records fun isMatched => ?_
      rw [recordedAs_matched row, alone] at isMatched
      cases isMatched
  | @matched columns charge _ _ _ row _ records reference member pending amount settling =>
      have kept := sound.records records fun _ => ⟨charge, member, reference, amount.symm⟩
      obtain ⟨_, _, _, _, rfl⟩ := records
      exact settling.sound member kept

end Sms

end SpritexPay
