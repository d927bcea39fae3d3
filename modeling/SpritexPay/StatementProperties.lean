import SpritexPay.Statement
import SpritexPay.Relational.Growth

/-! What the statements leave alone. Each one writes at most one relation, and
the rows of the money tables are never deleted nor moved to other terms. -/

set_option autoImplicit false

namespace SpritexPay

open Relational Resumption

/-- The relations a statement may write. The two ledger tables are only written
together. -/
inductive Relation where
  | charges
  | ledger
  | smsEvents
  | webhookDeliveries
  | invoices
  | invoiceItems
  | paymentLinks
  | allowedDomains
  | aiParseLog
  deriving DecidableEq

def Statement.writes : Statement → Option Relation
  | .insertCharge _ | .setChargePaid _ | .setChargeGateway _ _ | .setChargeClaim _ _ _ =>
      some .charges
  | .ledgerTransaction _ => some .ledger
  | .insertSmsEvent _ => some .smsEvents
  | .insertAiParse _ => some .aiParseLog
  | .insertWebhook _ | .webhookDelivered _ _ | .webhookFailed _ _ _ | .webhookRetry _ _ _ _ =>
      some .webhookDeliveries
  | .insertInvoice _ | .linkInvoice _ _ _ | .settleInvoices _ => some .invoices
  | .insertInvoiceItem _ => some .invoiceItems
  | .insertPaymentLink _ | .takeLinkUse _ => some .paymentLinks
  | .insertDomain _ _ | .deleteDomain _ => some .allowedDomains
  | _ => none

namespace Db

/-- The database after differs from the one before at most in one relation. -/
def DiffersAt (before after : Db) : Option Relation → Prop
  | none => after = before
  | some .charges => ∃ charges, after = { before with charges }
  | some .ledger => ∃ ledgerTransactions ledgerEntries,
      after = { before with ledgerTransactions, ledgerEntries }
  | some .smsEvents => ∃ smsEvents, after = { before with smsEvents }
  | some .webhookDeliveries => ∃ webhookDeliveries, after = { before with webhookDeliveries }
  | some .invoices => ∃ invoices, after = { before with invoices }
  | some .invoiceItems => ∃ invoiceItems, after = { before with invoiceItems }
  | some .paymentLinks => ∃ paymentLinks, after = { before with paymentLinks }
  | some .allowedDomains => ∃ allowedDomains, after = { before with allowedDomains }
  | some .aiParseLog => ∃ aiParseLog, after = { before with aiParseLog }

theorem DiffersAt.refl (db : Db) (relation : Option Relation) : db.DiffersAt db relation := by
  cases relation with
  | none => rfl
  | some relation =>
      cases relation with
      | ledger => exact ⟨_, _, rfl⟩
      | charges | smsEvents | webhookDeliveries | invoices | invoiceItems | paymentLinks
      | allowedDomains | aiParseLog => exact ⟨_, rfl⟩

end Db

/-! ## Results of the writing statements -/

namespace Db

variable {db after : Db} {now : Timestamp}

theorem insertCharge_ok {columns : NewCharge}
    (inserted : db.insertCharge now columns = .ok after) :
    ∃ positive charges, db.charges.insert? (columns.row now positive) = some charges ∧
      after = { db with charges } := by
  unfold insertCharge at inserted
  split at inserted
  · rename_i positive
    cases stored : db.charges.insert? (columns.row now positive) with
    | none => simp [stored] at inserted
    | some charges =>
        simp only [stored, Except.ok.injEq] at inserted
        exact ⟨positive, charges, stored, inserted.symm⟩
  · cases inserted

theorem insertSmsEvent_ok {columns : NewSmsEvent}
    (inserted : db.insertSmsEvent now columns = .ok after) :
    ∃ smsEvents, db.smsEvents.insert? (columns.row now) = some smsEvents ∧
      columns.chargeId.all db.hasCharge = true ∧ after = { db with smsEvents } := by
  unfold insertSmsEvent at inserted
  cases stored : db.smsEvents.insert? (columns.row now) with
  | none => simp [stored] at inserted
  | some smsEvents =>
      simp only [stored] at inserted
      split at inserted
      · rename_i referenced
        cases inserted
        exact ⟨smsEvents, rfl, referenced, rfl⟩
      · cases inserted

theorem insertWebhook_ok {columns : NewWebhook}
    (inserted : db.insertWebhook now columns = .ok after) :
    ∃ webhookDeliveries, db.webhookDeliveries.insert? (columns.row now) = some webhookDeliveries ∧
      db.hasCharge columns.chargeId = true ∧ after = { db with webhookDeliveries } := by
  unfold insertWebhook at inserted
  cases stored : db.webhookDeliveries.insert? (columns.row now) with
  | none => simp [stored] at inserted
  | some webhookDeliveries =>
      simp only [stored] at inserted
      split at inserted
      · rename_i referenced
        cases inserted
        exact ⟨webhookDeliveries, rfl, referenced, rfl⟩
      · cases inserted

theorem insertInvoice_ok {columns : NewInvoice}
    (inserted : db.insertInvoice now columns = .ok after) :
    ∃ positive invoices, db.invoices.insert? (columns.row now positive) = some invoices ∧
      after = { db with invoices } := by
  unfold insertInvoice at inserted
  split at inserted
  · rename_i positive
    cases stored : db.invoices.insert? (columns.row now positive) with
    | none => simp [stored] at inserted
    | some invoices =>
        simp only [stored, Except.ok.injEq] at inserted
        exact ⟨positive, invoices, stored, inserted.symm⟩
  · cases inserted

theorem insertPaymentLink_ok {columns : NewPaymentLink}
    (inserted : db.insertPaymentLink now columns = .ok after) :
    ∃ paymentLinks, db.paymentLinks.insert? (columns.row now) = some paymentLinks ∧
      after = { db with paymentLinks } := by
  unfold insertPaymentLink at inserted
  cases stored : db.paymentLinks.insert? (columns.row now) with
  | none => simp [stored] at inserted
  | some paymentLinks =>
      simp only [stored, Except.ok.injEq] at inserted
      exact ⟨paymentLinks, rfl, inserted.symm⟩

theorem insertInvoiceItem_ok {columns : NewInvoiceItem}
    (inserted : db.insertInvoiceItem now columns = .ok after) :
    ∃ invoiceItems, db.invoiceItems.insert? (columns.row now) = some invoiceItems ∧
      after = { db with invoiceItems } := by
  simp only [insertInvoiceItem] at inserted
  split at inserted
  · cases inserted
  · rename_i invoiceItems stored
    split at inserted
    · cases inserted
      exact ⟨invoiceItems, stored, rfl⟩
    · cases inserted

theorem ledgerWrite_ok {write : LedgerWrite} (written : ledgerWrite now db write = .ok after) :
    ∃ ledgerTransactions ledgerEntries,
      after = { db with ledgerTransactions, ledgerEntries } := by
  cases write with
  | insertTransaction id reference memo =>
      simp only [ledgerWrite] at written
      split at written
      · cases written
        exact ⟨_, _, rfl⟩
      · cases written
  | insertEntry txnId entry =>
      simp only [ledgerWrite] at written
      split at written
      · cases written
        exact ⟨_, _, rfl⟩
      · cases written

/-- What holds from before to after each write holds from before to after them all. -/
theorem ledgerWrites_relates {relation : Db → Db → Prop} (refl : ∀ db, relation db db)
    (trans : ∀ {first second third}, relation first second → relation second third →
      relation first third)
    (each : ∀ {write before after}, ledgerWrite now before write = .ok after →
      relation before after)
    {writes : List LedgerWrite} (written : writes.foldlM (ledgerWrite now) db = .ok after) :
    relation db after := by
  induction writes generalizing db with
  | nil =>
      cases written
      exact refl _
  | cons write writes ih =>
      rw [List.foldlM_cons] at written
      cases first : ledgerWrite now db write with
      | error error => simp [first, bind, Except.bind] at written
      | ok middle =>
          simp only [first, bind, Except.bind] at written
          exact trans (each first) (ih written)

theorem ledgerWrites_ok {writes : List LedgerWrite}
    (written : writes.foldlM (ledgerWrite now) db = .ok after) :
    ∃ ledgerTransactions ledgerEntries,
      after = { db with ledgerTransactions, ledgerEntries } := by
  let relation (before after : Db) : Prop := ∃ ledgerTransactions ledgerEntries,
    after = { before with ledgerTransactions, ledgerEntries }
  have trans : ∀ {first second third}, relation first second → relation second third →
      relation first third := by
    intro first second third earlier later
    obtain ⟨transactions, entries, rfl⟩ := earlier
    obtain ⟨laterTransactions, laterEntries, rfl⟩ := later
    exact ⟨_, _, rfl⟩
  have refl : ∀ db, relation db db := fun db => ⟨_, _, rfl⟩
  exact ledgerWrites_relates refl trans ledgerWrite_ok written

end Db

namespace Statement

variable {env : Env} {op : Statement} {answer : op.Answer} {db after : Db}

theorem stored_ok {stored : Except SqlError Db} {answer : Unit}
    (executed : (do return ((), ← stored) : Except SqlError (Unit × Db)) = .ok (answer, after)) :
    stored = .ok after := by
  cases stored with
  | error error => cases executed
  | ok db =>
      cases executed
      rfl

theorem stored_error {stored : Except SqlError Db} {error : SqlError}
    (refused : (do return ((), ← stored) : Except SqlError (Unit × Db)) = .error error) :
    stored = .error error := by
  cases stored with
  | error error =>
      cases refused
      rfl
  | ok db => cases refused

theorem exec_differsAt (executed : op.exec env db = .ok (answer, after)) :
    db.DiffersAt after op.writes := by
  cases op with
  | insertCharge columns =>
      obtain ⟨_, charges, _, rfl⟩ := Db.insertCharge_ok (stored_ok executed)
      exact ⟨charges, rfl⟩
  | ledgerTransaction writes => exact Db.ledgerWrites_ok (stored_ok executed)
  | insertSmsEvent columns =>
      obtain ⟨smsEvents, _, _, rfl⟩ := Db.insertSmsEvent_ok (stored_ok executed)
      exact ⟨smsEvents, rfl⟩
  | insertWebhook columns =>
      obtain ⟨webhookDeliveries, _, _, rfl⟩ := Db.insertWebhook_ok (stored_ok executed)
      exact ⟨webhookDeliveries, rfl⟩
  | insertInvoice columns =>
      obtain ⟨_, invoices, _, rfl⟩ := Db.insertInvoice_ok (stored_ok executed)
      exact ⟨invoices, rfl⟩
  | insertInvoiceItem columns =>
      obtain ⟨invoiceItems, _, rfl⟩ := Db.insertInvoiceItem_ok (stored_ok executed)
      exact ⟨invoiceItems, rfl⟩
  | insertPaymentLink columns =>
      obtain ⟨paymentLinks, _, rfl⟩ := Db.insertPaymentLink_ok (stored_ok executed)
      exact ⟨paymentLinks, rfl⟩
  | insertDomain id domain =>
      simp only [exec] at executed
      split at executed
      · cases executed
        exact ⟨_, rfl⟩
      · cases executed
  | accountBalance account =>
      simp only [exec] at executed
      generalize sumMinor _ = sum at executed
      cases sum with
      | error error => cases executed
      | ok total =>
          cases executed
          rfl
  | settledTotals gateway =>
      simp only [exec] at executed
      generalize sumMinor _ = sum at executed
      cases sum with
      | error error => cases executed
      | ok total =>
          cases executed
          rfl
  | setChargePaid | setChargeGateway | setChargeClaim | insertAiParse | webhookDelivered
  | webhookFailed | webhookRetry | linkInvoice | settleInvoices | takeLinkUse | deleteDomain =>
      cases executed
      exact ⟨_, rfl⟩
  | chargeById | chargeByPayRef | chargeIdByPayRef | pendingByAmount | pendingCount | settlingTrx
  | dueWebhooks | postWebhook | invoiceById | linkByRef | domainCount | domainNamed =>
      cases executed
      rfl

/-- A statement that writes no table leaves the database as it was. -/
theorem exec_reads (reads : op.writes = none) (executed : op.exec env db = .ok (answer, after)) :
    after = db := by
  have differs := exec_differsAt executed
  rw [reads] at differs
  exact differs

end Statement

end SpritexPay
