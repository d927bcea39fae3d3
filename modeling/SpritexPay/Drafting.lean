import SpritexPay.Arrivals
import SpritexPay.Resumption.Seclusion

/-! How far a call that drafts an invoice gets. The header is inserted before
the items and each of them by a statement of its own, so at every moment the
store holds nothing of the call, or the header and the items up to some item. -/

set_option autoImplicit false

namespace SpritexPay

open Relational Resumption

def InvoiceItem.line (item : InvoiceItem) : LineItem :=
  ⟨item.description, item.quantity, item.unitMinor⟩

namespace Db

/-- The line items stored for an invoice, in the order of their insertion. -/
def itemsOf (db : Db) (invoiceId : String) : List LineItem :=
  (db.invoiceItems.rows.filter (·.invoiceId == invoiceId)).map InvoiceItem.line

/-- The amount an invoice is stored with. -/
def billed (db : Db) (invoiceId : String) : Option Int64 :=
  (db.invoices.find? (·.id == invoiceId)).map (·.amountMinor)

/-- What is stored of an invoice. -/
def draftOf (db : Db) (invoiceId : String) : Option Int64 × List LineItem :=
  (db.billed invoiceId, db.itemsOf invoiceId)

end Db

/-- The invoice a statement inserts a row of. -/
def Statement.drafts : Statement → Option String
  | .insertInvoice columns => some columns.id
  | .insertInvoiceItem columns => some columns.invoiceId
  | _ => none

/-- The statements of a call that come after the header. -/
def Statement.completes : Statement → Bool
  | .insertInvoiceItem _ | .invoiceById _ => true
  | _ => false

def Request.drafts : Request → Option String
  | .createInvoice uuids _ => some ("inv_" ++ uuids.invoice)
  | _ => none

/-! ## Statements -/

namespace Db

variable {db before after : Db} {now : Timestamp} {invoiceId : String}

theorem billed_eq_none_iff :
    db.billed invoiceId = none ↔ ∀ invoice ∈ db.invoices, invoice.id ≠ invoiceId := by
  simp [billed, Table.find?, Table.mem_rows]

theorem itemsOf_eq_nil_iff :
    db.itemsOf invoiceId = [] ↔ ∀ item ∈ db.invoiceItems, item.invoiceId ≠ invoiceId := by
  simp [itemsOf, Table.mem_rows]

theorem draftOf_eq_none_iff : db.draftOf invoiceId = (none, []) ↔
    (∀ invoice ∈ db.invoices, invoice.id ≠ invoiceId) ∧
      ∀ item ∈ db.invoiceItems, item.invoiceId ≠ invoiceId := by
  rw [draftOf, Prod.mk.injEq, billed_eq_none_iff, itemsOf_eq_nil_iff]

theorem isSome_billed_iff :
    (db.billed invoiceId).isSome = true ↔ ∃ invoice ∈ db.invoices, invoice.id = invoiceId := by
  rw [← not_iff_not]
  simp [billed_eq_none_iff]

theorem billed_insertInvoice {columns : NewInvoice} {positive : 0 < columns.amountMinor}
    {invoices : Table Invoice}
    (stored : db.invoices.insert? (columns.row now positive) = some invoices) :
    billed { db with invoices } invoiceId =
      (db.billed invoiceId).or
        (if columns.id = invoiceId then some columns.amountMinor else none) := by
  simp only [billed, Table.find?_insert? _ stored]
  cases db.invoices.find? (·.id == invoiceId) with
  | some invoice => rfl
  | none =>
      by_cases own : columns.id = invoiceId
      · simp [NewInvoice.row, own]
      · simp [NewInvoice.row, own]

theorem billed_update {choose : Invoice → Bool} {set : Invoice → Invoice}
    (kept : ∀ invoice, key (set invoice) = key invoice)
    (sameId : ∀ invoice, (set invoice).id = invoice.id)
    (sameAmount : ∀ invoice, (set invoice).amountMinor = invoice.amountMinor) :
    billed { db with invoices := db.invoices.update choose set kept } invoiceId =
      db.billed invoiceId := by
  simp only [billed]
  rw [Table.find?_update kept fun invoice => by rw [sameId]]
  cases db.invoices.find? (·.id == invoiceId) with
  | none => rfl
  | some invoice =>
      simp only [Option.map_some]
      split
      · rw [sameAmount]
      · rfl

theorem itemsOf_insertInvoiceItem {columns : NewInvoiceItem} {invoiceItems : Table InvoiceItem}
    (stored : db.invoiceItems.insert? (columns.row now) = some invoiceItems) :
    itemsOf { db with invoiceItems } invoiceId =
      db.itemsOf invoiceId ++
        if columns.invoiceId = invoiceId then [(columns.row now).line] else [] := by
  simp only [itemsOf, Table.rows_insert? stored, List.filter_append, List.map_append]
  by_cases own : columns.invoiceId = invoiceId
  · simp [NewInvoiceItem.row, own]
  · simp [NewInvoiceItem.row, own]

theorem draftOf_insertInvoice {columns : NewInvoice}
    {stored : List LineItem} (absent : db.draftOf columns.id = (none, stored))
    (inserted : db.insertInvoice now columns = .ok after) :
    after.draftOf columns.id = (some columns.amountMinor, stored) := by
  obtain ⟨_, invoices, added, rfl⟩ := insertInvoice_ok inserted
  obtain ⟨header, items⟩ := Prod.ext_iff.mp absent
  refine Prod.ext ((billed_insertInvoice added).trans ?_) items
  rw [show db.billed columns.id = none from header, if_pos rfl]
  rfl

theorem draftOf_insertInvoiceItem {columns : NewInvoiceItem} {amount : Option Int64}
    {stored : List LineItem} (known : db.draftOf columns.invoiceId = (amount, stored))
    (inserted : db.insertInvoiceItem now columns = .ok after) :
    after.draftOf columns.invoiceId =
      (amount, stored ++ [⟨columns.description, columns.quantity, columns.unitMinor⟩]) := by
  obtain ⟨invoiceItems, added, rfl⟩ := insertInvoiceItem_ok inserted
  obtain ⟨header, items⟩ := Prod.ext_iff.mp known
  refine Prod.ext header ((itemsOf_insertInvoiceItem added).trans ?_)
  rw [show db.itemsOf columns.invoiceId = stored from items, if_pos rfl]
  rfl

/-- Only the statements that insert rows of an invoice change what is stored of it. -/
theorem draftOf_exec {op : Statement} {env : Env} {answer : op.Answer}
    (other : op.drafts ≠ some invoiceId) (executed : op.exec env before = .ok (answer, after)) :
    after.draftOf invoiceId = before.draftOf invoiceId := by
  cases op with
  | insertInvoice columns =>
      obtain ⟨positive, invoices, stored, rfl⟩ := insertInvoice_ok (Statement.stored_ok executed)
      have apart : columns.id ≠ invoiceId := fun same => other (congrArg some same)
      refine Prod.ext ((billed_insertInvoice stored).trans ?_) rfl
      rw [if_neg apart, Option.or_none]
      rfl
  | insertInvoiceItem columns =>
      obtain ⟨invoiceItems, stored, rfl⟩ := insertInvoiceItem_ok (Statement.stored_ok executed)
      have apart : columns.invoiceId ≠ invoiceId := fun same => other (congrArg some same)
      refine Prod.ext rfl ((itemsOf_insertInvoiceItem stored).trans ?_)
      rw [if_neg apart, List.append_nil]
      rfl
  | linkInvoice | settleInvoices =>
      cases executed
      refine Prod.ext (billed_update ?_ ?_ ?_) rfl
      · exact fun _ => rfl
      · exact fun _ => rfl
      · exact fun _ => rfl
  | ledgerTransaction writes =>
      obtain ⟨_, _, rfl⟩ := Statement.exec_differsAt executed
      rfl
  | insertCharge | setChargePaid | setChargeGateway | setChargeClaim | insertSmsEvent
  | insertAiParse | insertWebhook | webhookDelivered | webhookFailed | webhookRetry
  | insertPaymentLink | takeLinkUse | insertDomain | deleteDomain =>
      obtain ⟨_, rfl⟩ := Statement.exec_differsAt executed
      rfl
  | _ =>
      rw [Statement.exec_reads rfl executed]

theorem draftOf_reply {faults : Bool} {op : Statement} {reply : signature.Reply op}
    (other : op.drafts ≠ some invoiceId) (replied : sqlite.Replies faults op before reply after) :
    after.draftOf invoiceId = before.draftOf invoiceId := by
  rcases reply_cases replied with ⟨env, answer, executed, _⟩ | ⟨_, _, same⟩
  · exact draftOf_exec other executed
  · rw [same]

end Db

/-! ## The statements of a call -/

namespace Invoice

variable (uuids : InvoiceUuids) (req : CreateInvoice)

def newItem (index : Nat) (item : LineItem) : NewInvoiceItem where
  id := "itm_" ++ uuids.item index
  invoiceId := "inv_" ++ uuids.invoice
  description := item.description
  quantity := item.quantity
  unitMinor := item.unitMinor

def failedDraft (error : SqlError) : Response := .invoice (.error (.db error))

def drafted (found : Option Invoice) : Response :=
  .invoice (found.elim (.error .notFound) .ok)

/-- What is left to do once the items before `index` are stored. -/
def complete : Nat → List LineItem → Program signature Response
  | _, [] =>
      .issue (.invoiceById ("inv_" ++ uuids.invoice)) failedDraft fun found => .done (drafted found)
  | index, item :: rest =>
      .issue (.insertInvoiceItem (newItem uuids index item)) failedDraft fun _ =>
        complete (index + 1) rest

def draft : Program signature Response :=
  .issue (.insertInvoice (newInvoice uuids req)) failedDraft fun _ => complete uuids 0 req.items

variable {uuids req}

theorem complete_ne_done (index : Nat) (items : List LineItem) (response : Response) :
    complete uuids index items ≠ .done response := by
  intro ended
  cases items with
  | nil => cases ended
  | cons => cases ended

theorem run_insertItems_bind (index : Nat) (items : List LineItem) :
    (do
      insertItems ("inv_" ++ uuids.invoice) uuids.item index items
      match ← (get ("inv_" ++ uuids.invoice)).adapt InvoiceError.db with
      | some invoice => return invoice
      | none => throw .notFound : Query InvoiceError Invoice).run >>=
        (fun outcome => .done (.invoice outcome)) = complete uuids index items := by
  induction items generalizing index with
  | nil =>
      refine Program.stmt_congr fun found => ?_
      rcases found with error | found
      · rfl
      · cases found <;> rfl
  | cons item items ih =>
      refine Program.stmt_congr fun inserted => ?_
      cases inserted with
      | error error => rfl
      | ok _ => exact ih (index + 1)

theorem program_createInvoice (service : Service) :
    (Request.createInvoice uuids req).program service =
      if total req.items ≤ 0 then .done (.invoice (.error .invalidAmount))
      else draft uuids req := by
  change (create uuids req).run >>= _ = _
  simp only [create]
  split
  · rfl
  · refine Program.stmt_congr fun inserted => ?_
    cases inserted with
    | error error => rfl
    | ok _ => exact run_insertItems_bind 0 req.items

theorem uses_complete {allowed : Statement → Prop} (index : Nat) (items : List LineItem)
    (inserts : ∀ index item, allowed (.insertInvoiceItem (newItem uuids index item)))
    (finds : allowed (.invoiceById ("inv_" ++ uuids.invoice))) :
    (complete uuids index items).Uses allowed anyway := by
  induction items generalizing index with
  | nil => exact uses_issue finds (fun _ => trivial) fun _ => trivial
  | cons item items ih =>
      exact uses_issue (inserts index item) (fun _ => ih (index + 1)) fun _ => trivial

end Invoice

/-- A request inserts rows of no other invoice than its own. -/
theorem Request.uses_drafts (service : Service) (request : Request) :
    (request.program service).Uses
      (fun op : Statement => ∀ id, op.drafts = some id → request.drafts = some id) anyway := by
  cases request with
  | createInvoice uuids req =>
      rw [Invoice.program_createInvoice]
      split
      · trivial
      · refine uses_issue (fun _ => id) (fun _ => ?_) fun _ => trivial
        refine Invoice.uses_complete 0 req.items (fun _ _ _ => id) fun _ drafts => ?_
        cases drafts
  | _ =>
      refine (Request.uses_issues service _).mono (fun op issued id drafts => ?_) fun _ _ => trivial
      cases op <;> first | (cases issued; done) | cases drafts

namespace Invoice

/-! ## Stages of a call -/

/-- No statement of the call after its header has failed. -/
def Tidy (acts : List (Act signature Db)) : Prop :=
  ∀ act ∈ acts, act.op.completes = true → ∃ answer, act.reply = .ok answer

/-- What a call has executed so far, newest first, what it has left to do, and
what is stored of its invoice. -/
inductive Stage (uuids : InvoiceUuids) (req : CreateInvoice) :
    List (Act signature Db) → Program signature Response → Option Int64 × List LineItem →
      Prop where
  | asked (positive : 0 < total req.items) : Stage uuids req [] (draft uuids req) (none, [])
  | refused {acts : List (Act signature Db)} {error : InvoiceError}
      (invalid : error = .invalidAmount ↔ total req.items ≤ 0) (tidy : Tidy acts) :
      Stage uuids req acts (.done (.invoice (.error error))) (none, [])
  | drafting {acts : List (Act signature Db)} {stored rest : List LineItem}
      (positive : 0 < total req.items) (split : req.items = stored ++ rest) (tidy : Tidy acts) :
      Stage uuids req acts (complete uuids stored.length rest) (some (total req.items), stored)
  | drafted {acts : List (Act signature Db)} {invoice : Invoice}
      (positive : 0 < total req.items) (tidy : Tidy acts) :
      Stage uuids req acts (.done (.invoice (.ok invoice))) (some (total req.items), req.items)
  | broken {acts : List (Act signature Db)} {stored : List LineItem} {error : SqlError}
      (positive : 0 < total req.items) (cut : stored <+: req.items) (untidy : ¬Tidy acts) :
      Stage uuids req acts (.done (failedDraft error)) (some (total req.items), stored)

variable {uuids : InvoiceUuids} {req : CreateInvoice} {acts : List (Act signature Db)}

theorem tidy_nil : Tidy [] := fun _ member => absurd member List.not_mem_nil

theorem Tidy.cons {act : Act signature Db} (tidy : Tidy acts)
    (completes : act.op.completes = true → ∃ answer, act.reply = .ok answer) :
    Tidy (act :: acts) := by
  intro other member
  rcases List.mem_cons.mp member with rfl | older
  · exact completes
  · exact tidy other older

theorem not_tidy_of_failed {act : Act signature Db} {error : SqlError}
    (completes : act.op.completes = true) (failed : act.reply = .error error) :
    ¬Tidy (act :: acts) := by
  intro tidy
  obtain ⟨answer, answered⟩ := tidy act List.mem_cons_self completes
  rw [failed] at answered
  cases answered

theorem stage_start (service : Service) : Stage uuids req []
    ((Request.createInvoice uuids req).program service) (none, []) := by
  rw [program_createInvoice]
  split
  · rename_i nonpositive
    exact .refused (iff_of_true rfl nonpositive) tidy_nil
  · rename_i positive
    exact .asked (Int64.not_le.mp positive)

variable {faults : Bool} {before after : Db}

theorem tidy_header {reply : signature.Reply (.insertInvoice (newInvoice uuids req))} :
    Tidy [⟨.insertInvoice (newInvoice uuids req), reply, before, after⟩] := by
  refine tidy_nil.cons fun completes => ?_
  cases completes

/-- A statement takes the call to its next stage. -/
theorem Stage.step {op : Statement} {reply : signature.Reply op}
    {next : signature.Reply op → Program signature Response}
    (stage : Stage uuids req acts (.stmt op next) (before.draftOf ("inv_" ++ uuids.invoice)))
    (replied : sqlite.Replies faults op before reply after) :
    Stage uuids req (⟨op, reply, before, after⟩ :: acts) (next reply)
      (after.draftOf ("inv_" ++ uuids.invoice)) := by
  generalize waiting : (.stmt op next : Program signature Response) = program at stage
  generalize known : before.draftOf ("inv_" ++ uuids.invoice) = draft at stage
  cases stage with
  | refused | drafted | broken => cases waiting
  | asked positive =>
      cases waiting
      rcases reply_cases replied with ⟨env, answer, executed, rfl⟩ | ⟨error, rfl, rfl⟩
      · have header : after.draftOf ("inv_" ++ uuids.invoice) = (some (total req.items), []) :=
          Db.draftOf_insertInvoice known (Statement.stored_ok executed)
        have later : Stage uuids req
            [⟨.insertInvoice (newInvoice uuids req), .ok answer, before, after⟩]
            (complete uuids ([] : List LineItem).length req.items)
            (some (total req.items), []) := .drafting positive rfl tidy_header
        rw [header]
        exact later
      · rw [known]
        refine .refused (iff_of_false (fun invalid => ?_) (Int64.not_le.mpr positive)) tidy_header
        cases invalid
  | @drafting _ stored rest positive split tidy =>
      cases rest with
      | nil =>
          cases waiting
          have whole : stored = req.items := by simpa using split.symm
          rcases reply_cases replied with ⟨env, answer, executed, rfl⟩ | ⟨error, rfl, rfl⟩
          · cases executed
            have header : before.billed ("inv_" ++ uuids.invoice) = some (total req.items) :=
              congrArg Prod.fst known
            obtain ⟨invoice, found, _⟩ := Option.map_eq_some_iff.mp header
            rw [known, whole]
            change Stage uuids req _ (.done (Invoice.drafted (before.invoices.find? _))) _
            rw [found]
            exact .drafted positive (tidy.cons fun _ => ⟨_, rfl⟩)
          · rw [known]
            exact .broken positive ⟨[], by simp [whole]⟩ (not_tidy_of_failed rfl rfl)
      | cons item rest =>
          cases waiting
          rcases reply_cases replied with ⟨env, answer, executed, rfl⟩ | ⟨error, rfl, rfl⟩
          · have grown : after.draftOf ("inv_" ++ uuids.invoice) =
                (some (total req.items), stored ++ [item]) :=
              Db.draftOf_insertInvoiceItem known (Statement.stored_ok executed)
            have later : Stage uuids req
                (⟨.insertInvoiceItem (newItem uuids stored.length item), .ok answer, before,
                  after⟩ :: acts)
                (complete uuids (stored ++ [item]).length rest)
                (some (total req.items), stored ++ [item]) :=
              .drafting positive (by simp [split]) (tidy.cons fun _ => ⟨_, rfl⟩)
            rw [grown]
            rwa [List.length_append] at later
          · rw [known]
            exact .broken positive ⟨item :: rest, split.symm⟩ (not_tidy_of_failed rfl rfl)

end Invoice

/-! ## Runs -/

section Pool

variable {Thread : Type} [DecidableEq Thread] {service : Service} {requests : Thread → Request}
  {faults : Bool} {past : List (Event signature Db Thread Response)}
  {config : Config signature Db Thread Response}

/-- The calls draw different identifiers for their invoices. -/
def DistinctInvoices (requests : Thread → Request) : Prop :=
  ∀ left right id, (requests left).drafts = some id → (requests right).drafts = some id →
    left = right

theorem stage_of_run (distinct : DistinctInvoices requests)
    (run : Run sqlite faults (service.pool Db.empty requests) past config) {thread : Thread}
    {uuids : InvoiceUuids} {req : CreateInvoice}
    (asked : requests thread = .createInvoice uuids req) :
    Invoice.Stage uuids req (log past thread) (config.threads thread)
      (config.store.draftOf ("inv_" ++ uuids.invoice)) := by
  have own : (requests thread).drafts = some ("inv_" ++ uuids.invoice) := by
    rw [asked]
    rfl
  have others : ∀ other, other ≠ thread → ((requests other).program service).Uses
      (fun op : Statement => op.drafts ≠ some ("inv_" ++ uuids.invoice)) anyway := by
    intro other different
    refine (Request.uses_drafts service (requests other)).mono (fun op drafts same => ?_)
      fun _ _ => trivial
    exact different (distinct _ _ _ (drafts _ same) own)
  refine (run.secluded others Db.draftOf_reply ?_ Invoice.Stage.step).1
  change Invoice.Stage uuids req [] ((requests thread).program service) (none, [])
  rw [asked]
  exact Invoice.stage_start service

end Pool

end SpritexPay
