import SpritexPay.Drafting

/-! Invoices that are drafted in part. The header and the items are inserted one
by one and not in a transaction, so a call that fails after its header leaves the
header, and the items it had come to, behind. -/

set_option autoImplicit false

namespace SpritexPay

open Relational Resumption

namespace Invoice

variable {uuids : InvoiceUuids} {req : CreateInvoice} {acts : List (Act signature Db)}
  {program : Program signature Response} {stored : Option Int64 × List LineItem}

/-- A call that has failed has left nothing, exactly when no statement after its
header has failed. -/
theorem Stage.vanishes_iff (stage : Stage uuids req acts program stored) :
    (∀ error, program = .done (.invoice (.error error)) → stored = (none, [])) ↔ Tidy acts := by
  cases stage with
  | asked => exact iff_of_true (fun _ ended => by cases ended) tidy_nil
  | refused _ tidy => exact iff_of_true (fun _ _ => rfl) tidy
  | drafting _ _ tidy =>
      exact iff_of_true (fun _ ended => absurd ended (complete_ne_done _ _ _)) tidy
  | drafted _ tidy => exact iff_of_true (fun _ ended => by cases ended) tidy
  | broken _ _ untidy =>
      refine iff_of_false (fun vanishes => ?_) untidy
      cases vanishes _ rfl

/-- While no statement after the header fails, an invoice that is stored has the
first of its lines, and all of them once the call has ended. -/
theorem Stage.whole (stage : Stage uuids req acts program stored) (tidy : Tidy acts)
    (header : stored.1.isSome = true) :
    stored.2 <+: req.items ∧ ∀ response, program = .done response → stored.2 = req.items := by
  cases stage with
  | asked | refused => cases header
  | @drafting _ _ rest _ split =>
      exact ⟨⟨rest, split.symm⟩, fun _ ended => absurd ended (complete_ne_done _ _ _)⟩
  | drafted => exact ⟨List.prefix_rfl, fun _ _ => rfl⟩
  | broken _ _ untidy => exact absurd tidy untidy

end Invoice

section Pool

variable {Thread : Type} [DecidableEq Thread] {service : Service} {requests : Thread → Request}
  {faults : Bool} {past : List (Event signature Db Thread Response)}
  {config : Config signature Db Thread Response}

/-- Every invoice is drafted by a call. -/
theorem drafter_of_run (run : Run sqlite faults (service.pool Db.empty requests) past config)
    {invoice : Invoice} (member : invoice ∈ config.store.invoices) :
    ∃ thread uuids req, requests thread = .createInvoice uuids req ∧
      invoice.id = "inv_" ++ uuids.invoice := by
  by_contra undrafted
  have aloof : ∀ thread, ((requests thread).program service).Uses
      (fun op : Statement => op.drafts ≠ some invoice.id) anyway := by
    intro thread
    refine (Request.uses_drafts service (requests thread)).mono (fun op drafts same => ?_)
      fun _ _ => trivial
    have own := drafts _ same
    cases asked : requests thread with
    | createInvoice uuids req =>
        rw [asked] at own
        exact undrafted ⟨thread, uuids, req, asked, (Option.some.inj own).symm⟩
    | _ =>
        rw [asked] at own
        cases own
  have untouched := run.untouched aloof Db.draftOf_reply
  exact (Db.draftOf_eq_none_iff.mp untouched).1 invoice member rfl

/-- The calls that draft invoices run as they will, and any statement may fail.
A call that fails leaves nothing behind, exactly when no statement after its
header has failed; and where this is so of every call, every stored invoice has
the lines it was drafted with as soon as its call has ended. -/
theorem drafts_whole_iff (distinct : DistinctInvoices requests)
    (run : Run sqlite faults (service.pool Db.empty requests) past config) :
    (∀ thread uuids req, requests thread = .createInvoice uuids req →
      ((∀ error, config.threads thread = .done (.invoice (.error error)) →
          (∀ invoice ∈ config.store.invoices, invoice.id ≠ "inv_" ++ uuids.invoice) ∧
            ∀ item ∈ config.store.invoiceItems, item.invoiceId ≠ "inv_" ++ uuids.invoice) ↔
        Invoice.Tidy (log past thread))) ∧
    ((∀ thread uuids req, requests thread = .createInvoice uuids req →
        Invoice.Tidy (log past thread)) →
      ∀ invoice ∈ config.store.invoices, ∃ thread uuids req,
        requests thread = .createInvoice uuids req ∧ invoice.id = "inv_" ++ uuids.invoice ∧
          config.store.itemsOf invoice.id <+: req.items ∧
          ∀ response, config.threads thread = .done response →
            config.store.itemsOf invoice.id = req.items) := by
  constructor
  · intro thread uuids req asked
    have stage := stage_of_run distinct run asked
    rw [← stage.vanishes_iff]
    simp only [Db.draftOf_eq_none_iff]
  · intro tidy invoice member
    obtain ⟨thread, uuids, req, asked, own⟩ := drafter_of_run run member
    have stage := stage_of_run distinct run asked
    obtain ⟨first, whole⟩ :=
      stage.whole (tidy thread uuids req asked) (Db.isSome_billed_iff.mpr ⟨invoice, member, own⟩)
    rw [own]
    exact ⟨thread, uuids, req, asked, rfl, first, whole⟩

end Pool

/-- One call that drafts an invoice of two lines. -/
def twoLines : Config signature Db Unit Response :=
  sampleService.pool Db.empty fun _ => .createInvoice ⟨"1", fun index => toString index⟩
    ⟨none, none, none, [⟨"T-shirt", 2, 50000⟩, ⟨"Cap", 1, 20000⟩]⟩

theorem drafts_whole_iff_sample : ∃ past config, Run sqlite true twoLines past config ∧
    ∀ invoice ∈ config.store.invoices,
      config.store.itemsOf invoice.id = [⟨"T-shirt", 2, 50000⟩, ⟨"Cap", 1, 20000⟩] := by
  have run := Run.scheduled sqlite true twoLines sampleEnv [(), (), (), ()]
  obtain ⟨vanishes, whole⟩ := drafts_whole_iff (fun _ _ _ _ _ => rfl) run
  obtain ⟨invoice, ended⟩ : ∃ invoice, (twoLines.schedule sqlite sampleEnv
      [(), (), (), ()]).threads () = .done (.invoice (.ok invoice)) := ⟨_, rfl⟩
  have tidy := (vanishes () _ _ rfl).mp fun error failed => by
    rw [ended] at failed
    cases failed
  refine ⟨_, _, run, fun invoice member => ?_⟩
  obtain ⟨_, _, _, asked, _, _, complete⟩ := whole (fun _ _ _ asked => tidy) invoice member
  cases asked
  exact complete _ ended

/-- The database fails at the second line. The customer is billed for both, and
the invoice lists one. -/
theorem half_drafted : ∃ past config error, Run sqlite true twoLines past config ∧
    config.threads () = .done (.invoice (.error error)) ∧
    config.store.billed "inv_1" = some 120000 ∧
    config.store.itemsOf "inv_1" = [⟨"T-shirt", 2, 50000⟩] := by
  have run := Run.scheduled sqlite true twoLines sampleEnv [(), ()]
  obtain ⟨op, next, waiting, failed⟩ : ∃ op next, (twoLines.schedule sqlite sampleEnv
      [(), ()]).threads () = .stmt op next ∧
        next (.error sqlite.fault) = Program.done (Invoice.failedDraft .unavailable) :=
    ⟨_, _, rfl, rfl⟩
  have header : (twoLines.schedule sqlite sampleEnv [(), ()]).store.billed "inv_1" =
      some 120000 := by
    decide +kernel
  have items : (twoLines.schedule sqlite sampleEnv [(), ()]).store.itemsOf "inv_1" =
      [⟨"T-shirt", 2, 50000⟩] := by
    decide +kernel
  refine ⟨_, _, .db .unavailable, run.step waiting (.fault rfl), ?_, header, items⟩
  simpa [Invoice.failedDraft] using failed

end SpritexPay
