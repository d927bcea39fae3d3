import SpritexPay.Drafting
import Mathlib.Algebra.Ring.Int.Defs

/-! The total of an invoice. Products and running sum wrap at the 64th bit and
only the sign of what is left is looked at, so the stored amount is the exact sum
of the lines as long as that sum is an amount, or wraps to none. -/

set_option autoImplicit false

namespace SpritexPay

open Relational Resumption

/-- The price of a line, without a width. -/
def LineItem.price (item : LineItem) : Int := item.quantity.toInt * item.unitMinor.toInt

namespace Invoice

def exactTotal (items : List LineItem) : Int := (items.map LineItem.price).sum

/-- A positive number of 64 bits. -/
def Payable (total : Int) : Prop := 0 < total ∧ total ≤ Int64.maxValue.toInt

theorem exactTotal_cons (item : LineItem) (items : List LineItem) :
    exactTotal (item :: items) = item.price + exactTotal items := List.sum_cons

theorem ofInt_price (item : LineItem) :
    Int64.ofInt item.price = item.quantity * item.unitMinor := by
  rw [LineItem.price, Int64.ofInt_mul, Int64.ofInt_toInt, Int64.ofInt_toInt]

theorem foldl_total (items : List LineItem) (sum : Int64) :
    items.foldl (fun sum item => sum + item.quantity * item.unitMinor) sum =
      sum + Int64.ofInt (exactTotal items) := by
  induction items generalizing sum with
  | nil => exact (Int64.add_zero sum).symm
  | cons item items ih =>
      rw [List.foldl_cons, ih, exactTotal_cons, Int64.ofInt_add, ofInt_price, Int64.add_assoc]

/-- The total is the exact one, wrapped. -/
theorem toInt_total (items : List LineItem) :
    (total items).toInt = (exactTotal items).bmod (2 ^ 64) := by
  rw [total, foldl_total, Int64.zero_add, Int64.toInt_ofInt]
  rfl

theorem total_nonpos_iff (items : List LineItem) :
    total items ≤ 0 ↔ (exactTotal items).bmod (2 ^ 64) ≤ 0 := by
  rw [Int64.le_iff_toInt_le, toInt_total]
  rfl

theorem bmod_of_payable {exact : Int} (payable : Payable exact) : exact.bmod (2 ^ 64) = exact := by
  have range : Int64.maxValue.toInt = 2 ^ 63 - 1 := by decide
  obtain ⟨positive, most⟩ := payable
  exact Int.bmod_eq_of_le (by omega) (by omega)

/-- What a positive total has to do with the exact one. -/
theorem payable_iff_of_pos {items : List LineItem} (positive : 0 < total items) :
    Payable (exactTotal items) ↔ (total items).toInt = exactTotal items := by
  have least : 0 < (total items).toInt := Int64.lt_iff_toInt_lt.mp positive
  constructor
  · intro payable
    rw [toInt_total, bmod_of_payable payable]
  · intro same
    rw [← same]
    exact ⟨least, (total items).toInt_le⟩

end Invoice

/-- The total of a call is as it should be: what is stored is the exact sum of
the stored lines, and a sum that is no amount is refused with nothing stored. -/
structure Response.Exact (response : Response) (uuids : InvoiceUuids) (req : CreateInvoice)
    (db : Db) : Prop where
  stored : ∀ invoice, response = .invoice (.ok invoice) →
    ∃ amount, db.billed ("inv_" ++ uuids.invoice) = some amount ∧
      amount.toInt = Invoice.exactTotal (db.itemsOf ("inv_" ++ uuids.invoice))
  refused : ¬Invoice.Payable (Invoice.exactTotal req.items) →
    response = .invoice (.error .invalidAmount) ∧
      db.draftOf ("inv_" ++ uuids.invoice) = (none, [])

namespace Invoice

variable {uuids : InvoiceUuids} {req : CreateInvoice} {db : Db} {response : Response}

/-- A call that goes past the total is exact for the totals that are amounts. -/
theorem exact_iff_of_pos (positive : 0 < total req.items)
    (accepted : response ≠ .invoice (.error .invalidAmount))
    (stored : ∀ invoice, response = .invoice (.ok invoice) →
      db.draftOf ("inv_" ++ uuids.invoice) = (some (total req.items), req.items)) :
    response.Exact uuids req db ↔ Payable (exactTotal req.items) := by
  constructor
  · intro exact
    by_contra unpayable
    exact accepted (exact.refused unpayable).1
  · intro payable
    refine ⟨fun invoice succeeded => ?_, fun unpayable => absurd payable unpayable⟩
    obtain ⟨header, items⟩ := Prod.ext_iff.mp (stored invoice succeeded)
    refine ⟨total req.items, header, ?_⟩
    rw [show db.itemsOf _ = req.items from items]
    exact (payable_iff_of_pos positive).mp payable

theorem exact_iff_of_stage {acts : List (Act signature Db)}
    (stage : Stage uuids req acts (.done response) (db.draftOf ("inv_" ++ uuids.invoice))) :
    response.Exact uuids req db ↔
      Payable (exactTotal req.items) ∨ (exactTotal req.items).bmod (2 ^ 64) ≤ 0 := by
  have only : 0 < total req.items → (Payable (exactTotal req.items) ∨
      (exactTotal req.items).bmod (2 ^ 64) ≤ 0 ↔ Payable (exactTotal req.items)) := by
    intro positive
    rw [← total_nonpos_iff]
    exact or_iff_left (Int64.not_le.mpr positive)
  generalize ended : (.done response : Program signature Response) = program at stage
  generalize known : db.draftOf ("inv_" ++ uuids.invoice) = draft at stage
  cases stage with
  | asked => cases ended
  | drafting => exact absurd ended.symm (complete_ne_done _ _ _)
  | @refused _ error invalid =>
      cases ended
      by_cases nonpositive : total req.items ≤ 0
      · have wrapped := (total_nonpos_iff req.items).mp nonpositive
        refine iff_of_true ⟨fun invoice succeeded => ?_, fun _ => ⟨?_, known⟩⟩ (.inr wrapped)
        · cases succeeded
        · rw [invalid.mpr nonpositive]
      · have positive := Int64.not_le.mp nonpositive
        rw [only positive]
        refine exact_iff_of_pos positive (fun same => ?_) fun invoice succeeded => ?_
        · cases same
          exact nonpositive (invalid.mp rfl)
        · cases succeeded
  | drafted positive =>
      cases ended
      rw [only positive]
      refine exact_iff_of_pos positive (fun same => ?_) fun _ _ => known
      cases same
  | broken positive =>
      cases ended
      rw [only positive]
      refine exact_iff_of_pos positive (fun same => ?_) fun invoice succeeded => ?_
      · cases same
      · cases succeeded

end Invoice

section Pool

variable {Thread : Type} [DecidableEq Thread] {service : Service} {requests : Thread → Request}
  {faults : Bool} {past : List (Event signature Db Thread Response)}
  {config : Config signature Db Thread Response}

/-- The total of a finished call is exact if and only if the exact sum of its
lines is an amount, or is wrapped to none. -/
theorem total_exact_iff (distinct : DistinctInvoices requests)
    (run : Run sqlite faults (service.pool Db.empty requests) past config) {thread : Thread}
    {uuids : InvoiceUuids} {req : CreateInvoice}
    (asked : requests thread = .createInvoice uuids req) {response : Response}
    (ended : config.threads thread = .done response) :
    response.Exact uuids req config.store ↔
      Invoice.Payable (Invoice.exactTotal req.items) ∨
        (Invoice.exactTotal req.items).bmod (2 ^ 64) ≤ 0 := by
  have stage := stage_of_run distinct run asked
  rw [ended] at stage
  exact Invoice.exact_iff_of_stage stage

end Pool

def hasDrafted : Program signature Response → Bool
  | .done (.invoice (.ok _)) => true
  | _ => false

theorem drafted_of_hasDrafted {program : Program signature Response}
    (drafted : hasDrafted program = true) :
    ∃ invoice, program = .done (.invoice (.ok invoice)) := by
  unfold hasDrafted at drafted
  split at drafted
  · exact ⟨_, rfl⟩
  · cases drafted

/-- One call that drafts an invoice of these lines. -/
def sampleDraft (items : List LineItem) : Config signature Db Unit Response :=
  sampleService.pool Db.empty fun _ =>
    .createInvoice ⟨"1", fun index => toString index⟩ ⟨none, none, none, items⟩

def shirtAndCap : List LineItem := [⟨"T-shirt", 2, 50000⟩, ⟨"Cap", 1, 20000⟩]

theorem total_exact_iff_sample : ∃ past config, Run sqlite false (sampleDraft shirtAndCap) past
    config ∧ ∃ amount, config.store.billed "inv_1" = some amount ∧
      amount.toInt = Invoice.exactTotal (config.store.itemsOf "inv_1") := by
  have run := Run.scheduled sqlite false (sampleDraft shirtAndCap) sampleEnv [(), (), (), ()]
  obtain ⟨invoice, ended⟩ := drafted_of_hasDrafted (show hasDrafted (((sampleDraft
    shirtAndCap).schedule sqlite sampleEnv [(), (), (), ()]).threads ()) = true by decide +kernel)
  have exact := (total_exact_iff (fun _ _ _ _ _ => rfl) run rfl ended).mpr
    (.inl ⟨by decide +kernel, by decide +kernel⟩)
  exact ⟨_, _, run, exact.stored invoice rfl⟩

/-- Four times 2^62 and a hundred: the first product wraps to zero. -/
def fortune : List LineItem := [⟨"Fortune", 4, 4611686018427387904⟩, ⟨"Change", 1, 100⟩]

theorem fortune_billed_as_change : ∃ past config invoice,
    Run sqlite false (sampleDraft fortune) past config ∧
      config.threads () = .done (.invoice (.ok invoice)) ∧
      config.store.billed "inv_1" = some 100 ∧
      Invoice.exactTotal (config.store.itemsOf "inv_1") = 2 ^ 64 + 100 := by
  have run := Run.scheduled sqlite false (sampleDraft fortune) sampleEnv [(), (), (), ()]
  obtain ⟨invoice, ended⟩ := drafted_of_hasDrafted (show hasDrafted (((sampleDraft
    fortune).schedule sqlite sampleEnv [(), (), (), ()]).threads ()) = true by decide +kernel)
  exact ⟨_, _, invoice, run, ended, by decide +kernel, by decide +kernel⟩

end SpritexPay
