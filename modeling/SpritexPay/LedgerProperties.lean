import SpritexPay.BooksProperties
import Mathlib.Algebra.BigOperators.Group.Finset.Piecewise

/-! The ledger of a deployment that only posts. A posting is followed statement
by statement, inside the database transaction that rolls it back when one of them
fails. The balance check adds in 64 bits, so it accepts what is balanced modulo
2 ^ 64; where the sums are exact, so is the ledger. -/

set_option autoImplicit false

namespace SpritexPay

open Relational Resumption

def exactSum (entries : List Entry) : Int := (entries.map (·.amountMinor.toInt)).sum

/-! ## Sums in 64 bits -/

theorem wrappedSum_eq (entries : List Entry) (start : Int64) :
    entries.foldl (fun total entry => total + entry.amountMinor) start =
      start + Int64.ofInt (exactSum entries) := by
  induction entries generalizing start with
  | nil => simp [exactSum]
  | cons entry entries ih =>
      have split : exactSum (entry :: entries) = entry.amountMinor.toInt + exactSum entries := by
        simp [exactSum]
      rw [List.foldl_cons, ih, split, Int64.ofInt_add, Int64.ofInt_toInt, Int64.add_assoc]

theorem wrappedSum_eq_zero_iff (entries : List Entry) :
    entries.foldl (fun total entry => total + entry.amountMinor) 0 = (0 : Int64) ↔
      (2 : Int) ^ 64 ∣ exactSum entries := by
  rw [wrappedSum_eq, Int64.zero_add, ← Int64.toInt_inj, Int64.toInt_ofInt]
  exact Int.dvd_iff_bmod_eq_zero.symm

/-! ## Statement by statement -/

structure PostCall where
  txnId : String
  reference : String
  memo : String
  entries : List Entry

/-- What becomes of the statements of a posting: whether the transaction opens,
when each statement is executed or that it fails for an outside reason, and
whether the transaction commits. -/
structure PostPlan where
  opens : Bool
  timings : List (Option Timestamp)
  commits : Bool

namespace Ledger

def check (entries : List Entry) : Except LedgerError Unit :=
  if entries.length < 2 then .error .tooFewEntries
  else
    let sum := entries.foldl (fun total entry => total + entry.amountMinor) 0
    if sum ≠ 0 then .error (.unbalanced sum) else .ok ()

/-- Execute the statements of a transaction on a copy of the database that nothing
else sees. -/
def execute : List LedgerWrite → List (Option Timestamp) → Db → Except SqlError Db
  | [], _, working => .ok working
  | write :: writes, some now :: later, working => do
      execute writes later (← Db.ledgerWrite now working write)
  | _ :: _, _, _ => .error .unavailable

def postUnder (plan : PostPlan) (call : PostCall) (db : Db) : Except LedgerError Unit × Db :=
  match check call.entries with
  | .error error => (.error error, db)
  | .ok () =>
      if plan.opens then
        match execute (Db.postingWrites call.txnId call.reference call.memo call.entries)
          plan.timings db with
        | .error error => (.error (.db error), db)
        | .ok working =>
            if plan.commits then (.ok (), working) else (.error (.db .unavailable), db)
      else (.error (.db .unavailable), db)

theorem post_eq (txnId reference memo : String) (entries : List Entry) :
    post txnId reference memo entries =
      match check entries with
      | .error error => throw error
      | .ok () => sql (.ledgerTransaction (Db.postingWrites txnId reference memo entries)) := by
  unfold post check
  split
  · rfl
  · simp only
    split <;> rfl

theorem execute_at_once (writes : List LedgerWrite) (now : Timestamp) (db : Db) :
    execute writes (writes.map fun _ => some now) db = writes.foldlM (Db.ledgerWrite now) db := by
  induction writes generalizing db with
  | nil => rfl
  | cons write writes ih =>
      rw [List.map_cons, execute, List.foldlM_cons]
      cases Db.ledgerWrite now db write with
      | error error => rfl
      | ok after => exact ih after

/-- A posting in one atomic statement is one whose statements all are executed at
the same time. -/
theorem postUnder_of_runs {call : PostCall} {db after : Db} {outcome : Except LedgerError Unit}
    (runs : sqlite.Runs (post call.txnId call.reference call.memo call.entries).run db outcome
      after) : ∃ plan, postUnder plan call db = (outcome, after) := by
  rw [post_eq] at runs
  unfold postUnder
  cases checked : check call.entries with
  | error error =>
      rw [checked] at runs
      obtain ⟨rfl, rfl⟩ := Machine.runs_done_iff.mp runs
      exact ⟨⟨true, [], true⟩, rfl⟩
  | ok _ =>
      rw [checked] at runs
      obtain ⟨env, rest⟩ := Machine.runs_stmt_iff.mp runs
      let writes := Db.postingWrites call.txnId call.reference call.memo call.entries
      refine ⟨⟨true, writes.map fun _ => some env.now, true⟩, ?_⟩
      simp only [if_true]
      rw [execute_at_once writes]
      cases written : writes.foldlM (Db.ledgerWrite env.now) db with
      | error error =>
          have executed : sqlite.exec env (.ledgerTransaction writes) db = .error error := by
            simp only [sqlite, Statement.exec, written]
            rfl
          rw [Machine.apply_error executed] at rest
          obtain ⟨rfl, rfl⟩ := Machine.runs_done_iff.mp rest
          rfl
      | ok working =>
          have executed : sqlite.exec env (.ledgerTransaction writes) db = .ok ((), working) := by
            simp only [sqlite, Statement.exec, written]
            rfl
          rw [Machine.apply_ok executed] at rest
          obtain ⟨rfl, rfl⟩ := Machine.runs_done_iff.mp rest
          rfl

theorem execute_entries {txnId : String} {entries : List Entry}
    {timings : List (Option Timestamp)} {db after : Db}
    (executed : execute (entries.map (.insertEntry txnId)) timings db = .ok after) :
    ∃ rows : List LedgerEntry, after = { db with ledgerEntries := db.ledgerEntries ++ rows } ∧
      (∀ row ∈ rows, row.txnId = txnId) ∧
      rows.map (fun row => ⟨row.account, row.amountMinor, row.currency⟩) = entries := by
  induction entries generalizing timings db with
  | nil =>
      cases executed
      exact ⟨[], by simp, by simp, rfl⟩
  | cons entry entries ih =>
      match timings with
      | [] | none :: _ => cases executed
      | some now :: later =>
          rw [List.map_cons, execute] at executed
          simp only [Db.ledgerWrite] at executed
          split at executed
          · obtain ⟨rows, rfl, owned, spelled⟩ := ih executed
            refine ⟨entry.row txnId now :: rows, ?_, ?_, ?_⟩
            · simp [Entry.row]
            · simpa [Entry.row] using owned
            · simp [Entry.row, spelled]
          · cases executed

theorem check_ok {entries : List Entry} (checked : check entries = .ok ()) :
    2 ≤ entries.length ∧ (2 : Int) ^ 64 ∣ exactSum entries := by
  unfold check at checked
  split at checked
  · cases checked
  · rename_i enough
    simp only at checked
    split at checked
    · cases checked
    · rename_i balanced
      exact ⟨by omega, (wrappedSum_eq_zero_iff entries).mp (not_ne_iff.mp balanced)⟩

/-- A posting that returns an error leaves the database as it was; any other
inserts one transaction with the entries it was given. -/
theorem postUnder_cases (plan : PostPlan) (call : PostCall) (db : Db) :
    (∃ error, postUnder plan call db = (.error error, db)) ∨
      check call.entries = .ok () ∧
      ∃ now ledgerTransactions rows,
        db.ledgerTransactions.insert? ⟨call.txnId, call.reference, call.memo, now⟩ =
          some ledgerTransactions ∧
        (∀ row ∈ rows, row.txnId = call.txnId) ∧
        rows.map (fun row => ⟨row.account, row.amountMinor, row.currency⟩) = call.entries ∧
        postUnder plan call db = (.ok (), { db with
          ledgerTransactions
          ledgerEntries := db.ledgerEntries ++ rows }) := by
  unfold postUnder
  cases checked : check call.entries with
  | error error => exact .inl ⟨error, rfl⟩
  | ok _ =>
      simp only
      split
      swap
      · exact .inl ⟨_, rfl⟩
      cases executed : execute (Db.postingWrites call.txnId call.reference call.memo call.entries)
        plan.timings db with
      | error error => exact .inl ⟨_, rfl⟩
      | ok working =>
          simp only
          split
          swap
          · exact .inl ⟨_, rfl⟩
          refine .inr ⟨trivial, ?_⟩
          unfold Db.postingWrites at executed
          match timings : plan.timings with
          | [] | none :: _ =>
              rw [timings] at executed
              cases executed
          | some now :: later =>
              rw [timings, execute] at executed
              simp only [Db.ledgerWrite] at executed
              cases stored : db.ledgerTransactions.insert?
                ⟨call.txnId, call.reference, call.memo, now⟩ with
              | none =>
                  rw [stored] at executed
                  cases executed
              | some ledgerTransactions =>
                  rw [stored] at executed
                  obtain ⟨rows, rfl, owned, spelled⟩ := execute_entries executed
                  exact ⟨now, ledgerTransactions, rows, stored, owned, spelled, rfl⟩

end Ledger

/-! ## Runs -/

/-- Postings one after the other, newest first, on a new database. -/
inductive PostRun : List PostCall → Db → Prop where
  | start : PostRun [] Db.empty
  | post {past : List PostCall} {db : Db} (call : PostCall) (plan : PostPlan)
      (earlier : PostRun past db) : PostRun (call :: past) (Ledger.postUnder plan call db).2

/-- The entries do not add up to another multiple of 2 ^ 64 than zero. -/
def PostCall.Exact (call : PostCall) : Prop :=
  (2 : Int) ^ 64 ∣ exactSum call.entries → exactSum call.entries = 0

namespace Db

def balance (db : Db) (account : String) : Int :=
  total (·.account == account) (·.amountMinor.toInt) db.ledgerEntries

def accounts (db : Db) : Finset String := (db.ledgerEntries.map (·.account)).toFinset

structure Balanced (db : Db) : Prop where
  known : ∀ entry ∈ db.ledgerEntries, ∃ txn ∈ db.ledgerTransactions, entry.txnId = txn.id
  enough : ∀ txn ∈ db.ledgerTransactions, 2 ≤ (db.entriesOf txn.id).length
  zero : ∀ txn ∈ db.ledgerTransactions, exactSum (db.entriesOf txn.id) = 0
  whole : (db.ledgerEntries.map (·.amountMinor.toInt)).sum = 0

theorem balanced_empty : Db.empty.Balanced := ⟨by simp [Db.empty], by simp [Db.empty],
  by simp [Db.empty], rfl⟩

theorem sum_balances (accounts : Finset String) {rows : List LedgerEntry}
    (covered : ∀ row ∈ rows, row.account ∈ accounts) :
    ∑ account ∈ accounts, total (·.account == account) (·.amountMinor.toInt) rows =
      (rows.map (·.amountMinor.toInt)).sum := by
  induction rows with
  | nil => simp
  | cons row rows ih =>
      obtain ⟨own, rest⟩ := List.forall_mem_cons.mp covered
      simp only [total_cons, Finset.sum_add_distrib, ih rest, beq_iff_eq, List.map_cons,
        List.sum_cons]
      rw [Finset.sum_ite_eq, if_pos own]

variable {db : Db} {call : PostCall} {now : Timestamp}
  {ledgerTransactions : Table LedgerTransaction}
  {rows : List LedgerEntry}

theorem entriesOf_posted (balanced : db.Balanced)
    (stored : db.ledgerTransactions.insert? ⟨call.txnId, call.reference, call.memo, now⟩ =
      some ledgerTransactions)
    (owned : ∀ row ∈ rows, row.txnId = call.txnId)
    (spelled : rows.map (fun row => ⟨row.account, row.amountMinor, row.currency⟩) = call.entries)
    (txnId : String) :
    entriesOf { db with ledgerTransactions, ledgerEntries := db.ledgerEntries ++ rows } txnId =
      if txnId = call.txnId then call.entries else db.entriesOf txnId := by
  have fresh := (Table.insert?_eq_some_iff.mp stored).2
  simp only [entriesOf, List.filter_append, List.map_append]
  split
  · rename_i same
    have none : db.ledgerEntries.filter (·.txnId == txnId) = [] := by
      refine List.filter_eq_nil_iff.mpr fun entry member named => ?_
      obtain ⟨txn, txnMember, owner⟩ := balanced.known entry member
      have apart := fresh txn txnMember
      simp only [beq_iff_eq] at named
      simp [key, clash, ← owner, named, same] at apart
    have all : rows.filter (·.txnId == txnId) = rows :=
      List.filter_eq_self.mpr fun row member => by simp [owned row member, same]
    rw [none, all, spelled]
    rfl
  · rename_i other
    have none : rows.filter (·.txnId == txnId) = [] :=
      List.filter_eq_nil_iff.mpr fun row member => by simp [owned row member, Ne.symm other]
    rw [none]
    simp

theorem Balanced.post (balanced : db.Balanced) (checked : Ledger.check call.entries = .ok ())
    (exact : call.Exact)
    (stored : db.ledgerTransactions.insert? ⟨call.txnId, call.reference, call.memo, now⟩ =
      some ledgerTransactions)
    (owned : ∀ row ∈ rows, row.txnId = call.txnId)
    (spelled : rows.map (fun row => ⟨row.account, row.amountMinor, row.currency⟩) = call.entries) :
    Balanced { db with ledgerTransactions, ledgerEntries := db.ledgerEntries ++ rows } := by
  obtain ⟨enough, divides⟩ := Ledger.check_ok checked
  have zero := exact divides
  have entries := entriesOf_posted balanced stored owned spelled
  constructor
  · intro entry member
    rcases List.mem_append.mp member with old | new
    · obtain ⟨txn, txnMember, owner⟩ := balanced.known entry old
      exact ⟨txn, (Table.mem_insert? stored).mpr (.inl txnMember), owner⟩
    · exact ⟨_, (Table.mem_insert? stored).mpr (.inr rfl), owned entry new⟩
  · intro txn member
    rw [entries]
    split
    · exact enough
    · rename_i other
      rcases (Table.mem_insert? stored).mp member with old | rfl
      · exact balanced.enough txn old
      · exact absurd rfl other
  · intro txn member
    rw [entries]
    split
    · exact zero
    · rename_i other
      rcases (Table.mem_insert? stored).mp member with old | rfl
      · exact balanced.zero txn old
      · exact absurd rfl other
  · have added : (rows.map (·.amountMinor.toInt)).sum = exactSum call.entries := by
      rw [exactSum, ← spelled, List.map_map]
      rfl
    rw [List.map_append, List.sum_append, balanced.whole, added, zero]
    rfl

end Db

theorem balanced_of_run {calls : List PostCall} {db : Db} (run : PostRun calls db)
    (exact : ∀ call ∈ calls, call.Exact) : db.Balanced := by
  induction run with
  | start => exact Db.balanced_empty
  | post call plan earlier ih =>
      obtain ⟨own, past⟩ := List.forall_mem_cons.mp exact
      have balanced := ih past
      rcases Ledger.postUnder_cases plan call _ with
        ⟨error, same⟩ | ⟨checked, now, ledgerTransactions, rows, stored, owned, spelled, same⟩
      · rw [same]
        exact balanced
      · rw [same]
        exact balanced.post checked own stored owned spelled

/-- In every run of postings, any statement of which may fail, where no call's
entries add up to another multiple of 2 ^ 64 than zero: every transaction has two
entries at least, which sum to zero exactly, and so do the balances of all
accounts. A call that returns an error adds nothing, whatever its entries are. -/
theorem ledger_balances {calls : List PostCall} {db : Db} (run : PostRun calls db)
    (exact : ∀ call ∈ calls, call.Exact) :
    (∀ txn ∈ db.ledgerTransactions,
      2 ≤ (db.entriesOf txn.id).length ∧ exactSum (db.entriesOf txn.id) = 0) ∧
    ∑ account ∈ db.accounts, db.balance account = 0 ∧
    ∀ plan call error, (Ledger.postUnder plan call db).1 = .error error →
      (Ledger.postUnder plan call db).2 = db := by
  have balanced := balanced_of_run run exact
  refine ⟨fun txn member => ⟨balanced.enough txn member, balanced.zero txn member⟩, ?_, ?_⟩
  · refine (Db.sum_balances db.accounts fun row member => ?_).trans balanced.whole
    exact List.mem_toFinset.mpr (List.mem_map_of_mem member)
  · intro plan call error failed
    rcases Ledger.postUnder_cases plan call db with ⟨_, same⟩ | ⟨_, _, _, _, _, _, _, same⟩
    · rw [same]
    · rw [same] at failed
      cases failed

def samplePlan : PostPlan := ⟨true, [some 1, some 2, some 3, some 4], true⟩

def sampleTransfer : PostCall :=
  ⟨"ltx_1", "chg_1", "memo", [.debit "a" 50000 "BDT", .credit "b" 50000 "BDT"]⟩

theorem ledger_balances_sample :
    (Ledger.postUnder samplePlan sampleTransfer Db.empty).1 = .ok () ∧
    ∑ account ∈ (Ledger.postUnder samplePlan sampleTransfer Db.empty).2.accounts,
      (Ledger.postUnder samplePlan sampleTransfer Db.empty).2.balance account = 0 := by
  have exact : ∀ call ∈ [sampleTransfer], call.Exact := by
    intro call member _
    rw [List.mem_singleton.mp member]
    decide +kernel
  exact ⟨by decide +kernel,
    (ledger_balances (PostRun.start.post sampleTransfer samplePlan) exact).2.1⟩

/-- Three amounts that come to zero in 64 bits. -/
def overflowing : PostCall :=
  ⟨"ltx_1", "chg_1", "memo",
    [⟨"a", Int64.maxValue, "BDT"⟩, ⟨"b", Int64.maxValue, "BDT"⟩, ⟨"c", 2, "BDT"⟩]⟩

theorem overflowing_posting_accepted : ∃ db, PostRun [overflowing] db ∧
    ∃ txn ∈ db.ledgerTransactions, exactSum (db.entriesOf txn.id) ≠ 0 :=
  ⟨_, PostRun.start.post overflowing samplePlan, by decide +kernel⟩

end SpritexPay
