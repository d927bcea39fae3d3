import SpritexPay.Activity
import SpritexPay.CreditProperties

/-! The audit log against the ledger. None of the requests records anything, so
the log keeps up with the ledger only while nothing is posted. -/

set_option autoImplicit false

namespace SpritexPay

open Relational Resumption

/-- A record of the settled charge would do. -/
theorem Activity.identifies_record {journal : Journal} (audited : Audited journal)
    {txn : LedgerTransaction} {ledgerTransactions : Table LedgerTransaction}
    (posted : journal.1.ledgerTransactions.insert? txn = some ledgerTransactions) (action : String)
    (actor detail : Option String) (now : Timestamp) :
    Audited ({ journal.1 with ledgerTransactions },
      record "charge" txn.reference action actor detail now journal.2) := by
  intro other member
  rcases (Table.mem_insert? posted).mp member with old | rfl
  · obtain ⟨row, rowMember, identifies⟩ := audited other old
    exact ⟨row, List.mem_append_left _ rowMember, identifies⟩
  · exact ⟨_, List.mem_append_right _ (List.mem_singleton.mpr rfl), .inl ⟨rfl, rfl⟩⟩

/-! ## Postings -/

/-- The statement is the transaction of a posting, if it is a ledger statement. -/
def Statement.isPosting (op : Statement) : Prop :=
  ∀ writes, op = .ledgerTransaction writes →
    ∃ txnId reference memo entries, writes = Db.postingWrites txnId reference memo entries

theorem Request.uses_postings (service : Service) (request : Request) :
    (request.program service).Uses Statement.isPosting fun _ => True := by
  cases kind : request.isIngest with
  | false =>
      refine (request.uses_program service kind).mono (fun op aside writes same => ?_)
        fun _ _ => trivial
      rw [same] at aside
      cases aside
  | true =>
      cases request with
      | ingest uuids replies gw rawBody =>
          have other : ∀ op : Statement, (∀ writes, op ≠ .ledgerTransaction writes) →
              op.isPosting := fun op apart writes same => absurd same (apart writes)
          refine uses_respond ?_ fun _ => trivial
          refine Sms.uses_ingest _ _ _ _ _ (fun _ => other _ (by simp))
            (fun _ => other _ (by simp)) (fun _ => other _ (by simp)) fun id => ?_
          refine Charge.uses_markPaid _ _ _ (other _ (by simp)) (fun _ _ _ _ writes same => ?_)
            (other _ (by simp)) (other _ (by simp)) fun _ => other _ (by simp)
          cases same
          exact ⟨_, _, _, _, rfl⟩
      | _ => cases kind

/-- The act has put a transaction on the ledger. -/
def Posts {Store : Type} (act : Act signature Store) : Prop :=
  (∃ writes, act.op = .ledgerTransaction writes) ∧ ∃ answer, act.reply = .ok answer

theorem ledger_of_posting {env : Env} {op : Statement} {answer : op.Answer} {before after : Db}
    (executed : op.exec env before = .ok (answer, after)) {writes : List LedgerWrite}
    (ledger : op = .ledgerTransaction writes) (posting : op.isPosting) :
    ∃ txn, txn ∈ after.ledgerTransactions := by
  subst ledger
  obtain ⟨txnId, reference, memo, entries, rfl⟩ := posting writes rfl
  have stored := Statement.stored_ok executed
  rw [Db.post_eq] at stored
  split at stored
  · cases stored
  · rename_i inserted
    cases stored
    exact ⟨_, (Table.mem_insert? inserted).mpr (.inr rfl)⟩

/-- Only an act that posts changes the transactions of the ledger. -/
theorem ledger_of_reply {faults : Bool} {act : Act signature Db}
    (replied : sqlite.Replies faults act.op act.before act.reply act.after)
    (unposted : ¬Posts act) :
    act.after.ledgerTransactions = act.before.ledgerTransactions := by
  rcases reply_cases replied with ⟨env, answer, executed, answered⟩ | ⟨_, _, same⟩
  · have differs := Statement.exec_differsAt executed
    cases written : act.op.writes with
    | none =>
        rw [written] at differs
        exact congrArg _ differs
    | some relation =>
        rw [written] at differs
        cases relation with
        | ledger =>
            refine absurd ⟨?_, answer, answered⟩ unposted
            generalize act.op = op at written
            cases op with
            | ledgerTransaction writes => exact ⟨writes, rfl⟩
            | _ => cases written
        | _ =>
            obtain ⟨_, same⟩ := differs
            rw [same]
  · rw [same]

/-! ## Runs -/

section Pool

variable {Thread : Type} [DecidableEq Thread] {faults : Bool}
  {start config : Config signature Db Thread Response}
  {past : List (Event signature Db Thread Response)}

theorem ledger_of_unposted (run : Run sqlite faults start past config)
    (unposted : ∀ event ∈ past, ¬Posts event.act) :
    config.store.ledgerTransactions = start.store.ledgerTransactions := by
  induction run with
  | start => rfl
  | @step past config thread op next reply after earlier waiting replied ih =>
      have before := ih fun event member => unposted event (List.mem_cons_of_mem _ member)
      let act : Act signature Db := ⟨op, reply, config.store, after⟩
      have kept : act.after.ledgerTransactions = act.before.ledgerTransactions :=
        ledger_of_reply replied (unposted _ List.mem_cons_self)
      exact kept.trans before

theorem ledger_of_posted (run : Run sqlite faults start past config)
    (postings : ∀ thread, (start.threads thread).Uses Statement.isPosting fun _ => True)
    {event : Event signature Db Thread Response} (member : event ∈ past)
    (posts : Posts event.act) : ∃ txn, txn ∈ config.store.ledgerTransactions := by
  obtain ⟨⟨writes, ledger⟩, answer, answered⟩ := posts
  have posting := (run.uses postings).1 event member
  have evolved : event.act.after.Evolves config.store :=
    run.store_relates_event Db.Evolves.refl Db.Evolves.trans evolves_apply member
  obtain ⟨newer, older, split⟩ := List.append_of_mem member
  rw [split] at run
  obtain ⟨_, _, _, _, _, _, replied, _⟩ := run.event_cases
  rcases reply_cases replied with ⟨env, _, executed, _⟩ | ⟨error, refused, _⟩
  · obtain ⟨txn, stored⟩ := ledger_of_posting executed ledger posting
    exact ⟨txn, evolved.ledgerTransactions.subset stored⟩
  · rw [answered] at refused
    cases refused

end Pool

/-- In every state of every run the ledger is audited exactly when nothing has
been posted to it so far. -/
theorem audited_iff_unposted {Thread : Type} [DecidableEq Thread] {service : Service}
    {requests : Thread → Request} {faults : Bool}
    {past : List (Event signature Journal Thread Response)}
    {config : Config signature Journal Thread Response}
    (run : Run audited faults (service.audit requests) past config) :
    Audited config.store ↔ ∀ event ∈ past, ¬Posts event.act := by
  obtain ⟨first, silent⟩ := run.beside
  constructor
  · intro audited event member posts
    obtain ⟨txn, stored⟩ := ledger_of_posted first
      (fun thread => (requests thread).uses_postings service) (List.mem_map_of_mem member) posts
    obtain ⟨row, recorded, _⟩ := audited txn stored
    rw [silent] at recorded
    cases recorded
  · intro unposted txn member
    have empty := ledger_of_unposted first fun event firstMember => by
      obtain ⟨both, bothMember, rfl⟩ := List.mem_map.mp firstMember
      exact unposted both bothMember
    rw [empty] at member
    cases member

/-- The order is placed and the payment for it recorded, but not yet posted. -/
theorem audited_iff_unposted_sample : ∃ past config,
    Run audited true (sampleService.audit orderAndPayment) past config ∧ past.length = 4 ∧
      Audited config.store := by
  have run := Run.scheduled audited true (sampleService.audit orderAndPayment) sampleEnv
    [false, false, true, true]
  have apart : ((sampleService.audit orderAndPayment).trace audited sampleEnv
      [false, false, true, true]).all (fun event => event.act.op.writes ≠ some .ledger) = true := by
    decide +kernel
  refine ⟨_, _, run, by decide +kernel, (audited_iff_unposted run).mpr fun event member posts => ?_⟩
  obtain ⟨⟨writes, ledger⟩, _⟩ := posts
  have differs := List.all_eq_true.mp apart event member
  rw [ledger] at differs
  simp [Statement.writes] at differs

theorem settlement_unaudited : ∃ past config,
    Run audited false (sampleService.audit orderAndPayment) past config ∧
      (∃ txn ∈ config.store.1.ledgerTransactions, txn.reference = "chg_1") ∧
      ¬Audited config.store := by
  have run := Run.scheduled audited false (sampleService.audit orderAndPayment) sampleEnv
    [false, false, true, true, true, true, true, true]
  obtain ⟨txn, posted, settled⟩ : ∃ txn ∈ ((sampleService.audit orderAndPayment).schedule audited
      sampleEnv [false, false, true, true, true, true, true, true]).store.1.ledgerTransactions,
        txn.reference = "chg_1" := by
    decide +kernel
  refine ⟨_, _, run, ⟨txn, posted, settled⟩, fun audited => ?_⟩
  obtain ⟨row, recorded, _⟩ := audited txn posted
  rw [run.beside.2] at recorded
  cases recorded

end SpritexPay
