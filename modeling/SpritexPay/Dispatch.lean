import SpritexPay.ApiProperties
import SpritexPay.Evolution
import SpritexPay.Resumption.Daemon

/-! The webhook worker as a daemon. Between two statements it is at one of a few
stages, and the log of its turns tells how often each delivery was posted, missed
and recorded. -/

set_option autoImplicit false

namespace SpritexPay

open Relational Resumption

/-- The delivery a statement of the worker is about. -/
def Statement.delivery : Statement → Option String
  | .postWebhook due _ => some due.id
  | .webhookDelivered id _ | .webhookFailed id _ _ | .webhookRetry id _ _ _ => some id
  | _ => none

/-- Only the UPDATEs and the SELECT of the worker can fail; a POST that does not get
through is one of its outcomes. -/
def Statement.fallible : Statement → Prop
  | .postWebhook _ _ => False
  | _ => True

def Statement.ofWorker : Statement → Bool
  | .dueWebhooks | .postWebhook _ _ | .webhookDelivered _ _ | .webhookFailed _ _ _
  | .webhookRetry _ _ _ _ => true
  | _ => false

def WebhookDelivery.due (delivery : WebhookDelivery) : Due where
  id := delivery.id
  url := delivery.url
  payload := delivery.payload
  attempts := delivery.attempts
  maxAttempts := delivery.maxAttempts

namespace Webhook

/-! ## Stages -/

/-- The UPDATE after a POST. -/
def recordOf (crates : Crates) (due : Due) (outcome : PostOutcome) : Statement :=
  if isSuccess outcome then .webhookDelivered due.id (due.attempts + 1)
  else if due.attempts + 1 ≥ due.maxAttempts then
    .webhookFailed due.id (due.attempts + 1) (errorMessage crates outcome)
  else
    .webhookRetry due.id (due.attempts + 1) (errorMessage crates outcome)
      (backoffSeconds (due.attempts + 1))

inductive Stage where
  | resting (result : Except SqlError Unit)
  | polling
  | posting (due : Due) (rest : List Due)
  | recording (due : Due) (outcome : PostOutcome) (rest : List Due)

namespace Stage

def delivering : List Due → Stage
  | [] => .resting (.ok ())
  | due :: rest => .posting due rest

def program (crates : Crates) (secret : String) : Stage → Program signature (Except SqlError Unit)
  | .resting result => .done result
  | .polling => (drainDue crates secret).run
  | .posting due rest => (deliverAll crates secret (due :: rest)).run
  | .recording due outcome rest =>
      .issue (recordOf crates due outcome) .error fun _ => (deliverAll crates secret rest).run

def records (id : String) : Stage → Bool
  | .recording due _ _ => due.id == id
  | _ => false

variable {crates : Crates} {secret : String}

theorem program_delivering (dues : List Due) :
    (delivering dues).program crates secret = (deliverAll crates secret dues).run := by
  cases dues <;> rfl

theorem program_polling : Stage.polling.program crates secret =
    .issue .dueWebhooks .error fun dues => (delivering dues).program crates secret :=
  Program.stmt_congr fun reply => by
    cases reply with
    | ok dues => exact (program_delivering dues).symm
    | error error => rfl

theorem program_posting (due : Due) (rest : List Due) :
    (Stage.posting due rest).program crates secret =
      .issue (.postWebhook due (crates.sign secret due.payload)) .error fun outcome =>
        (Stage.recording due outcome rest).program crates secret :=
  Program.stmt_congr fun reply => by
    cases reply with
    | error error => rfl
    | ok outcome =>
        change ((if isSuccess outcome then _ else _ : Query SqlError Unit) >>= fun _ =>
          deliverAll crates secret rest).run = _
        have next : ∀ {op : Statement} {query : Query SqlError Unit},
            recordOf crates due outcome = op →
            (query >>= fun _ => deliverAll crates secret rest).run =
              .issue op .error (fun _ => (deliverAll crates secret rest).run) →
            (query >>= fun _ => deliverAll crates secret rest).run =
              (Stage.recording due outcome rest).program crates secret := by
          rintro op query rfl same
          exact same
        split
        · rename_i succeeded
          refine next (if_pos succeeded) (Program.stmt_congr fun reply => ?_)
          cases reply <;> rfl
        · rename_i failed
          split
          · rename_i exhausted
            refine next ((if_neg failed).trans (if_pos exhausted))
              (Program.stmt_congr fun reply => ?_)
            cases reply <;> rfl
          · rename_i remaining
            refine next ((if_neg failed).trans (if_neg remaining))
              (Program.stmt_congr fun reply => ?_)
            cases reply <;> rfl

end Stage

/-- Whether the next statement of the worker records an attempt of the delivery. -/
def recordsNext (id : String) : Program signature (Except SqlError Unit) → Bool
  | .stmt (.webhookDelivered other _) _ | .stmt (.webhookFailed other _ _) _
  | .stmt (.webhookRetry other _ _ _) _ => other == id
  | _ => false

theorem recordsNext_program {crates : Crates} {secret : String} (id : String) (stage : Stage) :
    recordsNext id (stage.program crates secret) = stage.records id := by
  cases stage with
  | resting | polling | posting => rfl
  | recording due outcome rest =>
      simp only [Stage.program, Stage.records, recordOf]
      by_cases succeeded : isSuccess outcome = true
      · rw [if_pos succeeded]
        rfl
      · by_cases exhausted : due.attempts + 1 ≥ due.maxAttempts
        · rw [if_neg succeeded, if_pos exhausted]
          rfl
        · rw [if_neg succeeded, if_neg exhausted]
          rfl

/-! ## Batches -/

structure Batch (db : Db) (clock : Timestamp) (dues : List Due) : Prop where
  distinct : dues.Pairwise fun left right => left.id ≠ right.id
  stored : ∀ due ∈ dues, ∃ row ∈ db.webhookDeliveries,
    due = row.due ∧ row.status = .pending ∧ row.nextAttemptAt ≤ clock

theorem Batch.tail {db : Db} {clock : Timestamp} {due : Due} {rest : List Due}
    (batch : Batch db clock (due :: rest)) : Batch db clock rest :=
  ⟨(List.pairwise_cons.mp batch.distinct).2, (List.forall_mem_cons.mp batch.stored).2⟩

theorem batch_dueWebhooks (db : Db) (clock : Timestamp) :
    Batch db clock (db.dueWebhooks clock) := by
  have sorted := List.mergeSort_perm (db.webhookDeliveries.rows.filter fun delivery =>
    delivery.status == .pending && decide (delivery.nextAttemptAt ≤ clock))
      fun left right => decide (left.nextAttemptAt ≤ right.nextAttemptAt)
  have apart : db.webhookDeliveries.rows.Pairwise fun left right => left.id ≠ right.id :=
    db.webhookDeliveries.distinct.imp fun {left right} differ => by simpa [key, clash] using differ
  constructor
  · refine List.pairwise_map.mpr (List.Pairwise.sublist (List.take_sublist _ _) ?_)
    exact (sorted.pairwise_iff fun differ => differ.symm).mpr (apart.filter _)
  · intro due member
    obtain ⟨row, taken, rfl⟩ := List.mem_map.mp member
    have passes := List.mem_filter.mp (sorted.mem_iff.mp (List.mem_of_mem_take taken))
    simp only [Bool.and_eq_true, beq_iff_eq, decide_eq_true_eq] at passes
    exact ⟨row, passes.1, rfl, passes.2⟩

end Webhook

end SpritexPay
