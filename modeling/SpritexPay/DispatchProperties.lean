import SpritexPay.Dispatch

/-! What the webhook worker does to every delivery over a whole run. A row counts
its recorded attempts, a row that has ended is never posted again, and after a
recorded failure the next POST waits for the backoff. -/

set_option autoImplicit false

namespace SpritexPay

open Relational Resumption

namespace Webhook

/-! ## Turns of the worker -/

def isPost (id : String) (turn : Turn signature) : Bool :=
  match turn.op with
  | .postWebhook due _ => due.id == id
  | _ => false

/-- A POST without a 2xx. -/
def misses (id : String) : Turn signature → Bool
  | ⟨_, .postWebhook due _, .ok outcome⟩ => due.id == id && !isSuccess outcome
  | _ => false

/-- A POST of exactly this payload, answered with a 2xx. -/
def receives (id payload : String) : Turn signature → Bool
  | ⟨_, .postWebhook due _, .ok outcome⟩ =>
      due.id == id && due.payload == payload && isSuccess outcome
  | _ => false

def recordsFailure (id : String) : Turn signature → Bool
  | ⟨_, .webhookFailed other _ _, .ok _⟩ | ⟨_, .webhookRetry other _ _ _, .ok _⟩ => other == id
  | _ => false

def recordsSuccess (id : String) : Turn signature → Bool
  | ⟨_, .webhookDelivered other _, .ok _⟩ => other == id
  | _ => false

/-- An UPDATE that failed. -/
def loses (id : String) : Turn signature → Bool
  | ⟨_, .webhookDelivered other _, .error _⟩ | ⟨_, .webhookFailed other _ _, .error _⟩
  | ⟨_, .webhookRetry other _ _ _, .error _⟩ => other == id
  | _ => false

/-- The backoff after the last recorded failure, on the clock. -/
def heldUntil (id : String) : List (Turn signature) → Nat
  | [] => 0
  | turn :: past =>
      if recordsFailure id turn then
        max (heldUntil id past)
          (turn.time + 1000 * min (2 ^ (past.countP (recordsFailure id) + 1)) 3600)
      else heldUntil id past

structure Tally where
  posts : Nat
  misses : Nat
  failures : Nat
  successes : Nat
  lost : Nat
  heldUntil : Nat

def tally (id : String) (past : List (Turn signature)) : Tally where
  posts := past.countP (isPost id)
  misses := past.countP (misses id)
  failures := past.countP (recordsFailure id)
  successes := past.countP (recordsSuccess id)
  lost := past.countP (loses id)
  heldUntil := heldUntil id past

variable {id : String} {turn : Turn signature} {past : List (Turn signature)}

theorem silent_of_ne (other : turn.op.delivery ≠ some id) :
    isPost id turn = false ∧ misses id turn = false ∧ recordsFailure id turn = false ∧
      recordsSuccess id turn = false ∧ loses id turn = false := by
  obtain ⟨time, op, reply⟩ := turn
  cases op <;> cases reply <;>
    simp_all [Statement.delivery, isPost, misses, recordsFailure, recordsSuccess, loses]

theorem tally_cons_of_ne (other : turn.op.delivery ≠ some id) :
    tally id (turn :: past) = tally id past := by
  obtain ⟨noPost, noMiss, noFailure, noSuccess, noLoss⟩ := silent_of_ne other
  simp [tally, heldUntil, noPost, noMiss, noFailure, noSuccess, noLoss]

section Tally

variable {about : String} {time : Nat}

theorem tally_post {due : Due} {signature : String} {outcome : PostOutcome} (same : due.id = id) :
    tally id (⟨time, .postWebhook due signature, .ok outcome⟩ :: past) =
      { tally id past with
        posts := (tally id past).posts + 1
        misses := (tally id past).misses + if isSuccess outcome then 0 else 1 } := by
  cases succeeded : isSuccess outcome <;>
    simp [tally, heldUntil, isPost, misses, recordsFailure, recordsSuccess, loses, succeeded, same]

theorem tally_failed {attempts : Int} {message : String} {answer : Unit} (same : about = id) :
    tally id (⟨time, .webhookFailed about attempts message, .ok answer⟩ :: past) =
      { tally id past with
        failures := (tally id past).failures + 1
        heldUntil := max (tally id past).heldUntil
          (time + 1000 * min (2 ^ ((tally id past).failures + 1)) 3600) } := by
  simp [tally, heldUntil, isPost, misses, recordsFailure, recordsSuccess, loses, same]

theorem tally_retry {attempts delay : Int} {message : String} {answer : Unit}
    (same : about = id) :
    tally id (⟨time, .webhookRetry about attempts message delay, .ok answer⟩ :: past) =
      { tally id past with
        failures := (tally id past).failures + 1
        heldUntil := max (tally id past).heldUntil
          (time + 1000 * min (2 ^ ((tally id past).failures + 1)) 3600) } := by
  simp [tally, heldUntil, isPost, misses, recordsFailure, recordsSuccess, loses, same]

theorem tally_delivered {attempts : Int} {answer : Unit} (same : about = id) :
    tally id (⟨time, .webhookDelivered about attempts, .ok answer⟩ :: past) =
      { tally id past with successes := (tally id past).successes + 1 } := by
  simp [tally, heldUntil, isPost, misses, recordsFailure, recordsSuccess, loses, same]

theorem recordOf_cases {crates : Crates} {due : Due} {outcome : PostOutcome}
    {motive : Statement → Prop}
    (delivered : isSuccess outcome = true → motive (.webhookDelivered due.id (due.attempts + 1)))
    (failed : isSuccess outcome = false → due.maxAttempts ≤ due.attempts + 1 →
      motive (.webhookFailed due.id (due.attempts + 1) (errorMessage crates outcome)))
    (retry : isSuccess outcome = false → due.attempts + 1 < due.maxAttempts →
      motive (.webhookRetry due.id (due.attempts + 1) (errorMessage crates outcome)
        (backoffSeconds (due.attempts + 1)))) : motive (recordOf crates due outcome) := by
  unfold recordOf
  split
  · rename_i succeeded
    exact delivered succeeded
  · rename_i missed
    split
    · rename_i exhausted
      exact failed (by simpa using missed) exhausted
    · rename_i remaining
      exact retry (by simpa using missed) (by omega)

theorem tally_lost {crates : Crates} {due : Due} {outcome : PostOutcome} {error : SqlError}
    (same : due.id = id) :
    tally id (⟨time, recordOf crates due outcome, .error error⟩ :: past) =
      { tally id past with lost := (tally id past).lost + 1 } := by
  refine recordOf_cases (motive := fun op => tally id (⟨time, op, .error error⟩ :: past) = _)
    (fun _ => ?_) (fun _ _ => ?_) fun _ _ => ?_ <;>
    simp [tally, heldUntil, isPost, misses, recordsFailure, recordsSuccess, loses, same]

end Tally

theorem delivery_recordOf (crates : Crates) (due : Due) (outcome : PostOutcome) :
    (recordOf crates due outcome).delivery = some due.id :=
  recordOf_cases (motive := fun op => op.delivery = some due.id) (fun _ => rfl) (fun _ _ => rfl)
    fun _ _ => rfl

theorem isPost_recordOf {crates : Crates} {due : Due} {outcome : PostOutcome} {time : Nat}
    {error : SqlError} : isPost id ⟨time, recordOf crates due outcome, .error error⟩ = false :=
  recordOf_cases (motive := fun op => isPost id ⟨time, op, .error error⟩ = false) (fun _ => rfl)
    (fun _ _ => rfl) fun _ _ => rfl

theorem backoffSeconds_natCast (attempts : Nat) :
    (backoffSeconds attempts).toNat = min (2 ^ attempts) 3600 := by
  have capped : ((min (attempts : Int) 20) % 2 ^ 32).toNat = min attempts 20 := by omega
  simp only [backoffSeconds, capped]
  have power : ((2 : Int) ^ min attempts 20) = ((2 ^ min attempts 20 : Nat) : Int) := by simp
  have cast : (min ((2 : Int) ^ min attempts 20) 3600).toNat = min (2 ^ min attempts 20) 3600 := by
    rw [power, ← Int.toNat_natCast (min (2 ^ min attempts 20) 3600), Nat.cast_min]
    rfl
  rw [if_neg (by omega), cast]
  by_cases small : attempts ≤ 20
  · rw [Nat.min_eq_left small]
  · have large : 2 ^ 20 ≤ 2 ^ attempts := Nat.pow_le_pow_right (by decide) (by omega)
    rw [Nat.min_eq_right (by omega : 20 ≤ attempts)]
    omega

/-! ## What is kept of every row -/

/-- What the status of a row says of the log and of its counts. -/
def Standing (count : Tally) (past : List (Turn signature)) (row : WebhookDelivery) : Prop :=
  match row.status with
  | .pending => row.attempts < row.maxAttempts ∧ count.successes = 0 ∧
      count.heldUntil ≤ row.nextAttemptAt
  | .delivered => row.attempts ≤ row.maxAttempts ∧
      ∃ turn ∈ past, receives row.id row.payload turn = true
  | .failed => row.attempts = row.maxAttempts ∧ count.successes = 0

/-- A row agrees with the counts. A POST that the worker is about to record is
not in the row yet. -/
structure Fits (count : Tally) (recording : Bool) (past : List (Turn signature))
    (row : WebhookDelivery) : Prop where
  recorded : row.attempts = count.failures + count.successes
  posted : (count.posts : Int) = row.attempts + count.lost + if recording then 1 else 0
  missed : count.failures ≤ count.misses
  standing : Standing count past row

def Kept (past : List (Turn signature)) (recording : Bool) (row : WebhookDelivery) : Prop :=
  Fits (tally row.id past) recording past row

variable {row : WebhookDelivery} {recording : Bool}

theorem kept_of_tally {count : Tally} (counted : tally row.id past = count)
    (fits : Fits count recording past row) : Kept past recording row := by
  subst counted
  exact fits

theorem Fits.older {count : Tally} (fits : Fits count recording past row) :
    Fits count recording (turn :: past) row where
  recorded := fits.recorded
  posted := fits.posted
  missed := fits.missed
  standing := by
    have standing := fits.standing
    unfold Standing at standing ⊢
    cases status : row.status with
    | pending | failed => simpa only [status] using standing
    | delivered =>
        simp only [status] at standing ⊢
        obtain ⟨bounded, receipt, member, received⟩ := standing
        exact ⟨bounded, receipt, List.mem_cons_of_mem _ member, received⟩

theorem Kept.skip (kept : Kept past recording row) (other : turn.op.delivery ≠ some row.id) :
    Kept (turn :: past) recording row :=
  kept_of_tally (tally_cons_of_ne other) (Fits.older kept)

/-! ## What one step of the worker keeps -/

/-- No POST was made before its backoff had passed. -/
def Spaced : List (Turn signature) → Prop
  | [] => True
  | turn :: past => Spaced past ∧ ∀ id, isPost id turn = true → heldUntil id past ≤ turn.time

namespace Stage

def At (db : Db) (clock : Timestamp) (past : List (Turn signature)) : Stage → Prop
  | .resting _ | .polling => True
  | .posting due rest => Batch db clock (due :: rest)
  | .recording due outcome rest => Batch db clock (due :: rest) ∧
      (isSuccess outcome = true → ∃ turn ∈ past, receives due.id due.payload turn = true) ∧
      (isSuccess outcome = false → (tally due.id past).failures < (tally due.id past).misses)

theorem at_delivering {db : Db} {clock : Timestamp} {dues : List Due}
    (batch : Batch db clock dues) : (delivering dues).At db clock past := by
  cases dues with
  | nil => trivial
  | cons due rest => exact batch

end Stage

structure Ready (db : Db) (clock : Timestamp) (past : List (Turn signature)) (stage : Stage) :
    Prop where
  reached : stage.At db clock past
  rows : ∀ row ∈ db.webhookDeliveries, Kept past (stage.records row.id) row
  known : ∀ turn ∈ past, ∀ id, turn.op.delivery = some id →
    ∃ row ∈ db.webhookDeliveries, row.id = id
  spaced : Spaced past

variable {db : Db} {clock : Timestamp} {stage : Stage} {due : Due} {rest : List Due}
  {outcome : PostOutcome}

theorem eq_of_delivery_id {left right : WebhookDelivery} (leftMember : left ∈ db.webhookDeliveries)
    (rightMember : right ∈ db.webhookDeliveries) (same : left.id = right.id) : left = right :=
  Table.eq_of_clash leftMember rightMember (by simp [key, clash, same])

theorem Batch.wait {later : Timestamp} {dues : List Due} (batch : Batch db clock dues)
    (passed : clock ≤ later) : Batch db later dues where
  distinct := batch.distinct
  stored := fun due member => by
    obtain ⟨row, rowMember, same, pending, passing⟩ := batch.stored due member
    exact ⟨row, rowMember, same, pending, passing.trans passed⟩

theorem Ready.wait {later : Timestamp} (ready : Ready db clock past stage)
    (passed : clock ≤ later) : Ready db later past stage where
  reached := by
    cases stage with
    | resting | polling => trivial
    | posting due rest => exact Batch.wait ready.reached passed
    | recording due outcome rest => exact ⟨ready.reached.1.wait passed, ready.reached.2⟩
  rows := ready.rows
  known := ready.known
  spaced := ready.spaced

/-- A turn that is about no delivery changes no count. -/
theorem Ready.move {later : Stage} (ready : Ready db clock past stage)
    (aside : turn.op.delivery = none) (same : ∀ id, later.records id = stage.records id)
    (reached : later.At db clock (turn :: past)) : Ready db clock (turn :: past) later where
  reached := reached
  rows := fun row member => by
    rw [same]
    exact (ready.rows row member).skip (by simp [aside])
  known := fun other member id about => by
    rcases List.mem_cons.mp member with rfl | older
    · rw [aside] at about
      cases about
    · exact ready.known other older id about
  spaced := by
    refine ⟨ready.spaced, fun id posted => ?_⟩
    rw [(silent_of_ne (by simp [aside])).1] at posted
    cases posted

/-- The row of the delivery that the worker is at. -/
theorem Batch.head (batch : Batch db clock (due :: rest)) :
    ∃ row ∈ db.webhookDeliveries, due = row.due ∧ row.status = .pending ∧
      row.nextAttemptAt ≤ clock ∧
        ∀ other ∈ db.webhookDeliveries, other.id = due.id → other = row := by
  obtain ⟨row, member, rfl, pending, passed⟩ := batch.stored due List.mem_cons_self
  exact ⟨row, member, rfl, pending, passed, fun other otherMember same =>
    eq_of_delivery_id otherMember member same⟩

/-- A turn about a known delivery names a row. -/
theorem known_cons {delivered : Table WebhookDelivery} (about : turn.op.delivery = some id)
    (named : ∃ row ∈ delivered, row.id = id)
    (known : ∀ turn ∈ past, ∀ id, turn.op.delivery = some id → ∃ row ∈ delivered, row.id = id) :
    ∀ other ∈ turn :: past, ∀ id, other.op.delivery = some id → ∃ row ∈ delivered, row.id = id := by
  intro other member otherId otherAbout
  rcases List.mem_cons.mp member with rfl | older
  · rwa [← Option.some.inj (about.symm.trans otherAbout)]
  · exact known other older otherId otherAbout

theorem Ready.post {signature : String} (ready : Ready db clock past (.posting due rest)) :
    Ready db clock (⟨clock, .postWebhook due signature, .ok outcome⟩ :: past)
      (.recording due outcome rest) := by
  obtain ⟨row, member, rfl, pending, passed, only⟩ := Batch.head ready.reached
  have fits : Fits (tally row.id past) false past row := ready.rows row member
  have standing := fits.standing
  simp only [Standing, pending] at standing
  constructor
  · refine ⟨ready.reached, fun succeeded => ⟨_, List.mem_cons_self, by simp [receives, succeeded]⟩,
      fun missing => ?_⟩
    rw [tally_post rfl, missing]
    exact Nat.lt_succ_of_le fits.missed
  · intro other otherMember
    by_cases concerned : other.id = row.id
    · obtain rfl := only other otherMember concerned
      have own : (Stage.recording other.due outcome rest).records other.id = true :=
        beq_self_eq_true _
      rw [own]
      refine kept_of_tally (tally_post rfl) (Fits.older ⟨fits.recorded, ?_, ?_, ?_⟩)
      · have posted := fits.posted
        simp only [Bool.false_eq_true, if_false, if_true] at posted ⊢
        push_cast
        omega
      · exact fits.missed.trans (Nat.le_add_right _ _)
      · simp only [Standing, pending]
        exact standing
    · have unconcerned : (Stage.recording row.due outcome rest).records other.id = false := by
        simpa [Stage.records] using fun equal : row.due.id = other.id => concerned equal.symm
      rw [unconcerned]
      refine (ready.rows other otherMember).skip fun about => ?_
      exact concerned (Option.some.inj about).symm
  · exact known_cons rfl ⟨row, member, rfl⟩ ready.known
  · refine ⟨ready.spaced, fun id posted => ?_⟩
    obtain rfl : row.due.id = id := by simpa [isPost] using posted
    exact standing.2.2.trans passed

theorem records_delivering (dues : List Due) (id : String) :
    (Stage.delivering dues).records id = false := by
  cases dues <;> rfl

section Update

variable {set : WebhookDelivery → WebhookDelivery} (kept : ∀ row, key (set row) = key row)

theorem mem_setWebhook : row ∈ (db.setWebhook id set kept).webhookDeliveries ↔
    ∃ old ∈ db.webhookDeliveries, (if old.id = id then set old else old) = row := by
  simp only [Db.setWebhook, Table.mem_update kept, beq_iff_eq]

theorem batch_setWebhook (batch : Batch db clock (due :: rest)) :
    Batch (db.setWebhook due.id set kept) clock rest where
  distinct := batch.tail.distinct
  stored := fun other member => by
    obtain ⟨row, rowMember, same, pending, passed⟩ := batch.tail.stored other member
    have apart : due.id ≠ other.id := (List.pairwise_cons.mp batch.distinct).1 other member
    have rowId : row.id = other.id := by rw [same]; rfl
    refine ⟨row, (mem_setWebhook kept).mpr ⟨row, rowMember, if_neg ?_⟩, same, pending, passed⟩
    rw [rowId]
    exact apart.symm

/-- An UPDATE records the delivery that was posted, and touches no other row. -/
theorem Ready.record (ready : Ready db clock past (.recording due outcome rest))
    (about : turn.op.delivery = some due.id) (noPost : ∀ id, isPost id turn = false)
    (records : ∀ row, row.due = due → row.status = .pending → row.nextAttemptAt ≤ clock →
      Kept past true row → Kept (turn :: past) false (set row)) :
    Ready (db.setWebhook due.id set kept) clock (turn :: past) (.delivering rest) := by
  obtain ⟨row, member, rfl, pending, passed, only⟩ := ready.reached.1.head
  have sameId : ∀ row, (set row).id = row.id := kept
  constructor
  · exact Stage.at_delivering (batch_setWebhook kept ready.reached.1)
  · intro other otherMember
    obtain ⟨old, oldMember, rfl⟩ := (mem_setWebhook kept).mp otherMember
    rw [records_delivering]
    have before := ready.rows old oldMember
    by_cases concerned : old.id = row.due.id
    · obtain rfl := only old oldMember concerned
      have own : (Stage.recording old.due outcome rest).records old.id = true :=
        beq_self_eq_true _
      rw [own] at before
      rw [if_pos concerned]
      exact records old rfl pending passed before
    · have unconcerned : (Stage.recording row.due outcome rest).records old.id = false := by
        simpa [Stage.records] using fun equal : row.due.id = old.id => concerned equal.symm
      rw [unconcerned] at before
      rw [if_neg concerned]
      refine before.skip fun named => ?_
      exact concerned (Option.some.inj (about.symm.trans named)).symm
  · refine known_cons about ⟨set row, (mem_setWebhook kept).mpr ⟨row, member, if_pos rfl⟩, ?_⟩ ?_
    · exact sameId row
    · intro other older id named
      obtain ⟨old, oldMember, oldId⟩ := ready.known other older id named
      refine ⟨_, (mem_setWebhook kept).mpr ⟨old, oldMember, rfl⟩, ?_⟩
      split
      · exact (sameId old).trans oldId
      · exact oldId
  · refine ⟨ready.spaced, fun id posted => ?_⟩
    rw [noPost] at posted
    cases posted

end Update

section Recorded

variable {env : Env} {message : String}

theorem Ready.delivered (ready : Ready db clock past (.recording due outcome rest))
    (succeeded : isSuccess outcome = true) :
    Ready (sqlite.apply env (.webhookDelivered due.id (due.attempts + 1)) db).2 clock
      (⟨clock, .webhookDelivered due.id (due.attempts + 1), .ok ()⟩ :: past)
      (.delivering rest) := by
  change Ready (db.setWebhook due.id _ _) _ _ _
  refine ready.record _ rfl (fun id => rfl) ?_
  rintro row rfl pending _ ⟨recorded, posted, missed, standing⟩
  simp only [Standing, pending] at standing
  obtain ⟨turn, member, received⟩ := ready.reached.2.1 succeeded
  refine kept_of_tally (tally_delivered rfl) ⟨?_, ?_, missed, ?_⟩
  · change row.attempts + 1 = ((tally row.id past).failures : Int) +
      ((tally row.id past).successes + 1 : Nat)
    push_cast
    omega
  · change ((tally row.id past).posts : Int) = row.attempts + 1 + (tally row.id past).lost + 0
    simp only [if_true] at posted
    omega
  · exact ⟨standing.1, turn, List.mem_cons_of_mem _ member, received⟩

theorem Ready.failed (ready : Ready db clock past (.recording due outcome rest))
    (missing : isSuccess outcome = false) (exhausted : due.maxAttempts ≤ due.attempts + 1) :
    Ready (sqlite.apply env (.webhookFailed due.id (due.attempts + 1) message) db).2 clock
      (⟨clock, .webhookFailed due.id (due.attempts + 1) message, .ok ()⟩ :: past)
      (.delivering rest) := by
  change Ready (db.setWebhook due.id _ _) _ _ _
  refine ready.record _ rfl (fun id => rfl) ?_
  rintro row rfl pending _ ⟨recorded, posted, _, standing⟩
  simp only [Standing, pending] at standing
  refine kept_of_tally (tally_failed rfl) ⟨?_, ?_, ready.reached.2.2 missing, ?_⟩
  · change row.attempts + 1 = ((tally row.id past).failures + 1 : Nat) +
      ((tally row.id past).successes : Int)
    push_cast
    omega
  · change ((tally row.id past).posts : Int) = row.attempts + 1 + (tally row.id past).lost + 0
    simp only [if_true] at posted
    omega
  · have last : row.attempts + 1 = row.maxAttempts := le_antisymm standing.1 exhausted
    exact ⟨last, standing.2.1⟩

theorem Ready.retry (ready : Ready db clock past (.recording due outcome rest))
    (missing : isSuccess outcome = false) (remaining : due.attempts + 1 < due.maxAttempts)
    (now : env.now = clock) :
    Ready (sqlite.apply env (.webhookRetry due.id (due.attempts + 1) message
        (backoffSeconds (due.attempts + 1))) db).2 clock
      (⟨clock, .webhookRetry due.id (due.attempts + 1) message
        (backoffSeconds (due.attempts + 1)), .ok ()⟩ :: past) (.delivering rest) := by
  change Ready (db.setWebhook due.id _ _) _ _ _
  refine ready.record _ rfl (fun id => rfl) ?_
  rintro row rfl pending passed ⟨recorded, posted, _, standing⟩
  simp only [Standing, pending] at standing
  obtain ⟨_, unsuccessful, held⟩ := standing
  have attempts : row.attempts + 1 = ((tally row.id past).failures + 1 : Nat) := by
    push_cast
    omega
  refine kept_of_tally (tally_retry rfl) ⟨?_, ?_, ready.reached.2.2 missing, ?_⟩
  · change row.attempts + 1 = ((tally row.id past).failures + 1 : Nat) +
      ((tally row.id past).successes : Int)
    rw [attempts, unsuccessful]
    rfl
  · change ((tally row.id past).posts : Int) = row.attempts + 1 + (tally row.id past).lost + 0
    simp only [if_true] at posted
    omega
  · simp only [Standing, pending]
    refine ⟨remaining, unsuccessful, ?_⟩
    change max (tally row.id past).heldUntil
        (clock + 1000 * min (2 ^ ((tally row.id past).failures + 1)) 3600) ≤
      env.now + (backoffSeconds (row.attempts + 1)).toNat * 1000
    rw [attempts, backoffSeconds_natCast, now, Nat.mul_comm]
    exact max_le ((held.trans passed).trans (Nat.le_add_right _ _)) le_rfl

/-- An UPDATE that failed leaves the POST uncounted. -/
theorem Ready.lost {crates : Crates} {error : SqlError}
    (ready : Ready db clock past (.recording due outcome rest)) :
    Ready db clock (⟨clock, recordOf crates due outcome, .error error⟩ :: past)
      (.resting (.error error)) := by
  obtain ⟨row, member, rfl, pending, passed, only⟩ := ready.reached.1.head
  have about := delivery_recordOf crates row.due outcome
  constructor
  · trivial
  · intro other otherMember
    have before := ready.rows other otherMember
    by_cases concerned : other.id = row.id
    · obtain rfl := only other otherMember concerned
      have own : (Stage.recording other.due outcome rest).records other.id = true :=
        beq_self_eq_true _
      rw [own] at before
      refine kept_of_tally (tally_lost rfl)
        (Fits.older ⟨before.recorded, ?_, before.missed, ?_⟩)
      · have posted := before.posted
        simp only [Stage.records, Bool.false_eq_true, if_false, if_true] at posted ⊢
        push_cast
        omega
      · have standing := before.standing
        simp only [Standing, pending] at standing ⊢
        exact standing
    · have unconcerned : (Stage.recording row.due outcome rest).records other.id = false := by
        simpa [Stage.records] using fun equal : row.due.id = other.id => concerned equal.symm
      rw [unconcerned] at before
      refine before.skip fun named => ?_
      exact concerned (Option.some.inj (about.symm.trans named)).symm
  · exact known_cons about ⟨row, member, rfl⟩ ready.known
  · refine ⟨ready.spaced, fun id posted => ?_⟩
    rw [isPost_recordOf] at posted
    cases posted

end Recorded

theorem Ready.recorded (crates : Crates) {env : Env} (now : env.now = clock)
    (ready : Ready db clock past (.recording due outcome rest)) :
    ∃ answer, (sqlite.apply env (recordOf crates due outcome) db).1 = .ok answer ∧
      Ready (sqlite.apply env (recordOf crates due outcome) db).2 clock
        (⟨clock, recordOf crates due outcome,
          (sqlite.apply env (recordOf crates due outcome) db).1⟩ :: past) (.delivering rest) :=
  recordOf_cases (motive := fun op => ∃ answer, (sqlite.apply env op db).1 = .ok answer ∧
      Ready (sqlite.apply env op db).2 clock (⟨clock, op, (sqlite.apply env op db).1⟩ :: past)
        (.delivering rest))
    (fun succeeded => ⟨(), rfl, ready.delivered succeeded⟩)
    (fun missing exhausted => ⟨(), rfl, ready.failed missing exhausted⟩)
    fun missing remaining => ⟨(), rfl, ready.retry missing remaining now⟩

/-! ## Other programs -/

theorem tally_unknown (unknown : ∀ turn ∈ past, turn.op.delivery ≠ some id) :
    tally id past = ⟨0, 0, 0, 0, 0, 0⟩ := by
  induction past with
  | nil => rfl
  | cons turn past ih =>
      rw [List.forall_mem_cons] at unknown
      rw [tally_cons_of_ne unknown.1, ih unknown.2]

theorem deliveries_reply {faults : Bool} {op : Statement} {before after : Db}
    {reply : signature.Reply op} (other : op.ofWorker = false)
    (replied : sqlite.Replies faults op before reply after) :
    after.webhookDeliveries = before.webhookDeliveries ∨ ∃ columns now,
      before.webhookDeliveries.insert? (NewWebhook.row columns now) =
        some after.webhookDeliveries := by
  rcases reply_cases replied with ⟨env, answer, executed, _⟩ | ⟨_, _, same⟩
  swap
  · exact .inl (by rw [same])
  cases op with
  | insertWebhook columns =>
      obtain ⟨_, stored, _, rfl⟩ := Db.insertWebhook_ok (Statement.stored_ok executed)
      exact .inr ⟨columns, env.now, stored⟩
  | dueWebhooks | postWebhook | webhookDelivered | webhookFailed | webhookRetry => cases other
  | ledgerTransaction =>
      obtain ⟨_, _, rfl⟩ := Statement.exec_differsAt executed
      exact .inl rfl
  | insertCharge | setChargePaid | setChargeGateway | setChargeClaim | insertSmsEvent
  | insertAiParse | insertInvoice | insertInvoiceItem | linkInvoice | settleInvoices
  | insertPaymentLink | takeLinkUse | insertDomain | deleteDomain =>
      obtain ⟨_, rfl⟩ := Statement.exec_differsAt executed
      exact .inl rfl
  | chargeById | chargeByPayRef | chargeIdByPayRef | pendingByAmount | pendingCount
  | accountBalance | settlingTrx | settledTotals | invoiceById | linkByRef | domainCount
  | domainNamed =>
      have same : after = before := Statement.exec_differsAt executed
      exact .inl (by rw [same])

theorem Batch.grown {after : Db} {dues : List Due} (batch : Batch db clock dues)
    (grown : ∀ row ∈ db.webhookDeliveries, row ∈ after.webhookDeliveries) :
    Batch after clock dues where
  distinct := batch.distinct
  stored := fun due member => by
    obtain ⟨row, rowMember, rest⟩ := batch.stored due member
    exact ⟨row, grown row rowMember, rest⟩

theorem Stage.At.grown {after : Db} (reached : stage.At db clock past)
    (grown : ∀ row ∈ db.webhookDeliveries, row ∈ after.webhookDeliveries) :
    stage.At after clock past := by
  cases stage with
  | resting | polling => trivial
  | posting due rest => exact Batch.grown reached grown
  | recording due outcome rest => exact ⟨reached.1.grown grown, reached.2⟩

/-- A row that has just been queued is in no log. -/
theorem Ready.queued {after : Db} {columns : NewWebhook} {now : Timestamp}
    (ready : Ready db clock past stage)
    (stored : db.webhookDeliveries.insert? (columns.row now) = some after.webhookDeliveries) :
    Ready after clock past stage := by
  have grown : ∀ row ∈ db.webhookDeliveries, row ∈ after.webhookDeliveries :=
    fun row member => (Table.mem_insert? stored).mpr (.inl member)
  have fresh : ∀ row ∈ db.webhookDeliveries, row.id ≠ columns.id := by
    intro row member same
    have apart := (Table.insert?_eq_some_iff.mp stored).2 row member
    simp [key, clash, NewWebhook.row, same] at apart
  constructor
  · exact ready.reached.grown grown
  · refine Table.forall_mem_insert? ready.rows ?_ stored
    have unknown : ∀ turn ∈ past, turn.op.delivery ≠ some columns.id := by
      intro turn member about
      obtain ⟨row, rowMember, same⟩ := ready.known turn member _ about
      exact fresh row rowMember same
    have unrecorded : stage.records columns.id = false := by
      have reached := ready.reached
      cases stage with
      | resting | polling | posting => rfl
      | recording due outcome rest =>
          obtain ⟨row, member, rfl, _⟩ := reached.1.head
          exact beq_eq_false_iff_ne.mpr (fresh row member)
    have unrecordedRow : stage.records (columns.row now).id = false := unrecorded
    rw [unrecordedRow]
    refine kept_of_tally (tally_unknown unknown) ⟨rfl, rfl, le_rfl, ?_⟩
    have unattempted : (0 : Int) < 8 := by decide
    exact ⟨unattempted, rfl, Nat.zero_le _⟩
  · intro turn member id about
    obtain ⟨row, rowMember, same⟩ := ready.known turn member id about
    exact ⟨row, grown row rowMember, same⟩
  · exact ready.spaced

theorem Ready.same {after : Db} (ready : Ready db clock past stage)
    (same : after.webhookDeliveries = db.webhookDeliveries) : Ready after clock past stage := by
  have grown : ∀ row ∈ db.webhookDeliveries, row ∈ after.webhookDeliveries := by
    rw [same]
    exact fun _ => id
  constructor
  · exact ready.reached.grown grown
  · rw [same]
    exact ready.rows
  · rw [same]
    exact ready.known
  · exact ready.spaced

end Webhook

/-! ## Runs -/

theorem Request.uses_apart (service : Service) {request : Request}
    (other : request ≠ .pollWebhooks) :
    (request.program service).Uses (fun op : Statement => op.ofWorker = false) anyway := by
  refine (request.uses_issues service).mono (fun op issued => ?_) fun _ _ => trivial
  cases request with
  | pollWebhooks => exact absurd rfl other
  | _ => cases op <;> first | rfl | cases issued

abbrev Deployment (Thread : Type) : Type :=
  Daemon signature Db Thread Response (Except SqlError Unit)

/-- A deployment before the first poll: an empty database, and requests that are
served beside the worker. -/
def Service.deployed {Thread : Type} (service : Service) (requests : Thread → Request)
    (clock : Timestamp) : Deployment Thread where
  store := Db.empty
  clock := clock
  work := .done (.ok ())
  threads := fun thread => (requests thread).program service

section Runs

variable {Thread : Type}

/-- The turns of the worker from one state of a deployment to another. -/
abbrev Service.Polls [DecidableEq Thread] (service : Service) (start : Deployment Thread)
    (past : List (Turn signature)) (daemon : Deployment Thread) : Prop :=
  Daemon.Run sqlite Env.now Statement.fallible
    (Webhook.drainDue service.crates service.webhookSecret).run start past daemon

namespace Webhook

/-- The worker is at some stage that the rows and the log agree with. -/
structure Working (service : Service) (daemon : Deployment Thread) (past : List (Turn signature)) :
    Prop where
  apart : ∀ thread, (daemon.threads thread).Uses (fun op : Statement => op.ofWorker = false) anyway
  staged : ∃ stage : Stage, daemon.work = stage.program service.crates service.webhookSecret ∧
    Ready daemon.store daemon.clock past stage

variable {service : Service} {daemon : Deployment Thread} {past : List (Turn signature)}

theorem resting_of_done {crates : Crates} {secret : String} {stage : Stage}
    {result : Except SqlError Unit} (ended : stage.program crates secret = .done result) :
    stage = .resting result := by
  cases stage with
  | resting other =>
      cases ended
      rfl
  | polling => cases ended
  | posting due rest =>
      rw [Stage.program_posting] at ended
      cases ended
  | recording due outcome rest => cases ended

theorem Working.again {result : Except SqlError Unit} (working : Working service daemon past)
    (ended : daemon.work = .done result) :
    Working service
      { daemon with work := (drainDue service.crates service.webhookSecret).run } past := by
  obtain ⟨stage, work, ready⟩ := working.staged
  obtain rfl := resting_of_done (work.symm.trans ended)
  exact ⟨working.apart, .polling, rfl, trivial, ready.rows, ready.known, ready.spaced⟩

theorem Working.work {op : Statement}
    {next : signature.Reply op → Program signature (Except SqlError Unit)} {env : Env}
    (working : Working service daemon past) (waiting : daemon.work = .stmt op next)
    (now : env.now = daemon.clock) :
    Working service
      { daemon with
        store := (sqlite.apply env op daemon.store).2
        work := next (sqlite.apply env op daemon.store).1 }
      (⟨daemon.clock, op, (sqlite.apply env op daemon.store).1⟩ :: past) := by
  obtain ⟨stage, work, ready⟩ := working.staged
  refine ⟨working.apart, ?_⟩
  have same := waiting.symm.trans work
  cases stage with
  | resting => cases same
  | polling =>
      rw [Stage.program_polling] at same
      cases same
      have batch := batch_dueWebhooks daemon.store env.now
      rw [now] at batch
      refine ⟨.delivering (daemon.store.dueWebhooks env.now), rfl, ?_⟩
      rw [now]
      exact ready.move rfl (records_delivering _) (Stage.at_delivering batch)
  | posting due rest =>
      rw [Stage.program_posting] at same
      cases same
      exact ⟨.recording due env.post rest, rfl, ready.post⟩
  | recording due outcome rest =>
      cases same
      obtain ⟨answer, answered, later⟩ := Ready.recorded service.crates now ready
      refine ⟨.delivering rest, ?_, later⟩
      rw [answered, Stage.program_delivering]

theorem Working.fail {op : Statement}
    {next : signature.Reply op → Program signature (Except SqlError Unit)}
    (working : Working service daemon past) (waiting : daemon.work = .stmt op next)
    (allowed : op.fallible) :
    Working service { daemon with work := next (.error sqlite.fault) }
      (⟨daemon.clock, op, .error sqlite.fault⟩ :: past) := by
  obtain ⟨stage, work, ready⟩ := working.staged
  refine ⟨working.apart, ?_⟩
  have same := waiting.symm.trans work
  cases stage with
  | resting => cases same
  | polling =>
      rw [Stage.program_polling] at same
      cases same
      exact ⟨.resting (.error sqlite.fault), rfl, ready.move rfl (fun _ => rfl) trivial⟩
  | posting due rest =>
      rw [Stage.program_posting] at same
      cases same
      cases allowed
  | recording due outcome rest =>
      cases same
      exact ⟨.resting (.error sqlite.fault), rfl, ready.lost⟩

theorem Working.other [DecidableEq Thread] {thread : Thread} {op : Statement}
    {next : signature.Reply op → Program signature Response} {reply : signature.Reply op}
    {after : Db} (working : Working service daemon past)
    (waiting : daemon.threads thread = .stmt op next)
    (replied : sqlite.Replies true op daemon.store reply after) :
    Working service
      { daemon with
        store := after
        threads := Function.update daemon.threads thread (next reply) } past := by
  have uses := working.apart thread
  rw [waiting] at uses
  obtain ⟨stage, work, ready⟩ := working.staged
  constructor
  · intro other
    by_cases same : other = thread
    · subst same
      simpa using uses.2 reply
    · simpa [Function.update_of_ne same] using working.apart other
  · refine ⟨stage, work, ?_⟩
    rcases deliveries_reply uses.1 replied with same | ⟨columns, now, stored⟩
    · exact ready.same same
    · exact ready.queued stored

theorem working_of_polls [DecidableEq Thread] {requests : Thread → Request} {clock : Timestamp}
    (others : ∀ thread, requests thread ≠ .pollWebhooks)
    (polls : service.Polls (service.deployed requests clock) past daemon) :
    Working service daemon past := by
  induction polls with
  | start =>
      refine ⟨fun thread => Request.uses_apart service (others thread), .resting (.ok ()), rfl,
        trivial, ?_, ?_, trivial⟩
      · simp [Service.deployed, Db.empty]
      · simp
  | wait earlier clock later ih =>
      obtain ⟨stage, work, ready⟩ := ih.staged
      exact ⟨ih.apart, stage, work, ready.wait later⟩
  | again earlier ended ih => exact ih.again ended
  | work earlier waiting env now ih => exact ih.work waiting now
  | fail earlier waiting allowed ih => exact ih.fail waiting allowed
  | other earlier waiting replied ih => exact ih.other waiting replied

/-! ## Rows that have ended -/

theorem mem_recorded {db : Db} {crates : Crates} {due : Due} {outcome : PostOutcome} {env : Env}
    {row : WebhookDelivery} (member : row ∈ db.webhookDeliveries) (other : row.id ≠ due.id) :
    row ∈ (sqlite.apply env (recordOf crates due outcome) db).2.webhookDeliveries := by
  have untouched : ∀ {set : WebhookDelivery → WebhookDelivery}
      (kept : ∀ row, key (set row) = key row),
      row ∈ (db.setWebhook due.id set kept).webhookDeliveries := fun kept =>
    (mem_setWebhook kept).mpr ⟨row, member, if_neg other⟩
  exact recordOf_cases (motive := fun op => row ∈ (sqlite.apply env op db).2.webhookDeliveries)
    (fun _ => untouched _) (fun _ _ => untouched _) fun _ _ => untouched _

theorem Working.ended {op : Statement}
    {next : signature.Reply op → Program signature (Except SqlError Unit)}
    {row : WebhookDelivery} (working : Working service daemon past) (env : Env)
    (waiting : daemon.work = .stmt op next) (member : row ∈ daemon.store.webhookDeliveries)
    (ended : row.status ≠ .pending) :
    row ∈ (sqlite.apply env op daemon.store).2.webhookDeliveries ∧
      ∀ time reply, isPost row.id ⟨time, op, reply⟩ = false := by
  obtain ⟨stage, work, ready⟩ := working.staged
  have same := waiting.symm.trans work
  cases stage with
  | resting => cases same
  | polling =>
      rw [Stage.program_polling] at same
      cases same
      exact ⟨member, fun _ _ => rfl⟩
  | posting due rest =>
      rw [Stage.program_posting] at same
      cases same
      obtain ⟨posted, _, _, pending, _, only⟩ := Batch.head ready.reached
      refine ⟨member, fun _ _ => beq_eq_false_iff_ne.mpr fun about => ended ?_⟩
      rwa [only row member about.symm]
  | recording due outcome rest =>
      cases same
      obtain ⟨posted, _, _, pending, _, only⟩ := ready.reached.1.head
      refine ⟨mem_recorded member fun about => ended ?_, fun time reply => ?_⟩
      · rwa [only row member about]
      · have noPost : ∀ op : Statement, op.fallible → ∀ reply,
            isPost row.id ⟨time, op, reply⟩ = false := by
          intro op fallible reply
          cases op with
          | postWebhook => cases fallible
          | _ => rfl
        refine noPost _ ?_ reply
        exact recordOf_cases (fun _ => trivial) (fun _ _ => trivial) fun _ _ => trivial

theorem never_posted [DecidableEq Thread] {newer : List (Turn signature)}
    {later : Deployment Thread} {row : WebhookDelivery} (working : Working service daemon past)
    (member : row ∈ daemon.store.webhookDeliveries) (ended : row.status ≠ .pending)
    (polls : service.Polls daemon newer later) :
    Working service later (newer ++ past) ∧ row ∈ later.store.webhookDeliveries ∧
      ∀ turn ∈ newer, isPost row.id turn = false := by
  induction polls with
  | start => exact ⟨working, member, by simp⟩
  | wait earlier clock passed ih =>
      obtain ⟨⟨apart, stage, work, ready⟩, kept, silent⟩ := ih
      exact ⟨⟨apart, stage, work, ready.wait passed⟩, kept, silent⟩
  | again earlier finished ih => exact ⟨ih.1.again finished, ih.2⟩
  | work earlier waiting env now ih =>
      obtain ⟨still, kept, silent⟩ := ih
      obtain ⟨later, noPost⟩ := still.ended env waiting kept ended
      exact ⟨still.work waiting now, later, List.forall_mem_cons.mpr ⟨noPost _ _, silent⟩⟩
  | fail earlier waiting allowed ih =>
      obtain ⟨still, kept, silent⟩ := ih
      refine ⟨still.fail waiting allowed, kept, List.forall_mem_cons.mpr ⟨?_, silent⟩⟩
      exact (still.ended ⟨0, .status 0⟩ waiting kept ended).2 _ _
  | @other past daemon thread op next reply after earlier waiting replied ih =>
      obtain ⟨still, kept, silent⟩ := ih
      have uses := still.apart thread
      rw [waiting] at uses
      refine ⟨still.other waiting replied, ?_, silent⟩
      rcases deliveries_reply uses.1 replied with same | ⟨columns, now, stored⟩
      · rwa [same]
      · exact (Table.mem_insert? stored).mpr (.inl kept)

/-! ## Backoff -/

theorem heldUntil_of_failure {id : String} {newer older : List (Turn signature)}
    {event : Turn signature} (recorded : recordsFailure id event = true) :
    event.time + 1000 * min (2 ^ (tally id (event :: older)).failures) 3600 ≤
      heldUntil id (newer ++ event :: older) := by
  induction newer with
  | nil =>
      simp only [List.nil_append, heldUntil, recorded, if_true, tally, List.countP_cons]
      exact le_max_right _ _
  | cons turn newer ih =>
      simp only [List.cons_append, heldUntil]
      split
      · exact ih.trans (le_max_left _ _)
      · exact ih

theorem Spaced.post_after {id : String} {newer older : List (Turn signature)}
    {event post : Turn signature} (spaced : Spaced (newer ++ event :: older))
    (recorded : recordsFailure id event = true) (member : post ∈ newer)
    (posted : isPost id post = true) :
    event.time + 1000 * min (2 ^ (tally id (event :: older)).failures) 3600 ≤ post.time := by
  induction newer with
  | nil => cases member
  | cons turn newer ih =>
      rcases List.mem_cons.mp member with rfl | earlier
      · exact (heldUntil_of_failure recorded).trans (spaced.2 id posted)
      · exact ih spaced.1 earlier

end Webhook

end Runs

open Webhook in
/-- In every state that the worker and the requests beside it reach, a row of the
queue counts the POSTs that were recorded for it. A row that has ended is never
posted again, and after a recorded failure the next POST waits for the backoff. -/
theorem deliveries_accounted {Thread : Type} [DecidableEq Thread] {service : Service}
    {requests : Thread → Request} {clock : Timestamp} {past : List (Turn signature)}
    {daemon : Deployment Thread} (others : ∀ thread, requests thread ≠ .pollWebhooks)
    (polls : service.Polls (service.deployed requests clock) past daemon) {row : WebhookDelivery}
    (member : row ∈ daemon.store.webhookDeliveries) :
    row.attempts ≤ row.maxAttempts ∧
    row.attempts ≤ (tally row.id past).posts ∧
    ((tally row.id past).lost = 0 → ((tally row.id past).posts : Int) =
      row.attempts + if recordsNext row.id daemon.work then 1 else 0) ∧
    (row.status = .delivered → ∃ turn ∈ past, receives row.id row.payload turn = true) ∧
    (row.status = .failed → row.attempts = row.maxAttempts ∧
      row.maxAttempts ≤ (tally row.id past).misses ∧ (tally row.id past).successes = 0) ∧
    (row.status ≠ .pending → ∀ newer later, service.Polls daemon newer later →
      ∀ turn ∈ newer, isPost row.id turn = false) ∧
    ∀ newer event older, past = newer ++ event :: older → recordsFailure row.id event = true →
      ∀ post ∈ newer, isPost row.id post = true →
        event.time + 1000 * min (2 ^ (tally row.id (event :: older)).failures) 3600 ≤
          post.time := by
  have working := working_of_polls others polls
  obtain ⟨stage, work, ready⟩ := working.staged
  obtain ⟨recorded, posted, missed, standing⟩ := ready.rows row member
  have recording : recordsNext row.id daemon.work = stage.records row.id := by
    rw [work, recordsNext_program]
  refine ⟨?_, ?_, fun none => ?_, fun delivered => ?_, fun failed => ?_, fun ended => ?_, ?_⟩
  · unfold Standing at standing
    cases status : row.status <;> simp only [status] at standing <;> omega
  · split at posted <;> omega
  · rw [posted, none, recording]
    push_cast
    omega
  · simp only [Standing, delivered] at standing
    exact standing.2
  · simp only [Standing, failed] at standing
    refine ⟨standing.1, ?_, standing.2⟩
    omega
  · exact fun newer later next => (never_posted working member ended next).2.2
  · rintro newer event older rfl failure post postMember isPost
    exact ready.spaced.post_after failure postMember isPost

/-- An order with a callback, and the message that pays it. -/
def notified : Bool → Request
  | false => .createCharge "1" ⟨"order-1", 50000, "BDT", none, none,
      some "https://shop.example/paid"⟩
  | true => samplePayment "a" "TRXA"

theorem notified_others : ∀ thread, notified thread ≠ .pollWebhooks := by
  rintro (_ | _) <;> exact nofun

/-- A delivery that the merchant accepts at the second attempt. -/
theorem deliveries_accounted_sample : ∃ past daemon,
    sampleService.Polls (sampleService.deployed notified 1000) past daemon ∧
    (∃ row ∈ daemon.store.webhookDeliveries, row.status = .delivered ∧ row.attempts = 2) ∧
    ∀ row ∈ daemon.store.webhookDeliveries, row.attempts ≤ (Webhook.tally row.id past).posts := by
  have deployed : sampleService.Polls (sampleService.deployed notified 1000) [] _ := .start
  have queued := (deployed.serves sampleEnv false 2).serves sampleEnv true 8
  have missed := (queued.restarts (by decide +kernel)).works ⟨1000, .status 500⟩ rfl 3
  have later := missed.wait 3000 (by decide)
  have polls := (later.restarts (by decide +kernel)).works ⟨3000, .status 200⟩ rfl 3
  exact ⟨_, _, polls, by decide +kernel, fun row member =>
    (deliveries_accounted notified_others polls member).2.1⟩

/-- Between a POST and its UPDATE the row does not count the POST yet. -/
theorem posted_before_recorded : ∃ past daemon,
    sampleService.Polls (sampleService.deployed notified 1000) past daemon ∧
    ∃ row ∈ daemon.store.webhookDeliveries, (Webhook.tally row.id past).lost = 0 ∧
      (Webhook.tally row.id past).posts = 1 ∧ row.attempts = 0 := by
  have deployed : sampleService.Polls (sampleService.deployed notified 1000) [] _ := .start
  have queued := (deployed.serves sampleEnv false 2).serves sampleEnv true 8
  have posted := (queued.restarts (by decide +kernel)).works sampleEnv rfl 2
  exact ⟨_, _, posted, by decide +kernel⟩

end SpritexPay
