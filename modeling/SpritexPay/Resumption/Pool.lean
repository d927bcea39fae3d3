import SpritexPay.Resumption.Program
import Mathlib.Logic.Function.Basic
import Mathlib.Data.List.Basic

/-! Interleaved execution of a family of programs over one store. Each step
executes one statement of one thread; the others wait. A thread that is never
scheduled again models a program that stopped, so every reachable
configuration also covers all the ways of stopping short of it. -/

set_option autoImplicit false

namespace SpritexPay.Resumption

variable {sig : Signature} {Env Store Thread Value : Type}

structure Act (sig : Signature) (Store : Type) where
  op : sig.Op
  reply : sig.Reply op
  before : Store
  after : Store

structure Config (sig : Signature) (Store Thread Value : Type) where
  store : Store
  threads : Thread → Program sig Value

/-- An act of a thread of the pool. `threads` are the programs of the whole
pool just before it. -/
structure Event (sig : Signature) (Store Thread Value : Type) where
  thread : Thread
  act : Act sig Store
  threads : Thread → Program sig Value

/-- The replies a statement can receive at a store. With `faults` it may also
fail for an outside reason, which leaves the store alone. -/
inductive Machine.Replies (machine : Machine sig Env Store) (faults : Bool) (op : sig.Op)
    (before : Store) : sig.Reply op → Store → Prop where
  | commit (env : Env) :
      Replies machine faults op before (machine.apply env op before).1
        (machine.apply env op before).2
  | fault (allowed : faults = true) :
      Replies machine faults op before (.error machine.fault) before

/-- A run of the pool: the events, newest first, that lead from `start` to a
configuration. -/
inductive Run [DecidableEq Thread] (machine : Machine sig Env Store) (faults : Bool)
    (start : Config sig Store Thread Value) :
    List (Event sig Store Thread Value) → Config sig Store Thread Value → Prop where
  | start : Run machine faults start [] start
  | step {past : List (Event sig Store Thread Value)} {config : Config sig Store Thread Value}
      {thread : Thread} {op : sig.Op} {next : sig.Reply op → Program sig Value}
      {reply : sig.Reply op} {after : Store}
      (earlier : Run machine faults start past config)
      (waiting : config.threads thread = .stmt op next)
      (replied : machine.Replies faults op config.store reply after) :
      Run machine faults start
        (⟨thread, ⟨op, reply, config.store, after⟩, config.threads⟩ :: past)
        ⟨after, Function.update config.threads thread (next reply)⟩

variable [DecidableEq Thread]

/-- Execute one statement of each scheduled thread in turn, all of them in one
environment. A thread that has finished is passed over. -/
def Config.schedule (machine : Machine sig Env Store) (env : Env) :
    List Thread → Config sig Store Thread Value → Config sig Store Thread Value
  | [], config => config
  | thread :: rest, config =>
      match config.threads thread with
      | .done _ => Config.schedule machine env rest config
      | .stmt op next =>
          let step := machine.apply env op config.store
          Config.schedule machine env rest
            ⟨step.2, Function.update config.threads thread (next step.1)⟩

def Config.trace (machine : Machine sig Env Store) (env : Env) :
    List Thread → Config sig Store Thread Value → List (Event sig Store Thread Value)
  | [], _ => []
  | thread :: rest, config =>
      match config.threads thread with
      | .done _ => Config.trace machine env rest config
      | .stmt op next =>
          let step := machine.apply env op config.store
          Config.trace machine env rest
            ⟨step.2, Function.update config.threads thread (next step.1)⟩ ++
            [⟨thread, ⟨op, step.1, config.store, step.2⟩, config.threads⟩]

theorem Run.schedule {machine : Machine sig Env Store} {faults : Bool}
    {start config : Config sig Store Thread Value} {past : List (Event sig Store Thread Value)}
    (run : Run machine faults start past config) (env : Env) (threads : List Thread) :
    Run machine faults start (config.trace machine env threads ++ past)
      (config.schedule machine env threads) := by
  induction threads generalizing past config with
  | nil => exact run
  | cons thread rest ih =>
      cases waiting : config.threads thread with
      | done value =>
          simp only [Config.schedule, Config.trace, waiting]
          exact ih run
      | stmt op next =>
          have later := ih (run.step waiting (.commit env))
          simp only [Config.schedule, Config.trace, waiting]
          rwa [List.append_assoc]

theorem Run.scheduled (machine : Machine sig Env Store) (faults : Bool)
    (start : Config sig Store Thread Value) (env : Env) (threads : List Thread) :
    Run machine faults start (start.trace machine env threads)
      (start.schedule machine env threads) := by
  have run := (Run.start : Run machine faults start [] start).schedule env threads
  rwa [List.append_nil] at run

/-- What one thread has executed so far, newest first. -/
def log (past : List (Event sig Store Thread Value)) (thread : Thread) : List (Act sig Store) :=
  (past.filter fun event => decide (event.thread = thread)).map (·.act)

@[simp] theorem log_nil (thread : Thread) :
    log ([] : List (Event sig Store Thread Value)) thread = [] := rfl

theorem log_cons_of_ne (event : Event sig Store Thread Value)
    (past : List (Event sig Store Thread Value)) {thread : Thread}
    (other : event.thread ≠ thread) : log (event :: past) thread = log past thread := by
  simp [log, other]

theorem mem_log_iff {past : List (Event sig Store Thread Value)} {thread : Thread}
    {act : Act sig Store} :
    act ∈ log past thread ↔ ∃ event ∈ past, event.thread = thread ∧ event.act = act := by
  simp [log, and_assoc]

namespace Run

variable {machine : Machine sig Env Store} {faults : Bool}
  {start config : Config sig Store Thread Value}
  {past : List (Event sig Store Thread Value)}

/-- The events tell where a run has come to. -/
theorem unique {other : Config sig Store Thread Value} (run : Run machine faults start past config)
    (again : Run machine faults start past other) : other = config := by
  cases run with
  | start =>
      cases again
      rfl
  | @step past config _ _ next _ _ _ waiting _ =>
      obtain ⟨store, threads⟩ := config
      cases again with
      | step _ same _ =>
          obtain ⟨_, rfl⟩ := Program.stmt.inj (same.symm.trans waiting)
          rfl

/-- A run stops at each of its moments and goes on from there. -/
theorem split {newer : List (Event sig Store Thread Value)}
    (run : Run machine faults start (newer ++ past) config) :
    ∃ middle, Run machine faults start past middle ∧ Run machine faults middle newer config := by
  induction newer generalizing config with
  | nil => exact ⟨config, run, .start⟩
  | cons event newer ih =>
      cases run with
      | step earlier waiting replied =>
          obtain ⟨middle, before, after⟩ := ih earlier
          exact ⟨middle, before, after.step waiting replied⟩

theorem append {middle : Config sig Store Thread Value}
    {newer : List (Event sig Store Thread Value)} (run : Run machine faults start past middle)
    (later : Run machine faults middle newer config) :
    Run machine faults start (newer ++ past) config := by
  induction later with
  | start => exact run
  | step _ waiting replied ih => exact ih.step waiting replied

theorem event_cases {newer : List (Event sig Store Thread Value)}
    {event : Event sig Store Thread Value}
    (run : Run machine faults start (newer ++ event :: past) config) :
    ∃ middle next, Run machine faults start past middle ∧
      middle.store = event.act.before ∧ middle.threads = event.threads ∧
      event.threads event.thread = .stmt event.act.op next ∧
      machine.Replies faults event.act.op event.act.before event.act.reply event.act.after ∧
      Run machine faults start (event :: past)
        ⟨event.act.after,
          Function.update event.threads event.thread (next event.act.reply)⟩ := by
  obtain ⟨final, prefixRun, _⟩ := run.split
  cases prefixRun with
  | step earlier waiting replied =>
      exact ⟨_, _, earlier, rfl, rfl, waiting, replied, .step earlier waiting replied⟩

/-- A relation that contains every act of the machine and is a preorder holds
between the store before the run and the store after it. -/
theorem store_relates {relation : Store → Store → Prop}
    (refl : ∀ store, relation store store)
    (trans : ∀ {first second third}, relation first second → relation second third →
      relation first third)
    (acts : ∀ env op store, relation store (machine.apply env op store).2)
    (run : Run machine faults start past config) : relation start.store config.store := by
  induction run with
  | start => exact refl _
  | step _ _ replied ih =>
      cases replied with
      | commit env => exact trans ih (acts env _ _)
      | fault => exact ih

/-- What every program of the pool issues is all that happens. -/
theorem uses {allowed : sig.Op → Prop} {ends : Value → Prop}
    (run : Run machine faults start past config)
    (uses : ∀ thread, (start.threads thread).Uses allowed ends) :
    (∀ event ∈ past, allowed event.act.op) ∧
      ∀ thread, (config.threads thread).Uses allowed ends := by
  induction run with
  | start => exact ⟨by simp, uses⟩
  | @step past config stepped op next reply after _ waiting _ ih =>
      obtain ⟨happened, ahead⟩ := ih
      have stepping := ahead stepped
      rw [waiting] at stepping
      refine ⟨?_, fun thread => ?_⟩
      · intro event member
        rcases List.mem_cons.mp member with rfl | older
        · exact stepping.1
        · exact happened event older
      · by_cases same : thread = stepped
        · subst same
          simpa using stepping.2 reply
        · simpa [Function.update_of_ne same] using ahead thread

theorem store_relates_event {relation : Store → Store → Prop}
    (refl : ∀ store, relation store store)
    (trans : ∀ {first second third}, relation first second → relation second third →
      relation first third)
    (acts : ∀ env op store, relation store (machine.apply env op store).2)
    (run : Run machine faults start past config)
    {event : Event sig Store Thread Value} (member : event ∈ past) :
    relation event.act.after config.store := by
  induction run with
  | start => simp at member
  | step _ _ replied ih =>
      rcases List.mem_cons.mp member with rfl | olderMember
      · exact refl _
      · cases replied with
        | commit env => exact trans (ih olderMember) (acts env _ _)
        | fault => exact ih olderMember

/-- What does not hold at first and holds later is made to hold by some event. -/
theorem crossing {holds : Store → Prop} (run : Run machine faults start past config)
    (before : ¬holds start.store) (after : holds config.store) :
    ∃ newer event older, past = newer ++ event :: older ∧ ¬holds event.act.before ∧
      holds event.act.after := by
  induction run with
  | start => exact absurd after before
  | @step past config stepped op next reply later _ _ _ ih =>
      by_cases already : holds config.store
      · obtain ⟨newer, event, older, rfl, facts⟩ := ih already
        exact ⟨_ :: newer, event, older, rfl, facts⟩
      · exact ⟨[], _, past, rfl, already, after⟩

end Run

end SpritexPay.Resumption
