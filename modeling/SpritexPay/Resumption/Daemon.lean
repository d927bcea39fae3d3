import SpritexPay.Resumption.Pool

/-! A program that is started again whenever it has ended, beside a pool of
programs over the same store. The daemon reads a clock that never goes back.
What the clock shows to the other programs is left open. -/

set_option autoImplicit false

namespace SpritexPay.Resumption

variable {sig : Signature} {Env Store Thread Value Result : Type}

/-- A statement of the daemon, when it was executed, and the reply it got. -/
structure Turn (sig : Signature) where
  time : Nat
  op : sig.Op
  reply : sig.Reply op

structure Daemon (sig : Signature) (Store Thread Value Result : Type) where
  store : Store
  clock : Nat
  work : Program sig Result
  threads : Thread → Program sig Value

/-- A run of the daemon and the pool: the turns of the daemon, newest first.
The daemon's statements execute at the time the clock shows; those that are
fallible may also fail for an outside reason, like all others of the pool. -/
inductive Daemon.Run [DecidableEq Thread] (machine : Machine sig Env Store) (time : Env → Nat)
    (fallible : sig.Op → Prop) (loop : Program sig Result)
    (start : Daemon sig Store Thread Value Result) :
    List (Turn sig) → Daemon sig Store Thread Value Result → Prop where
  | start : Run machine time fallible loop start [] start
  | wait {past : List (Turn sig)} {daemon : Daemon sig Store Thread Value Result}
      (earlier : Run machine time fallible loop start past daemon) (clock : Nat)
      (later : daemon.clock ≤ clock) :
      Run machine time fallible loop start past { daemon with clock }
  | again {past : List (Turn sig)} {daemon : Daemon sig Store Thread Value Result}
      {result : Result} (earlier : Run machine time fallible loop start past daemon)
      (ended : daemon.work = .done result) :
      Run machine time fallible loop start past { daemon with work := loop }
  | work {past : List (Turn sig)} {daemon : Daemon sig Store Thread Value Result} {op : sig.Op}
      {next : sig.Reply op → Program sig Result}
      (earlier : Run machine time fallible loop start past daemon)
      (waiting : daemon.work = .stmt op next) (env : Env) (now : time env = daemon.clock) :
      Run machine time fallible loop start
        (⟨daemon.clock, op, (machine.apply env op daemon.store).1⟩ :: past)
        { daemon with
          store := (machine.apply env op daemon.store).2
          work := next (machine.apply env op daemon.store).1 }
  | fail {past : List (Turn sig)} {daemon : Daemon sig Store Thread Value Result} {op : sig.Op}
      {next : sig.Reply op → Program sig Result}
      (earlier : Run machine time fallible loop start past daemon)
      (waiting : daemon.work = .stmt op next) (allowed : fallible op) :
      Run machine time fallible loop start (⟨daemon.clock, op, .error machine.fault⟩ :: past)
        { daemon with work := next (.error machine.fault) }
  | other {past : List (Turn sig)} {daemon : Daemon sig Store Thread Value Result}
      {thread : Thread} {op : sig.Op} {next : sig.Reply op → Program sig Value}
      {reply : sig.Reply op} {after : Store}
      (earlier : Run machine time fallible loop start past daemon)
      (waiting : daemon.threads thread = .stmt op next)
      (replied : machine.Replies true op daemon.store reply after) :
      Run machine time fallible loop start past
        { daemon with
          store := after
          threads := Function.update daemon.threads thread (next reply) }

namespace Daemon.Run

variable [DecidableEq Thread] {machine : Machine sig Env Store} {time : Env → Nat}
  {fallible : sig.Op → Prop} {loop : Program sig Result}
  {start daemon : Daemon sig Store Thread Value Result} {past : List (Turn sig)}

theorem append {later : Daemon sig Store Thread Value Result} {newer : List (Turn sig)}
    (run : Run machine time fallible loop start past daemon)
    (next : Run machine time fallible loop daemon newer later) :
    Run machine time fallible loop start (newer ++ past) later := by
  induction next with
  | start => exact run
  | wait _ clock later ih => exact ih.wait clock later
  | again _ ended ih => exact ih.again ended
  | work _ waiting env now ih => exact ih.work waiting env now
  | fail _ waiting allowed ih => exact ih.fail waiting allowed
  | other _ waiting replied ih => exact ih.other waiting replied

end Daemon.Run

/-! ## Runs on fixed inputs -/

def Program.isDone : Program sig Value → Bool
  | .done _ => true
  | .stmt _ _ => false

/-- Execute so many statements of a program, all of them in one environment. -/
def Machine.advance (machine : Machine sig Env Store) (env : Env) :
    Nat → Program sig Value → Store → Program sig Value × Store
  | 0, program, store => (program, store)
  | _ + 1, .done value, store => (.done value, store)
  | count + 1, .stmt op next, store =>
      let step := machine.apply env op store
      machine.advance env count (next step.1) step.2

def Machine.turns (machine : Machine sig Env Store) (env : Env) (time : Nat) :
    Nat → Program sig Value → Store → List (Turn sig)
  | 0, _, _ => []
  | _ + 1, .done _, _ => []
  | count + 1, .stmt op next, store =>
      let step := machine.apply env op store
      machine.turns env time count (next step.1) step.2 ++ [⟨time, op, step.1⟩]

namespace Daemon.Run

variable [DecidableEq Thread] {machine : Machine sig Env Store} {time : Env → Nat}
  {fallible : sig.Op → Prop} {loop : Program sig Result}
  {start daemon : Daemon sig Store Thread Value Result} {past : List (Turn sig)}

theorem works (run : Run machine time fallible loop start past daemon) (env : Env)
    (now : time env = daemon.clock) (count : Nat) :
    Run machine time fallible loop start
      (machine.turns env daemon.clock count daemon.work daemon.store ++ past)
      { daemon with
        store := (machine.advance env count daemon.work daemon.store).2
        work := (machine.advance env count daemon.work daemon.store).1 } := by
  induction count generalizing past daemon with
  | zero => exact run
  | succ count ih =>
      cases waiting : daemon.work with
      | done value =>
          simp only [Machine.advance, Machine.turns, ← waiting]
          exact run
      | stmt op next =>
          have later := ih (run.work waiting env now) now
          simp only [Machine.advance, Machine.turns]
          rwa [List.append_assoc]

theorem restarts (run : Run machine time fallible loop start past daemon)
    (ended : daemon.work.isDone = true) :
    Run machine time fallible loop start past { daemon with work := loop } := by
  cases finished : daemon.work with
  | done result => exact run.again finished
  | stmt op next =>
      rw [finished] at ended
      cases ended

theorem serves (run : Run machine time fallible loop start past daemon) (env : Env)
    (thread : Thread) (count : Nat) :
    Run machine time fallible loop start past
      { daemon with
        store := (machine.advance env count (daemon.threads thread) daemon.store).2
        threads := Function.update daemon.threads thread
          (machine.advance env count (daemon.threads thread) daemon.store).1 } := by
  induction count generalizing daemon with
  | zero =>
      simp only [Machine.advance, Function.update_eq_self]
      exact run
  | succ count ih =>
      cases waiting : daemon.threads thread with
      | done value =>
          simp only [Machine.advance, ← waiting, Function.update_eq_self]
          exact run
      | stmt op next =>
          have later := ih (run.other waiting (.commit env))
          simp only [Function.update_self, Function.update_idem] at later
          exact later

end Daemon.Run

end SpritexPay.Resumption
