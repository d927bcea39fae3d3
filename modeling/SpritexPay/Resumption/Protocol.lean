import SpritexPay.Resumption.Pool
import Mathlib.Algebra.BigOperators.Group.Finset.Piecewise
import Mathlib.Data.Fintype.Basic

/-! Assertions about the threads of a pool under arbitrary interference. Every
thread owns a share of a ghost resource; the global invariant ties the store to
the sum of all the shares. A thread may rely on what any act of the machine
leaves unchanged, on the invariant, and on its own share and log, and on nothing
else about the threads it is interleaved with. Results hold of the runs in which
every statement is executed at a store that admits it. -/

set_option autoImplicit false

namespace SpritexPay.Resumption

variable {sig : Signature} {Env Store Thread Value Result Share : Type}

structure Protocol (machine : Machine sig Env Store) (Thread Value Share : Type)
    [AddCommMonoid Share] where
  /-- The global invariant, over the store and the sum of the shares. -/
  holds : Store → Share → Prop
  /-- What no act of the machine can undo. -/
  evolves : Store → Store → Prop
  /-- Where a thread may execute a statement. -/
  admits : Thread → sig.Op → Store → Prop
  /-- What a thread knows where it stands, from its own log and share. -/
  owns : Thread → Point sig Value → List (Act sig Store) → Share → Prop
  evolves_refl : ∀ store, evolves store store
  evolves_trans : ∀ {first second third},
    evolves first second → evolves second third → evolves first third
  evolves_apply : ∀ env op store, evolves store (machine.apply env op store).2

namespace Protocol

variable {machine : Machine sig Env Store} [AddCommMonoid Share]
  (protocol : Protocol machine Thread Value Share) (faults : Bool) (thread : Thread)

/-- Every statement of the program, executed at any later store that satisfies
the invariant, can trade the thread's share so that the invariant holds again.
`seen` is the store the thread last touched. -/
def Safe : Program sig Result → (Result → List (Act sig Store) → Share → Store → Prop) →
    List (Act sig Store) → Share → Store → Prop
  | .done value, post, log, share, seen => post value log share seen
  | .stmt op next, post, log, share, seen =>
      protocol.owns thread (.running op) log share ∧
      ∀ before frame, protocol.evolves seen before → protocol.holds before (share + frame) →
        protocol.admits thread op before →
        ∀ reply after, machine.Replies faults op before reply after →
          ∃ traded, protocol.holds after (traded + frame) ∧
            Safe (next reply) post (⟨op, reply, before, after⟩ :: log) traded after

def SafeThread (program : Program sig Value) (log : List (Act sig Store)) (share : Share)
    (seen : Store) : Prop :=
  protocol.Safe faults thread program
    (fun value log share _ => protocol.owns thread (.finished value) log share) log share seen

variable {protocol faults thread}

theorem evolves_reply {op : sig.Op} {before after : Store} {reply : sig.Reply op}
    (replied : machine.Replies faults op before reply after) :
    protocol.evolves before after := by
  cases replied with
  | commit env => exact protocol.evolves_apply env op before
  | fault => exact protocol.evolves_refl before

theorem SafeThread.owns {program : Program sig Value} {log : List (Act sig Store)}
    {share : Share} {seen : Store}
    (safe : protocol.SafeThread faults thread program log share seen) :
    protocol.owns thread program.point log share := by
  cases program with
  | done value => exact safe
  | stmt op next => exact safe.1

theorem safe_bind {program : Program sig Result} {Final : Type}
    {continuation : Result → Program sig Final}
    {post : Final → List (Act sig Store) → Share → Store → Prop}
    {log : List (Act sig Store)} {share : Share} {seen : Store}
    (safe : protocol.Safe faults thread program
      (fun value => protocol.Safe faults thread (continuation value) post) log share seen) :
    protocol.Safe faults thread (program >>= continuation) post log share seen := by
  induction program generalizing log share seen with
  | done value => exact safe
  | stmt op next ih =>
      refine ⟨safe.1, fun before frame later holds admitted reply after replied => ?_⟩
      obtain ⟨traded, kept, rest⟩ := safe.2 before frame later holds admitted reply after replied
      exact ⟨traded, kept, ih reply rest⟩

theorem safe_mono {program : Program sig Result}
    {post weaker : Result → List (Act sig Store) → Share → Store → Prop}
    {log : List (Act sig Store)} {share : Share} {seen : Store}
    (safe : protocol.Safe faults thread program post log share seen)
    (implies : ∀ value log share seen, post value log share seen → weaker value log share seen) :
    protocol.Safe faults thread program weaker log share seen := by
  induction program generalizing log share seen with
  | done value => exact implies _ _ _ _ safe
  | stmt op next ih =>
      refine ⟨safe.1, fun before frame later holds admitted reply after replied => ?_⟩
      obtain ⟨traded, kept, rest⟩ := safe.2 before frame later holds admitted reply after replied
      exact ⟨traded, kept, ih reply rest⟩

theorem safe_stmt_neutral {op : sig.Op} {next : sig.Reply op → Program sig Result}
    {post : Result → List (Act sig Store) → Share → Store → Prop}
    {log : List (Act sig Store)} {share : Share} {seen : Store}
    (owned : protocol.owns thread (.running op) log share)
    (neutral : ∀ before total reply after, protocol.holds before total →
      machine.Replies faults op before reply after → protocol.holds after total)
    (rest : ∀ before reply after, protocol.evolves seen before →
      protocol.admits thread op before → machine.Replies faults op before reply after →
      protocol.Safe faults thread (next reply) post (⟨op, reply, before, after⟩ :: log) share
        after) :
    protocol.Safe faults thread (.stmt op next) post log share seen :=
  ⟨owned, fun before frame later holds admitted reply after replied =>
    ⟨share, neutral before (share + frame) reply after holds replied,
      rest before reply after later admitted replied⟩⟩

/-- A program whose statements all keep the invariant, and whatever is asked of
the log, runs to its end with the share it started with. -/
theorem safe_of_uses {allowed : sig.Op → Prop} {ends : Result → Prop}
    {kept : List (Act sig Store) → Prop}
    {program : Program sig Result}
    {post : Result → List (Act sig Store) → Share → Store → Prop}
    {log : List (Act sig Store)} {share : Share} {seen : Store}
    (uses : program.Uses allowed ends) (start : kept log)
    (owned : ∀ op log, allowed op → kept log → protocol.owns thread (.running op) log share)
    (neutral : ∀ op, allowed op → ∀ before total reply after, protocol.holds before total →
      machine.Replies faults op before reply after → protocol.holds after total)
    (extend : ∀ op reply before after log, allowed op →
      machine.Replies faults op before reply after → kept log →
      kept (⟨op, reply, before, after⟩ :: log))
    (finish : ∀ value log later, ends value → protocol.evolves seen later → kept log →
      post value log share later) :
    protocol.Safe faults thread program post log share seen := by
  induction program generalizing log seen with
  | done value => exact finish value log seen uses (protocol.evolves_refl seen) start
  | stmt op next ih =>
      refine safe_stmt_neutral (owned op log uses.1 start) (neutral op uses.1) ?_
      intro before reply after later _ replied
      refine ih reply (uses.2 reply) (extend op reply before after log uses.1 replied start) ?_
      intro value log last ended grown
      exact finish value log last ended
        (protocol.evolves_trans later (protocol.evolves_trans (evolves_reply replied) grown))

/-! ## Runs of the pool -/

variable [DecidableEq Thread] [Fintype Thread]

variable (protocol faults) in
/-- The invariant of a pool: some division of the ghost resource satisfies the
global invariant and every thread. -/
def PoolSafe (past : List (Event sig Store Thread Value))
    (config : Config sig Store Thread Value) : Prop :=
  ∃ shares : Thread → Share, protocol.holds config.store (∑ thread, shares thread) ∧
    ∀ thread, ∃ seen, protocol.evolves seen config.store ∧
      protocol.SafeThread faults thread (config.threads thread) (log past thread)
        (shares thread) seen

theorem PoolSafe.step {past : List (Event sig Store Thread Value)}
    {config : Config sig Store Thread Value} {op : sig.Op}
    {next : sig.Reply op → Program sig Value} {reply : sig.Reply op} {after : Store}
    (safe : protocol.PoolSafe faults past config)
    (waiting : config.threads thread = .stmt op next)
    (admitted : protocol.admits thread op config.store)
    (replied : machine.Replies faults op config.store reply after) :
    protocol.PoolSafe faults
      (⟨thread, ⟨op, reply, config.store, after⟩, config.threads⟩ :: past)
      ⟨after, Function.update config.threads thread (next reply)⟩ := by
  obtain ⟨shares, holds, threads⟩ := safe
  obtain ⟨seen, later, own⟩ := threads thread
  rw [waiting] at own
  have split : shares thread + ∑ other ∈ Finset.univ.erase thread, shares other =
      ∑ other, shares other := Finset.add_sum_erase _ shares (Finset.mem_univ thread)
  rw [← split] at holds
  obtain ⟨traded, kept, rest⟩ := own.2 config.store _ later holds admitted reply after replied
  have total : ∑ other, Function.update shares thread traded other =
      traded + ∑ other ∈ Finset.univ.erase thread, shares other := by
    rw [Finset.sum_update_of_mem (Finset.mem_univ thread), Finset.sdiff_singleton_eq_erase]
  refine ⟨Function.update shares thread traded, by rwa [total], fun other => ?_⟩
  by_cases same : other = thread
  · subst same
    refine ⟨after, protocol.evolves_refl after, ?_⟩
    simpa [log, SafeThread] using rest
  · obtain ⟨otherSeen, otherLater, otherSafe⟩ := threads other
    refine ⟨otherSeen, protocol.evolves_trans otherLater (evolves_reply replied), ?_⟩
    rw [log_cons_of_ne _ _ (Ne.symm same)]
    simpa [Function.update_of_ne same] using otherSafe

variable (protocol) in
def Admitted (past : List (Event sig Store Thread Value)) : Prop :=
  ∀ event ∈ past, protocol.admits event.thread event.act.op event.act.before

/-- Every reachable configuration of a pool that starts safe is safe. -/
theorem run_safe {start config : Config sig Store Thread Value}
    {past : List (Event sig Store Thread Value)}
    (initial : protocol.PoolSafe faults [] start) (admitted : protocol.Admitted past)
    (run : Run machine faults start past config) : protocol.PoolSafe faults past config := by
  induction run with
  | start => exact initial
  | step _ waiting replied ih =>
      have older := ih fun event member => admitted event (List.mem_cons_of_mem _ member)
      exact older.step waiting (admitted _ List.mem_cons_self) replied

theorem poolSafe_start {start : Config sig Store Thread Value} (shares : Thread → Share)
    (holds : protocol.holds start.store (∑ thread, shares thread))
    (threads : ∀ thread, protocol.SafeThread faults thread (start.threads thread) []
      (shares thread) start.store) : protocol.PoolSafe faults [] start :=
  ⟨shares, holds, fun thread => ⟨start.store, protocol.evolves_refl _, threads thread⟩⟩

/-- What a thread owned when it issued the statement of an event of the run. -/
theorem run_owns_event {start config : Config sig Store Thread Value}
    {newer past : List (Event sig Store Thread Value)} {event : Event sig Store Thread Value}
    (initial : protocol.PoolSafe faults [] start) (admitted : protocol.Admitted past)
    (run : Run machine faults start (newer ++ event :: past) config) :
    ∃ share, protocol.owns event.thread (.running event.act.op) (log past event.thread)
      share := by
  obtain ⟨middle, next, earlier, _, threads, waiting, _⟩ := run.event_cases
  obtain ⟨shares, _, safe⟩ := run_safe initial admitted earlier
  obtain ⟨_, _, own⟩ := safe event.thread
  have owned := own.owns
  rw [threads, waiting] at owned
  exact ⟨shares event.thread, owned⟩

end Protocol

end SpritexPay.Resumption
