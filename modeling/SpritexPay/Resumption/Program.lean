import Mathlib.Logic.Basic

/-! Resumption programs. A program is a tree of atomic statements: it either
has finished with a value or issues one statement and continues with the
reply. Nothing here fixes the statements, the store or the errors. -/

set_option autoImplicit false

namespace SpritexPay.Resumption

/-- The statements of a programming interface, the answer each one gives when
it succeeds, and the errors any of them may return instead. -/
structure Signature where
  Op : Type
  Answer : Op → Type
  Error : Type

abbrev Signature.Reply (sig : Signature) (op : sig.Op) : Type :=
  Except sig.Error (sig.Answer op)

inductive Program (sig : Signature) (Value : Type) : Type where
  | done (value : Value)
  | stmt (op : sig.Op) (next : sig.Reply op → Program sig Value)

inductive Point (sig : Signature) (Value : Type) : Type where
  | running (op : sig.Op)
  | finished (value : Value)

variable {sig : Signature} {Value Result : Type}

namespace Program

def bind : Program sig Value → (Value → Program sig Result) → Program sig Result
  | .done value, continuation => continuation value
  | .stmt op next, continuation => .stmt op fun reply => (next reply).bind continuation

instance : Monad (Program sig) where
  pure := .done
  bind := bind

@[simp] theorem pure_eq_done (value : Value) :
    (pure value : Program sig Value) = .done value := rfl

@[simp] theorem done_bind (value : Value) (continuation : Value → Program sig Result) :
    (Program.done value >>= continuation) = continuation value := rfl

@[simp] theorem stmt_bind (op : sig.Op) (next : sig.Reply op → Program sig Value)
    (continuation : Value → Program sig Result) :
    (Program.stmt op next >>= continuation) =
      .stmt op fun reply => next reply >>= continuation := rfl

theorem stmt_congr {op : sig.Op} {next other : sig.Reply op → Program sig Value}
    (same : ∀ reply, next reply = other reply) : Program.stmt op next = .stmt op other :=
  congrArg (Program.stmt op) (funext same)

theorem bind_congr {program : Program sig Value} {first second : Value → Program sig Result}
    (same : ∀ value, first value = second value) : (program >>= first) = program >>= second :=
  congrArg (program >>= ·) (funext same)

theorem bind_assoc {Final : Type} (program : Program sig Value)
    (first : Value → Program sig Result) (second : Result → Program sig Final) :
    ((program >>= first) >>= second) = program >>= fun value => first value >>= second := by
  induction program with
  | done value => rfl
  | stmt op next ih => exact stmt_congr ih

def point : Program sig Value → Point sig Value
  | .done value => .finished value
  | .stmt op _ => .running op

/-- Whatever the replies, every statement the program issues is allowed and
every value it ends with is as stated. -/
def Uses (allowed : sig.Op → Prop) (ends : Value → Prop) : Program sig Value → Prop
  | .done value => ends value
  | .stmt op next => allowed op ∧ ∀ reply, (next reply).Uses allowed ends

section Uses

variable {allowed wider : sig.Op → Prop} {ends weaker : Value → Prop} {endsLater : Result → Prop}

@[simp] theorem uses_done (value : Value) :
    (Program.done value : Program sig Value).Uses allowed ends ↔ ends value := Iff.rfl

@[simp] theorem uses_stmt (op : sig.Op) (next : sig.Reply op → Program sig Value) :
    (Program.stmt op next).Uses allowed ends ↔
      allowed op ∧ ∀ reply, (next reply).Uses allowed ends := Iff.rfl

theorem Uses.bind {program : Program sig Value} {continuation : Value → Program sig Result}
    (first : program.Uses allowed ends)
    (rest : ∀ value, ends value → (continuation value).Uses allowed endsLater) :
    (program >>= continuation).Uses allowed endsLater := by
  induction program with
  | done value => exact rest value first
  | stmt op next ih => exact ⟨first.1, fun reply => ih reply (first.2 reply)⟩

theorem Uses.mono {program : Program sig Value} (uses : program.Uses allowed ends)
    (ops : ∀ op, allowed op → wider op) (values : ∀ value, ends value → weaker value) :
    program.Uses wider weaker := by
  induction program with
  | done value => exact values value uses
  | stmt op next ih => exact ⟨ops op uses.1, fun reply => ih reply (uses.2 reply)⟩

theorem Uses.and {other : sig.Op → Prop} {program : Program sig Value}
    (first : program.Uses allowed ends) (second : program.Uses other weaker) :
    program.Uses (fun op => allowed op ∧ other op) fun value => ends value ∧ weaker value := by
  induction program with
  | done value => exact ⟨first, second⟩
  | stmt op next ih =>
      exact ⟨⟨first.1, second.1⟩, fun reply => ih reply (first.2 reply) (second.2 reply)⟩

end Uses

end Program

/-! ## Machines -/

/-- How the statements act on a store. A statement that returns an error leaves
the store as it was. `fault` is the error of a statement that failed for a
reason outside the store, such as a lost connection. -/
structure Machine (sig : Signature) (Env Store : Type) where
  exec : Env → (op : sig.Op) → Store → Except sig.Error (sig.Answer op × Store)
  fault : sig.Error

variable {Env Store : Type}

namespace Machine

def apply (machine : Machine sig Env Store) (env : Env) (op : sig.Op) (store : Store) :
    sig.Reply op × Store :=
  match machine.exec env op store with
  | .ok (answer, after) => (.ok answer, after)
  | .error error => (.error error, store)

theorem apply_ok {machine : Machine sig Env Store} {env : Env} {op : sig.Op}
    {store after : Store} {answer : sig.Answer op}
    (executed : machine.exec env op store = .ok (answer, after)) :
    machine.apply env op store = (.ok answer, after) := by
  simp only [apply, executed]

theorem apply_error {machine : Machine sig Env Store} {env : Env} {op : sig.Op}
    {store : Store} {error : sig.Error}
    (refused : machine.exec env op store = .error error) :
    machine.apply env op store = (.error error, store) := by
  simp only [apply, refused]

/-- Run a program alone to its end, the `n`-th statement in the `n`-th environment. -/
def run (machine : Machine sig Env Store) :
    Program sig Value → (Nat → Env) → Store → Value × Store
  | .done value, _, store => (value, store)
  | .stmt op next, envs, store =>
      let step := machine.apply (envs 0) op store
      machine.run (next step.1) (fun n => envs (n + 1)) step.2

theorem run_stmt_ok {machine : Machine sig Env Store} {op : sig.Op}
    {next : sig.Reply op → Program sig Value} {envs : Nat → Env} {store after : Store}
    {answer : sig.Answer op} (executed : machine.exec (envs 0) op store = .ok (answer, after)) :
    machine.run (.stmt op next) envs store =
      machine.run (next (.ok answer)) (fun n => envs (n + 1)) after := by
  rw [run, apply_ok executed]

theorem run_stmt_error {machine : Machine sig Env Store} {op : sig.Op}
    {next : sig.Reply op → Program sig Value} {envs : Nat → Env} {store : Store}
    {error : sig.Error} (refused : machine.exec (envs 0) op store = .error error) :
    machine.run (.stmt op next) envs store =
      machine.run (next (.error error)) (fun n => envs (n + 1)) store := by
  rw [run, apply_error refused]

/-- What is made of the outcome at the end takes no statement. -/
theorem run_bind_done (machine : Machine sig Env Store) (program : Program sig Value)
    (finish : Value → Result) (envs : Nat → Env) (store : Store) :
    machine.run (program >>= fun value => .done (finish value)) envs store =
      (finish (machine.run program envs store).1, (machine.run program envs store).2) := by
  induction program generalizing envs store with
  | done value => rfl
  | stmt op next ih => exact ih _ _ _

inductive Runs (machine : Machine sig Env Store) :
    Program sig Value → Store → Value → Store → Prop where
  | done {value : Value} {store : Store} : Runs machine (.done value) store value store
  | stmt {op : sig.Op} {next : sig.Reply op → Program sig Value} {store after : Store}
      {value : Value} (env : Env)
      (rest : Runs machine (next (machine.apply env op store).1)
        (machine.apply env op store).2 value after) :
      Runs machine (.stmt op next) store value after

theorem runs_run (machine : Machine sig Env Store) (program : Program sig Value)
    (envs : Nat → Env) (store : Store) :
    machine.Runs program store (machine.run program envs store).1
      (machine.run program envs store).2 := by
  induction program generalizing envs store with
  | done value => exact .done
  | stmt op next ih => exact .stmt (envs 0) (ih _ _ _)

theorem runs_done_iff {machine : Machine sig Env Store} {value result : Value}
    {store after : Store} :
    machine.Runs (.done value) store result after ↔ result = value ∧ after = store := by
  constructor
  · intro runs
    cases runs
    exact ⟨rfl, rfl⟩
  · rintro ⟨rfl, rfl⟩
    exact .done

theorem runs_stmt_iff {machine : Machine sig Env Store} {op : sig.Op}
    {next : sig.Reply op → Program sig Value} {store after : Store} {value : Value} :
    machine.Runs (.stmt op next) store value after ↔
      ∃ env, machine.Runs (next (machine.apply env op store).1)
        (machine.apply env op store).2 value after := by
  constructor
  · intro runs
    cases runs with
    | stmt env rest => exact ⟨env, rest⟩
  · rintro ⟨env, rest⟩
    exact .stmt env rest

theorem runs_bind_iff {machine : Machine sig Env Store} {program : Program sig Value}
    {continuation : Value → Program sig Result} {store after : Store} {result : Result} :
    machine.Runs (program >>= continuation) store result after ↔
      ∃ value middle, machine.Runs program store value middle ∧
        machine.Runs (continuation value) middle result after := by
  induction program generalizing store with
  | done value =>
      constructor
      · intro runs
        exact ⟨value, store, .done, runs⟩
      · rintro ⟨_, _, first, second⟩
        obtain ⟨rfl, rfl⟩ := runs_done_iff.mp first
        exact second
  | stmt op next ih =>
      constructor
      · intro runs
        obtain ⟨env, rest⟩ := runs_stmt_iff.mp runs
        obtain ⟨value, middle, first, second⟩ := (ih _).mp rest
        exact ⟨value, middle, .stmt env first, second⟩
      · rintro ⟨value, middle, first, second⟩
        obtain ⟨env, rest⟩ := runs_stmt_iff.mp first
        exact .stmt env ((ih _).mpr ⟨value, middle, rest, second⟩)

theorem Runs.relates {machine : Machine sig Env Store} {program : Program sig Value}
    {store after : Store} {value : Value} {allowed : sig.Op → Prop} {ends : Value → Prop}
    {relation : Store → Store → Prop} (runs : machine.Runs program store value after)
    (uses : program.Uses allowed ends) (refl : ∀ store, relation store store)
    (trans : ∀ {first second third}, relation first second → relation second third →
      relation first third)
    (acts : ∀ env op store, allowed op → relation store (machine.apply env op store).2) :
    ends value ∧ relation store after := by
  induction runs with
  | done => exact ⟨uses, refl _⟩
  | stmt env _ ih =>
      obtain ⟨ended, later⟩ := ih (uses.2 _)
      exact ⟨ended, trans (acts env _ _ uses.1) later⟩

end Machine

end SpritexPay.Resumption
