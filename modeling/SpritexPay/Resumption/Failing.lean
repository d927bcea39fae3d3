import SpritexPay.Resumption.Program

/-! Programs that may fail with an error of their own. `query` passes on the
error of a statement, `attempt` hands the reply to the program. -/

set_option autoImplicit false

namespace SpritexPay.Resumption

variable {sig : Signature} {Failure Value Result : Type}

/-- How a program that fails with `Failure` reports the error of a statement. -/
class FromError (Error Failure : Type) where
  fromError : Error → Failure

export FromError (fromError)

instance (Error : Type) : FromError Error Error := ⟨id⟩

def query [FromError sig.Error Failure] (op : sig.Op) :
    ExceptT Failure (Program sig) (sig.Answer op) :=
  .mk (.stmt op fun reply => .done (reply.mapError fromError))

def attempt (op : sig.Op) : ExceptT Failure (Program sig) (sig.Reply op) :=
  .mk (.stmt op fun reply => .done (.ok reply))

/-- Issue a statement and go on with its answer; an error ends the program. -/
def Program.issue (op : sig.Op) (failed : sig.Error → Value)
    (next : sig.Answer op → Program sig Value) : Program sig Value :=
  .stmt op fun
    | .ok answer => next answer
    | .error error => .done (failed error)

section Equations

theorem run_adapt {OtherFailure : Type} (convert : Failure → OtherFailure)
    (program : ExceptT Failure (Program sig) Value) :
    (program.adapt convert).run =
      program.run >>= fun outcome => .done (outcome.mapError convert) := rfl

theorem run_adapt_bind {OtherFailure : Type} (convert : Failure → OtherFailure)
    (program : ExceptT Failure (Program sig) Value)
    (rest : Value → ExceptT OtherFailure (Program sig) Result) :
    (program.adapt convert >>= rest).run = program.run >>= fun
      | .ok value => (rest value).run
      | .error failure => .done (.error (convert failure)) := by
  rw [ExceptT.run_bind, run_adapt, Program.bind_assoc]
  refine Program.bind_congr fun outcome => ?_
  cases outcome <;> rfl

theorem Program.issue_bind {op : sig.Op} {failed : sig.Error → Value}
    {next : sig.Answer op → Program sig Value} {continuation : Value → Program sig Result}
    {endsLater : sig.Error → Result}
    (ends : ∀ error, continuation (failed error) = .done (endsLater error)) :
    (Program.issue op failed next >>= continuation) =
      .issue op endsLater fun answer => next answer >>= continuation :=
  Program.stmt_congr fun reply => by
    cases reply with
    | ok answer => rfl
    | error error => exact ends error

end Equations

section Uses

variable {allowed : sig.Op → Prop} {ends : Except Failure Value → Prop}
  {endsLater : Except Failure Result → Prop}

theorem uses_bind {program : ExceptT Failure (Program sig) Value}
    {rest : Value → ExceptT Failure (Program sig) Result} (first : program.run.Uses allowed ends)
    (succeeded : ∀ value, ends (.ok value) → (rest value).run.Uses allowed endsLater)
    (failed : ∀ failure, ends (.error failure) → endsLater (.error failure)) :
    (program >>= rest).run.Uses allowed endsLater := by
  rw [ExceptT.run_bind]
  refine first.bind fun outcome ended => ?_
  cases outcome with
  | ok value => exact succeeded value ended
  | error failure => exact failed failure ended

theorem uses_adapt {OtherFailure : Type} {convert : Failure → OtherFailure}
    {program : ExceptT Failure (Program sig) Value} {endsLater : Except OtherFailure Value → Prop}
    (uses : program.run.Uses allowed fun outcome => endsLater (outcome.mapError convert)) :
    (program.adapt convert).run.Uses allowed endsLater := by
  rw [run_adapt]
  exact uses.bind fun outcome ended => ended

theorem uses_issue {op : sig.Op} {failed : sig.Error → Value}
    {next : sig.Answer op → Program sig Value} {ends : Value → Prop} (permitted : allowed op)
    (succeeded : ∀ answer, (next answer).Uses allowed ends) (fails : ∀ error, ends (failed error)) :
    (Program.issue op failed next).Uses allowed ends :=
  ⟨permitted, fun reply => by
    cases reply with
    | ok answer => exact succeeded answer
    | error error => exact fails error⟩

end Uses

section Runs

variable {Env Store : Type} {machine : Machine sig Env Store}

theorem runs_issue_cases {op : sig.Op} {failed : sig.Error → Value}
    {next : sig.Answer op → Program sig Value} {store after : Store} {value : Value}
    (runs : machine.Runs (.issue op failed next) store value after) :
    (∃ env answer middle, machine.exec env op store = .ok (answer, middle) ∧
      machine.Runs (next answer) middle value after) ∨
    ∃ env error, machine.exec env op store = .error error ∧ value = failed error ∧
      after = store := by
  obtain ⟨env, rest⟩ := Machine.runs_stmt_iff.mp runs
  cases executed : machine.exec env op store with
  | ok result =>
      rw [Machine.apply_ok executed] at rest
      exact .inl ⟨env, result.1, result.2, executed, rest⟩
  | error error =>
      rw [Machine.apply_error executed] at rest
      obtain ⟨rfl, rfl⟩ := Machine.runs_done_iff.mp rest
      exact .inr ⟨env, error, executed, rfl, rfl⟩

theorem runs_query_ok [FromError sig.Error Failure] {op : sig.Op} {store after : Store}
    {answer : sig.Answer op}
    (runs :
      machine.Runs (query op : ExceptT Failure (Program sig) _).run store (.ok answer) after) :
    ∃ env, machine.exec env op store = .ok (answer, after) := by
  obtain ⟨env, rest⟩ := Machine.runs_stmt_iff.mp runs
  cases executed : machine.exec env op store with
  | ok result =>
      rw [Machine.apply_ok executed] at rest
      obtain ⟨same, rfl⟩ := Machine.runs_done_iff.mp rest
      cases same
      exact ⟨env, executed⟩
  | error error =>
      rw [Machine.apply_error executed] at rest
      obtain ⟨same, _⟩ := Machine.runs_done_iff.mp rest
      cases same

theorem runs_bind_cases {program : ExceptT Failure (Program sig) Value}
    {rest : Value → ExceptT Failure (Program sig) Result} {store after : Store}
    {outcome : Except Failure Result}
    (runs : machine.Runs (program >>= rest).run store outcome after) :
    (∃ value middle, machine.Runs program.run store (.ok value) middle ∧
      machine.Runs (rest value).run middle outcome after) ∨
    (∃ failure, machine.Runs program.run store (.error failure) after ∧
      outcome = .error failure) := by
  rw [ExceptT.run_bind] at runs
  obtain ⟨first, middle, run, finish⟩ := Machine.runs_bind_iff.mp runs
  cases first with
  | ok value => exact .inl ⟨value, middle, run, finish⟩
  | error failure =>
      obtain ⟨rfl, rfl⟩ := Machine.runs_done_iff.mp finish
      exact .inr ⟨failure, run, rfl⟩

/-- A program that can only end in one way is as good as its value. -/
theorem runs_bind_of_ends {program : ExceptT Failure (Program sig) Value}
    {rest : Value → ExceptT Failure (Program sig) Result} {store middle after : Store}
    {value : Value} {outcome : Except Failure Result}
    (ends : ∀ {first between}, machine.Runs program.run store first between →
      first = .ok value ∧ between = middle)
    (runs : machine.Runs (program >>= rest).run store outcome after) :
    machine.Runs (rest value).run middle outcome after := by
  rcases runs_bind_cases runs with ⟨found, between, first, later⟩ | ⟨failure, first, _⟩
  · obtain ⟨same, rfl⟩ := ends first
    cases same
    exact later
  · cases (ends first).1

/-- A statement that every environment answers alike is as good as its answer. -/
theorem runs_query_bind [FromError sig.Error Failure] {op : sig.Op}
    {rest : sig.Answer op → ExceptT Failure (Program sig) Result} {store written after : Store}
    {answer : sig.Answer op} {outcome : Except Failure Result}
    (executes : ∀ env, machine.exec env op store = .ok (answer, written))
    (runs : machine.Runs (query op >>= rest).run store outcome after) :
    machine.Runs (rest answer).run written outcome after := by
  obtain ⟨env, later⟩ := Machine.runs_stmt_iff.mp runs
  rw [Machine.apply_ok (executes env)] at later
  exact later

end Runs

end SpritexPay.Resumption
