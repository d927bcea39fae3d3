import SpritexPay.Resumption.Failing

/-! Interrupted runs. A plan says what becomes of every statement a program may
issue; the program runs alone under it, to its end or to where it is stopped. -/

set_option autoImplicit false

namespace SpritexPay.Resumption

variable {sig : Signature} {Env Store Value Result : Type}

/-- What becomes of a statement: it is executed, it fails without effect and
the program sees the machine's fault, or the program stops just before it. -/
inductive Fate where
  | commit
  | fail
  | stop
  deriving DecidableEq, Repr

/-- Run a program under a plan for its statements. The result is `none` when
the program was stopped. -/
inductive Machine.RunsUnder (machine : Machine sig Env Store) (plan : sig.Op → Fate) :
    Program sig Value → Store → Option Value → Store → Prop where
  | done {value : Value} {store : Store} :
      machine.RunsUnder plan (.done value) store (some value) store
  | commit {op : sig.Op} {next : sig.Reply op → Program sig Value} {store after : Store}
      {result : Option Value} (planned : plan op = .commit) (env : Env)
      (rest : machine.RunsUnder plan (next (machine.apply env op store).1)
        (machine.apply env op store).2 result after) :
      machine.RunsUnder plan (.stmt op next) store result after
  | fail {op : sig.Op} {next : sig.Reply op → Program sig Value} {store after : Store}
      {result : Option Value} (planned : plan op = .fail)
      (rest : machine.RunsUnder plan (next (.error machine.fault)) store result after) :
      machine.RunsUnder plan (.stmt op next) store result after
  | stop {op : sig.Op} {next : sig.Reply op → Program sig Value} {store : Store}
      (planned : plan op = .stop) :
      machine.RunsUnder plan (.stmt op next) store none store

namespace Machine

/-- Run a program under a plan, every statement in one environment. -/
def runUnder (machine : Machine sig Env Store) (plan : sig.Op → Fate) (env : Env) :
    Program sig Value → Store → Option Value × Store
  | .done value, store => (some value, store)
  | .stmt op next, store =>
      match plan op with
      | .commit =>
          let step := machine.apply env op store
          machine.runUnder plan env (next step.1) step.2
      | .fail => machine.runUnder plan env (next (.error machine.fault)) store
      | .stop => (none, store)

theorem runsUnder_runUnder (machine : Machine sig Env Store) (plan : sig.Op → Fate) (env : Env)
    (program : Program sig Value) (store : Store) :
    machine.RunsUnder plan program store (machine.runUnder plan env program store).1
      (machine.runUnder plan env program store).2 := by
  induction program generalizing store with
  | done value => exact .done
  | stmt op next ih =>
      cases planned : plan op with
      | commit =>
          simp only [runUnder, planned]
          exact .commit planned env (ih _ _)
      | fail =>
          simp only [runUnder, planned]
          exact .fail planned (ih _ _)
      | stop =>
          simp only [runUnder, planned]
          exact .stop planned

variable {machine : Machine sig Env Store} {plan : sig.Op → Fate} {store after : Store}

theorem runsUnder_done {value : Value} {result : Option Value}
    (runs : machine.RunsUnder plan (.done value) store result after) :
    result = some value ∧ after = store := by
  cases runs
  exact ⟨rfl, rfl⟩

theorem runsUnder_bind {program : Program sig Value} {continuation : Value → Program sig Result}
    {result : Option Result}
    (runs : machine.RunsUnder plan (program >>= continuation) store result after) :
    (∃ value middle, machine.RunsUnder plan program store (some value) middle ∧
      machine.RunsUnder plan (continuation value) middle result after) ∨
    machine.RunsUnder plan program store none after ∧ result = none := by
  induction program generalizing store with
  | done value => exact .inl ⟨value, store, .done, runs⟩
  | stmt op next ih =>
      cases runs with
      | commit planned env rest =>
          rcases ih _ rest with ⟨value, middle, first, second⟩ | ⟨stopped, none⟩
          · exact .inl ⟨value, middle, .commit planned env first, second⟩
          · exact .inr ⟨.commit planned env stopped, none⟩
      | fail planned rest =>
          rcases ih _ rest with ⟨value, middle, first, second⟩ | ⟨stopped, none⟩
          · exact .inl ⟨value, middle, .fail planned first, second⟩
          · exact .inr ⟨.fail planned stopped, none⟩
      | stop planned => exact .inr ⟨.stop planned, rfl⟩

/-- A statement that ends the program on an error is executed, or it is where
the program ends: because of its fate, or because the store refuses it. -/
theorem runsUnder_issue {op : sig.Op} {failed : sig.Error → Value}
    {next : sig.Answer op → Program sig Value} {result : Option Value}
    (runs : machine.RunsUnder plan (.issue op failed next) store result after) :
    (plan op = .commit ∧ ∃ env answer middle, machine.exec env op store = .ok (answer, middle) ∧
      machine.RunsUnder plan (next answer) middle result after) ∨
    after = store ∧ (∀ value, result = some value → ∃ error, value = failed error) ∧
      (plan op ≠ .commit ∨ ∃ env error, machine.exec env op store = .error error) := by
  cases runs with
  | commit planned env rest =>
      cases executed : machine.exec env op store with
      | ok reply =>
          rw [apply_ok executed] at rest
          exact .inl ⟨planned, env, reply.1, reply.2, executed, rest⟩
      | error error =>
          rw [apply_error executed] at rest
          obtain ⟨rfl, rfl⟩ := runsUnder_done rest
          refine .inr ⟨rfl, ?_, .inr ⟨env, error, executed⟩⟩
          rintro _ ⟨⟩
          exact ⟨error, rfl⟩
  | fail planned rest =>
      obtain ⟨rfl, rfl⟩ := runsUnder_done rest
      refine .inr ⟨rfl, ?_, .inl (by simp [planned])⟩
      rintro _ ⟨⟩
      exact ⟨machine.fault, rfl⟩
  | stop planned => exact .inr ⟨rfl, by simp, .inl (by simp [planned])⟩

theorem Runs.undisturbed {program : Program sig Value} {value : Value}
    (runs : machine.Runs program store value after) :
    machine.RunsUnder (fun _ => .commit) program store (some value) after := by
  induction runs with
  | done => exact .done
  | stmt env _ ih => exact .commit rfl env ih

end Machine

end SpritexPay.Resumption
