import SpritexPay.Resumption.Failing

/-! Invariants of a store that a program keeps with every statement. The
replies a program is followed through are those the store gives while the
invariant holds, so what is read may be relied on. -/

set_option autoImplicit false

namespace SpritexPay.Resumption

variable {sig : Signature} {Env Store Value Result : Type}

namespace Program

def Keeps (machine : Machine sig Env Store) (holds : Store → Prop) (ends : Value → Prop) :
    Program sig Value → Prop
  | .done value => ends value
  | .stmt op next => ∀ env store, holds store → holds (machine.apply env op store).2 ∧
      (next (machine.apply env op store).1).Keeps machine holds ends

variable {machine : Machine sig Env Store} {holds : Store → Prop} {ends : Value → Prop}

theorem Uses.keeps {allowed : sig.Op → Prop} {program : Program sig Value}
    (uses : program.Uses allowed ends)
    (statements : ∀ op, allowed op → ∀ env store, holds store →
      holds (machine.apply env op store).2) : program.Keeps machine holds ends := by
  induction program with
  | done value => exact uses
  | stmt op next ih =>
      intro env store kept
      exact ⟨statements op uses.1 env store kept, ih _ (uses.2 _)⟩

theorem Keeps.bind {program : Program sig Value} {continuation : Value → Program sig Result}
    {endsLater : Result → Prop} (first : program.Keeps machine holds ends)
    (rest : ∀ value, ends value → (continuation value).Keeps machine holds endsLater) :
    (program >>= continuation).Keeps machine holds endsLater := by
  induction program with
  | done value => exact rest value first
  | stmt op next ih =>
      intro env store kept
      obtain ⟨after, later⟩ := first env store kept
      exact ⟨after, ih _ later⟩

theorem keeps_issue {op : sig.Op} {failed : sig.Error → Value}
    {next : sig.Answer op → Program sig Value}
    (statement : ∀ env store answer after, holds store →
      machine.exec env op store = .ok (answer, after) →
      holds after ∧ (next answer).Keeps machine holds ends)
    (fails : ∀ error, ends (failed error)) :
    (Program.issue op failed next).Keeps machine holds ends := by
  intro env store kept
  cases executed : machine.exec env op store with
  | ok result =>
      rw [Machine.apply_ok executed]
      exact statement env store result.1 result.2 kept executed
  | error error =>
      rw [Machine.apply_error executed]
      exact ⟨kept, fails error⟩

end Program

theorem Machine.Runs.keeps {machine : Machine sig Env Store} {holds : Store → Prop}
    {ends : Value → Prop} {program : Program sig Value} {store after : Store} {value : Value}
    (runs : machine.Runs program store value after) (keeps : program.Keeps machine holds ends)
    (kept : holds store) : ends value ∧ holds after := by
  induction runs with
  | done => exact ⟨keeps, kept⟩
  | stmt env _ ih =>
      obtain ⟨later, rest⟩ := keeps env _ kept
      exact ih rest later

end SpritexPay.Resumption
