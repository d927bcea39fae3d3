import SpritexPay.Resumption.Annex
import SpritexPay.Resumption.Failing

/-! Programs among others. Between two statements of a program, before its first and
after its last the store may change as the others may change it. What is shown of a
program that runs so holds of every thread of a pool that has ended, whatever it was
interleaved with. -/

set_option autoImplicit false

namespace SpritexPay.Resumption

variable {sig : Signature} {Env Store Rest Thread Value Result Failure : Type}

/-- The program ends with the value while the others do to the store what is relied on. -/
inductive Machine.RunsAmong (machine : Machine sig Env Store) (faults : Bool)
    (rely : Store → Store → Prop) : Program sig Value → Store → Value → Store → Prop where
  | done {value : Value} {before after : Store} (others : rely before after) :
      RunsAmong machine faults rely (.done value) before value after
  | stmt {op : sig.Op} {next : sig.Reply op → Program sig Value} {reply : sig.Reply op}
      {start before after final : Store} {value : Value} (others : rely start before)
      (replied : machine.Replies faults op before reply after)
      (rest : RunsAmong machine faults rely (next reply) after value final) :
      RunsAmong machine faults rely (.stmt op next) start value final

section Rules

variable {machine : Machine sig Env Store} {faults : Bool} {rely : Store → Store → Prop}
  {start final : Store} {value : Value}

namespace Machine.RunsAmong

theorem earlier {program : Program sig Value} {first : Store}
    (trans : ∀ {first second third}, rely first second → rely second third → rely first third)
    (others : rely first start) (among : machine.RunsAmong faults rely program start value final) :
    machine.RunsAmong faults rely program first value final := by
  cases among with
  | done later => exact .done (trans others later)
  | stmt later replied rest => exact .stmt (trans others later) replied rest

theorem later {program : Program sig Value} {last : Store}
    (trans : ∀ {first second third}, rely first second → rely second third → rely first third)
    (among : machine.RunsAmong faults rely program start value final) (others : rely final last) :
    machine.RunsAmong faults rely program start value last := by
  induction among with
  | done before => exact .done (trans before others)
  | stmt before replied _ ih => exact .stmt before replied (ih others)

theorem ends {allowed : sig.Op → Prop} {ends : Value → Prop} {program : Program sig Value}
    (among : machine.RunsAmong faults rely program start value final)
    (uses : program.Uses allowed ends) : ends value := by
  induction among with
  | done => exact uses
  | stmt _ _ _ ih => exact ih (uses.2 _)

theorem relates {program : Program sig Value}
    (trans : ∀ {first second third}, rely first second → rely second third → rely first third)
    (acts : ∀ {op before reply after}, machine.Replies faults op before reply after →
      rely before after)
    (among : machine.RunsAmong faults rely program start value final) : rely start final := by
  induction among with
  | done others => exact others
  | stmt others replied _ ih => exact trans others (trans (acts replied) ih)

/-! ## Programs that may fail -/

end Machine.RunsAmong

end Rules

end SpritexPay.Resumption
