import SpritexPay.Resumption.Failing
import SpritexPay.Resumption.Pool

/-! Milestones: statements that a program cannot end without, at least not with
a value of some kind. In a pool a thread that has ended with such a value has
executed the milestone, whatever it was interleaved with. -/

set_option autoImplicit false

namespace SpritexPay.Resumption

variable {sig : Signature} {Env Store Thread Value Result : Type}

namespace Program

/-- On the way to every value of the kind `ends` a marked statement succeeds. -/
def Passes (mark : sig.Op → Prop) (ends : Value → Prop) : Program sig Value → Prop
  | .done value => ¬ends value
  | .stmt op next => ∀ reply,
      (mark op ∧ ∃ answer, reply = .ok answer) ∨ (next reply).Passes mark ends

variable {mark : sig.Op → Prop} {ends : Value → Prop}

theorem Passes.bind {program : Program sig Value} {continuation : Value → Program sig Result}
    {endsLater : Result → Prop} (first : program.Passes mark ends)
    (rest : ∀ value, ¬ends value → (continuation value).Passes mark endsLater) :
    (program >>= continuation).Passes mark endsLater := by
  induction program with
  | done value => exact rest value first
  | stmt op next ih => exact fun reply => (first reply).imp_right (ih reply)

theorem passes_bind {program : Program sig Value} {continuation : Value → Program sig Result}
    {endsLater : Result → Prop}
    (rest : ∀ value, (continuation value).Passes mark endsLater) :
    (program >>= continuation).Passes mark endsLater := by
  induction program with
  | done value => exact rest value
  | stmt op next ih => exact fun reply => .inr (ih reply)

theorem passes_issue {op : sig.Op} {failed : sig.Error → Value}
    {next : sig.Answer op → Program sig Value} (fails : ∀ error, ¬ends (failed error))
    (rest : ∀ answer, (next answer).Passes mark ends) :
    (Program.issue op failed next).Passes mark ends := by
  intro reply
  cases reply with
  | ok answer => exact .inr (rest answer)
  | error error => exact .inr (fails error)

theorem passes_marked {op : sig.Op} {failed : sig.Error → Value}
    {next : sig.Answer op → Program sig Value} (marked : mark op)
    (fails : ∀ error, ¬ends (failed error)) :
    (Program.issue op failed next).Passes mark ends := by
  intro reply
  cases reply with
  | ok answer => exact .inl ⟨marked, answer, rfl⟩
  | error error => exact .inr (fails error)

end Program

/-- A thread has passed its milestone, or still has it before it. -/
theorem Run.passes [DecidableEq Thread] {machine : Machine sig Env Store} {faults : Bool}
    {start config : Config sig Store Thread Value} {past : List (Event sig Store Thread Value)}
    {mark : sig.Op → Prop} {ends : Value → Prop}
    (run : Run machine faults start past config) (thread : Thread)
    (passes : (start.threads thread).Passes mark ends) :
    (∃ event ∈ past, event.thread = thread ∧ mark event.act.op ∧
      ∃ answer, event.act.reply = .ok answer) ∨ (config.threads thread).Passes mark ends := by
  induction run with
  | start => exact .inr passes
  | @step past config stepped op next reply after _ waiting _ ih =>
      rcases ih with ⟨event, member, passed⟩ | ahead
      · exact .inl ⟨event, List.mem_cons_of_mem _ member, passed⟩
      · by_cases same : stepped = thread
        · subst same
          rw [waiting] at ahead
          rcases ahead reply with ⟨marked, answered⟩ | ahead
          · exact .inl ⟨_, List.mem_cons_self, rfl, marked, answered⟩
          · exact .inr (by simpa using ahead)
        · exact .inr (by simpa [Function.update_of_ne (Ne.symm same)] using ahead)

end SpritexPay.Resumption
