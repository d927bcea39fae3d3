import SpritexPay.Resumption.Pool

/-! Gates. Before its gate a program neither issues a guarded statement nor ends with a
guarded value, and only a reply of some kind opens the gate. In a pool a thread that is
past its gate has had such a reply, whatever it was interleaved with. -/

set_option autoImplicit false

namespace SpritexPay.Resumption

variable {sig : Signature} {Env Store Thread Value Result : Type}

namespace Program

/-- A guarded statement is only issued after a reply that opens the gate. A program
that ends before it ends as stated. -/
def Gated (guarded : sig.Op → Prop) (opens : (op : sig.Op) → sig.Reply op → Prop)
    (ends : Value → Prop) : Program sig Value → Prop
  | .done value => ends value
  | .stmt op next => ¬guarded op ∧ ∀ reply, opens op reply ∨ (next reply).Gated guarded opens ends

section Rules

variable {guarded : sig.Op → Prop} {opens : (op : sig.Op) → sig.Reply op → Prop}
  {ends : Value → Prop} {endsLater : Result → Prop}

theorem gated_of_uses {allowed : sig.Op → Prop} {program : Program sig Value}
    (uses : program.Uses allowed ends) (apart : ∀ op, allowed op → ¬guarded op) :
    program.Gated guarded opens ends := by
  induction program with
  | done value => exact uses
  | stmt op next ih => exact ⟨apart op uses.1, fun reply => .inr (ih reply (uses.2 reply))⟩

theorem Gated.bind {program : Program sig Value} {continuation : Value → Program sig Result}
    (first : program.Gated guarded opens ends)
    (rest : ∀ value, ends value → (continuation value).Gated guarded opens endsLater) :
    (program >>= continuation).Gated guarded opens endsLater := by
  induction program with
  | done value => exact rest value first
  | stmt op next ih =>
      refine ⟨first.1, fun reply => ?_⟩
      rcases first.2 reply with opened | shut
      · exact .inl opened
      · exact .inr (ih reply shut)

end Rules

end Program

variable [DecidableEq Thread] {machine : Machine sig Env Store} {faults : Bool}
  {start config : Config sig Store Thread Value} {past : List (Event sig Store Thread Value)}

section Gates

variable {guarded : sig.Op → Prop} {opens : (op : sig.Op) → sig.Reply op → Prop}
  {ends : Value → Prop}

/-- A thread is still before its gate, or has had a reply that opened it. -/
theorem Run.gated (run : Run machine faults start past config) (thread : Thread)
    (gated : (start.threads thread).Gated guarded opens ends) :
    (config.threads thread).Gated guarded opens ends ∨
      ∃ event ∈ past, event.thread = thread ∧ opens event.act.op event.act.reply := by
  induction run with
  | start => exact .inl gated
  | @step past config stepped op next reply after _ waiting _ ih =>
      rcases ih with ahead | ⟨event, member, opened⟩
      · by_cases same : stepped = thread
        · subst same
          rw [waiting] at ahead
          rcases ahead.2 reply with opened | shut
          · exact .inr ⟨_, List.mem_cons_self, rfl, opened⟩
          · exact .inl (by simpa using shut)
        · exact .inl (by simpa [Function.update_of_ne (Ne.symm same)] using ahead)
      · exact .inr ⟨event, List.mem_cons_of_mem _ member, opened⟩

theorem Run.opened {newer older : List (Event sig Store Thread Value)}
    {event : Event sig Store Thread Value}
    (run : Run machine faults start (newer ++ event :: older) config)
    (gated : (start.threads event.thread).Gated guarded opens ends)
    (issued : guarded event.act.op) :
    ∃ opening ∈ older, opening.thread = event.thread ∧
      opens opening.act.op opening.act.reply := by
  obtain ⟨middle, next, earlier, _, threads, waiting, _⟩ := run.event_cases
  rcases earlier.gated event.thread gated with shut | opened
  · rw [threads, waiting] at shut
    exact absurd issued shut.1
  · exact opened

theorem Run.earned {thread : Thread} {value : Value}
    (run : Run machine faults start past config)
    (gated : (start.threads thread).Gated guarded opens ends)
    (finished : config.threads thread = .done value) (earned : ¬ends value) :
    ∃ opening ∈ past, opening.thread = thread ∧ opens opening.act.op opening.act.reply := by
  rcases run.gated thread gated with shut | opened
  · rw [finished] at shut
    exact absurd shut earned
  · exact opened

end Gates

/-- What one thread of the pool issues is within what its program issues. -/
theorem Run.uses_own {allowed : sig.Op → Prop} {ends : Value → Prop}
    (run : Run machine faults start past config) (thread : Thread)
    (uses : (start.threads thread).Uses allowed ends) :
    (∀ event ∈ past, event.thread = thread → allowed event.act.op) ∧
      (config.threads thread).Uses allowed ends := by
  induction run with
  | start => exact ⟨by simp, uses⟩
  | @step past config stepped op next reply after _ waiting _ ih =>
      obtain ⟨happened, ahead⟩ := ih
      by_cases same : stepped = thread
      · subst same
        rw [waiting] at ahead
        refine ⟨?_, by simpa using ahead.2 reply⟩
        intro event member own
        rcases List.mem_cons.mp member with rfl | older
        · exact ahead.1
        · exact happened event older own
      · refine ⟨?_, by simpa [Function.update_of_ne (Ne.symm same)] using ahead⟩
        intro event member own
        rcases List.mem_cons.mp member with rfl | older
        · exact absurd own same
        · exact happened event older own

end SpritexPay.Resumption
