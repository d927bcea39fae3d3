import SpritexPay.Resumption.Pool

/-! Secluded threads. Where the other threads of a pool leave a view of the
store alone, what a thread is up to shows in that view and in the statements it
has executed, whatever it is interleaved with. -/

set_option autoImplicit false

namespace SpritexPay.Resumption

variable {sig : Signature} {Env Store Thread Value View : Type} [DecidableEq Thread]

/-- What no thread touches stays as it was. -/
theorem Run.untouched {machine : Machine sig Env Store} {faults : Bool}
    {start config : Config sig Store Thread Value} {past : List (Event sig Store Thread Value)}
    {aloof : sig.Op → Prop} {ends : Value → Prop} {view : Store → View}
    (run : Run machine faults start past config)
    (uses : ∀ thread, (start.threads thread).Uses aloof ends)
    (apart : ∀ {op before reply after}, aloof op → machine.Replies faults op before reply after →
      view after = view before) : view config.store = view start.store := by
  induction run with
  | start => rfl
  | step earlier waiting replied ih =>
      have issued := ((earlier.step waiting replied).uses uses).1 _ List.mem_cons_self
      exact (apart issued replied).trans ih

theorem Run.secluded {machine : Machine sig Env Store} {faults : Bool}
    {start config : Config sig Store Thread Value} {past : List (Event sig Store Thread Value)}
    {aloof : sig.Op → Prop} {ends : Value → Prop} {view : Store → View}
    {stage : List (Act sig Store) → Program sig Value → View → Prop} {thread : Thread}
    (run : Run machine faults start past config)
    (others : ∀ other, other ≠ thread → (start.threads other).Uses aloof ends)
    (apart : ∀ {op before reply after}, aloof op → machine.Replies faults op before reply after →
      view after = view before)
    (first : stage [] (start.threads thread) (view start.store))
    (step : ∀ {acts op next before reply after}, stage acts (.stmt op next) (view before) →
      machine.Replies faults op before reply after →
      stage (⟨op, reply, before, after⟩ :: acts) (next reply) (view after)) :
    stage (log past thread) (config.threads thread) (view config.store) ∧
      ∀ other, other ≠ thread → (config.threads other).Uses aloof ends := by
  induction run with
  | start => exact ⟨first, others⟩
  | @step past config stepped op next reply after _ waiting replied ih =>
      obtain ⟨reached, ahead⟩ := ih
      by_cases own : stepped = thread
      · subst own
        rw [waiting] at reached
        constructor
        · simpa [log] using step reached replied
        · intro other different
          simpa [Function.update_of_ne different] using ahead other different
      · have stepping := ahead stepped own
        rw [waiting] at stepping
        constructor
        · rw [log_cons_of_ne _ _ own, apart stepping.1 replied]
          simpa [Function.update_of_ne (Ne.symm own)] using reached
        · intro other different
          by_cases same : other = stepped
          · subst same
            simpa using stepping.2 reply
          · simpa [Function.update_of_ne same] using ahead other different

end SpritexPay.Resumption
