import SpritexPay.Resumption.Pool

/-! A store that stands beside another and that no statement touches. A run over
both is a run over the first, and leaves the second as it was. -/

set_option autoImplicit false

namespace SpritexPay.Resumption

variable {sig : Signature} {Env Store Rest Thread Value : Type}

namespace Machine

def beside (machine : Machine sig Env Store) (Rest : Type) : Machine sig Env (Store × Rest) where
  exec env op stores :=
    (machine.exec env op stores.1).map fun result => (result.1, (result.2, stores.2))
  fault := machine.fault

theorem apply_beside (machine : Machine sig Env Store) (env : Env) (op : sig.Op)
    (stores : Store × Rest) : (machine.beside Rest).apply env op stores =
      ((machine.apply env op stores.1).1, ((machine.apply env op stores.1).2, stores.2)) := by
  simp only [apply, beside]
  cases machine.exec env op stores.1 with
  | ok result => rfl
  | error error => rfl

theorem replies_beside {machine : Machine sig Env Store} {faults : Bool} {op : sig.Op}
    {before after : Store × Rest} {reply : sig.Reply op}
    (replied : (machine.beside Rest).Replies faults op before reply after) :
    machine.Replies faults op before.1 reply after.1 ∧ after.2 = before.2 := by
  cases replied with
  | commit env =>
      rw [apply_beside]
      exact ⟨.commit env, rfl⟩
  | fault allowed => exact ⟨.fault allowed, rfl⟩

end Machine

/-- An event as the first of the two stores sees it. -/
def Event.first (event : Event sig (Store × Rest) Thread Value) : Event sig Store Thread Value :=
  ⟨event.thread, ⟨event.act.op, event.act.reply, event.act.before.1, event.act.after.1⟩,
    event.threads⟩

theorem Run.beside [DecidableEq Thread] {machine : Machine sig Env Store} {faults : Bool}
    {start config : Config sig (Store × Rest) Thread Value}
    {past : List (Event sig (Store × Rest) Thread Value)}
    (run : Run (machine.beside Rest) faults start past config) :
    Run machine faults ⟨start.store.1, start.threads⟩ (past.map Event.first)
      ⟨config.store.1, config.threads⟩ ∧ config.store.2 = start.store.2 := by
  induction run with
  | start => exact ⟨.start, rfl⟩
  | step _ waiting replied ih =>
      obtain ⟨earlier, same⟩ := ih
      obtain ⟨firstReplied, kept⟩ := Machine.replies_beside replied
      exact ⟨earlier.step waiting firstReplied, kept.trans same⟩

end SpritexPay.Resumption
