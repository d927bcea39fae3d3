import SpritexPay.Resumption.Gate

/-! Purged runs. Where some threads leave alone whatever the statements of the others
depend on, these others run the same without them: from any store that looks the same to
them, and whatever the hidden threads are there for. -/

set_option autoImplicit false

namespace SpritexPay.Resumption

variable {sig : Signature} {Env Store Thread Value : Type}

/-- Statements that are shown do the same, and are answered the same, at stores that
agree. Statements that are hidden do nothing that shows. -/
structure Machine.Veils (machine : Machine sig Env Store) (faults : Bool)
    (agree : Store → Store → Prop) (shown hidden : sig.Op → Prop) : Prop where
  sees : ∀ {op reply before after other}, shown op → machine.Replies faults op before reply after →
    agree before other → ∃ later, machine.Replies faults op other reply later ∧ agree after later
  leaves : ∀ {op reply before after other}, hidden op →
    machine.Replies faults op before reply after → agree before other → agree after other

/-- What a thread said to the store and heard of it. -/
def Event.exchange (event : Event sig Store Thread Value) : Thread × (op : sig.Op) × sig.Reply op :=
  (event.thread, ⟨event.act.op, event.act.reply⟩)

theorem Run.purged [DecidableEq Thread] {machine : Machine sig Env Store} {faults : Bool}
    {agree : Store → Store → Prop} {shown hidden : sig.Op → Prop} {isHidden : Thread → Bool}
    {start other config : Config sig Store Thread Value}
    {past : List (Event sig Store Thread Value)}
    (veils : machine.Veils faults agree shown hidden) (run : Run machine faults start past config)
    (agreed : agree start.store other.store)
    (same : ∀ thread, isHidden thread = false → other.threads thread = start.threads thread)
    (shows : ∀ thread, isHidden thread = false → (start.threads thread).Uses shown fun _ => True)
    (hides : ∀ thread, isHidden thread = true → (start.threads thread).Uses hidden fun _ => True) :
    ∃ events final, Run machine faults other events final ∧ agree config.store final.store ∧
      (∀ thread, isHidden thread = false → final.threads thread = config.threads thread) ∧
      events.map Event.exchange =
        (past.filter fun event => !isHidden event.thread).map Event.exchange := by
  induction run with
  | start => exact ⟨[], other, .start, agreed, same, rfl⟩
  | @step past config thread op next reply after earlier waiting replied ih =>
      obtain ⟨events, final, purged, agrees, ahead, exchanges⟩ := ih
      have whole := earlier.step waiting replied
      cases isShown : isHidden thread with
      | true =>
          have silent := (whole.uses_own thread (hides thread isShown)).1 _ List.mem_cons_self rfl
          refine ⟨events, final, purged, veils.leaves silent replied agrees, ?_, ?_⟩
          · intro seen isSeen
            have apart : seen ≠ thread := by
              rintro rfl
              rw [isShown] at isSeen
              cases isSeen
            simpa [Function.update_of_ne apart] using ahead seen isSeen
          · simpa [isShown] using exchanges
      | false =>
          have permitted :=
            (whole.uses_own thread (shows thread isShown)).1 _ List.mem_cons_self rfl
          obtain ⟨later, answered, agreesLater⟩ := veils.sees permitted replied agrees
          have waits := (ahead thread isShown).trans waiting
          refine ⟨_, _, purged.step waits answered, agreesLater, ?_, ?_⟩
          · intro seen isSeen
            by_cases own : seen = thread
            · subst own
              simp
            · simpa [Function.update_of_ne own] using ahead seen isSeen
          · simp [isShown, Event.exchange, exchanges]

end SpritexPay.Resumption
