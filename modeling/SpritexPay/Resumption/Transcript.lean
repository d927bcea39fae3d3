import SpritexPay.Resumption.Annex
import SpritexPay.Resumption.Failing

/-! Transcripts. What a program ends with is stated of its value, of the acts it has
executed itself and of the store it has left, whatever the others have done in between.
There is one rule for each way to build a program, and what is shown by them holds of every
thread of a pool that has ended, with the log of the thread as its transcript. -/

set_option autoImplicit false

namespace SpritexPay.Resumption

variable {sig : Signature} {Env Store Rest Thread Value Result Failure : Type}

/-- However the others act, the program ends as stated. The acts are the newest first, and
`seen` is the store that the program has seen last. -/
def Machine.Yields (machine : Machine sig Env Store) (faults : Bool)
    (rely : Store → Store → Prop) :
    Program sig Value → (Value → List (Act sig Store) → Store → Prop) →
      List (Act sig Store) → Store → Prop
  | .done value, post, acts, seen => post value acts seen
  | .stmt op next, post, acts, seen =>
      ∀ before, rely seen before → ∀ reply after, machine.Replies faults op before reply after →
        Yields machine faults rely (next reply) post (⟨op, reply, before, after⟩ :: acts) after

def Act.Failed (act : Act sig Store) : Prop := ∃ error, act.reply = .error error

section Rules

variable {machine : Machine sig Env Store} {faults : Bool} {rely : Store → Store → Prop}
  {acts : List (Act sig Store)} {seen : Store}

namespace Machine

theorem Yields.mono {program : Program sig Value}
    {post weaker : Value → List (Act sig Store) → Store → Prop}
    (yields : machine.Yields faults rely program post acts seen)
    (implies : ∀ value acts store, post value acts store → weaker value acts store) :
    machine.Yields faults rely program weaker acts seen := by
  induction program generalizing acts seen with
  | done value => exact implies value acts seen yields
  | stmt op next ih =>
      exact fun before others reply after replied =>
        ih reply (yields before others reply after replied)

theorem Yields.bind {program : Program sig Value} {continuation : Value → Program sig Result}
    {post : Result → List (Act sig Store) → Store → Prop}
    (first : machine.Yields faults rely program
      (fun value => machine.Yields faults rely (continuation value) post) acts seen) :
    machine.Yields faults rely (program >>= continuation) post acts seen := by
  induction program generalizing acts seen with
  | done value => exact first
  | stmt op next ih =>
      exact fun before others reply after replied =>
        ih reply (first before others reply after replied)

variable {post : Except Failure Result → List (Act sig Store) → Store → Prop}

end Machine

end Rules

/-! ## Machines with an annex -/

section Annex

variable {annex : Annex sig Env Store Rest} {machine : Machine sig Env Store} {faults : Bool}
  {rely : Store → Store → Prop} {relies : Store × Rest → Store × Rest → Prop}

/-- An act of the machine, beside a store of the annex. -/
inductive Act.Lifts : Act sig Store → Act annex.signature (Store × Rest) → Prop where
  | beside (op : sig.Op) (reply : sig.Reply op) (before after : Store) (rest : Rest) :
      Lifts ⟨op, reply, before, after⟩ ⟨.inl op, reply, (before, rest), (after, rest)⟩

theorem Machine.Yields.lift {program : Program sig Value}
    {post : Value → List (Act annex.signature (Store × Rest)) → Store × Rest → Prop}
    {own : List (Act sig Store)} {lifted acts : List (Act annex.signature (Store × Rest))}
    {stores : Store × Rest} (based : ∀ {before after}, relies before after → rely before.1 after.1)
    (same : List.Forall₂ Act.Lifts own lifted)
    (yields : machine.Yields faults rely program (fun value own seen =>
      ∀ lifted stores, List.Forall₂ Act.Lifts own lifted → stores.1 = seen →
        post value (lifted ++ acts) stores) own stores.1) :
    (machine.annexed annex).Yields faults relies (program.lift annex) post (lifted ++ acts)
      stores := by
  induction program generalizing own lifted stores with
  | done value => exact yields lifted stores same rfl
  | stmt op next ih =>
      rintro ⟨before, rest⟩ others reply ⟨after, kept⟩ replied
      obtain ⟨ownReplied, rfl⟩ := Machine.replies_inl replied
      exact ih reply (.cons (.beside op reply before after _) same)
        (yields before (based others) reply after ownReplied)

end Annex

/-! ## Threads of a pool -/

section Pool

variable [DecidableEq Thread] {machine : Machine sig Env Store} {faults : Bool}
  {start config : Config sig Store Thread Value} {past : List (Event sig Store Thread Value)}

/-- A thread that has ended has the log that its program yields. -/
theorem Run.yields {rely : Store → Store → Prop} {thread : Thread} {value : Value}
    {post : Value → List (Act sig Store) → Store → Prop} (refl : ∀ store, rely store store)
    (trans : ∀ {first second third}, rely first second → rely second third → rely first third)
    (acts : ∀ {op before reply after}, machine.Replies faults op before reply after →
      rely before after)
    (run : Run machine faults start past config)
    (yields : machine.Yields faults rely (start.threads thread) post [] start.store)
    (finished : config.threads thread = .done value) :
    ∃ seen, rely seen config.store ∧ post value (log past thread) seen := by
  have ahead : ∃ seen, rely seen config.store ∧
      machine.Yields faults rely (config.threads thread) post (log past thread) seen := by
    clear finished
    induction run with
    | start => exact ⟨start.store, refl _, yields⟩
    | @step past config stepped op next reply after _ waiting replied ih =>
        obtain ⟨seen, since, ahead⟩ := ih
        by_cases same : stepped = thread
        · subst same
          rw [waiting] at ahead
          exact ⟨after, refl _, by simpa [log] using ahead config.store since reply after replied⟩
        · refine ⟨seen, trans since (acts replied), ?_⟩
          rw [log_cons_of_ne _ _ same]
          simpa [Function.update_of_ne (Ne.symm same)] using ahead
  obtain ⟨seen, since, ended⟩ := ahead
  rw [finished] at ended
  exact ⟨seen, since, ended⟩

end Pool

end SpritexPay.Resumption
