import SpritexPay.Resumption.Gate
import SpritexPay.Resumption.Lockstep

/-! A machine with an annex: statements of another kind, over a store of their own,
that may read the store of the machine and leave it alone. Programs over both
front for programs of the machine when whatever they issue to it is what these
issue, and then a run over both is a run of the machine. -/

set_option autoImplicit false

namespace SpritexPay.Resumption

variable {sig : Signature} {Env Store Rest Thread Value Result : Type}

structure Annex (sig : Signature) (Env Store Rest : Type) where
  Op : Type
  Answer : Op → Type
  exec : Env → (op : Op) → Store → Rest → Except sig.Error (Answer op × Rest)

@[reducible] def Annex.signature (annex : Annex sig Env Store Rest) : Signature where
  Op := sig.Op ⊕ annex.Op
  Answer := Sum.elim sig.Answer annex.Answer
  Error := sig.Error

variable {annex : Annex sig Env Store Rest}

namespace Machine

def annexed (machine : Machine sig Env Store) (annex : Annex sig Env Store Rest) :
    Machine annex.signature Env (Store × Rest) where
  exec env
    | .inl op, stores =>
        (machine.exec env op stores.1).map fun result => (result.1, (result.2, stores.2))
    | .inr op, stores =>
        (annex.exec env op stores.1 stores.2).map fun result => (result.1, (stores.1, result.2))
  fault := machine.fault

variable {machine : Machine sig Env Store} {faults : Bool} {before after : Store × Rest}

theorem apply_annexed_inl (env : Env) (op : sig.Op) (stores : Store × Rest) :
    (machine.annexed annex).apply env (.inl op) stores =
      ((machine.apply env op stores.1).1, ((machine.apply env op stores.1).2, stores.2)) := by
  simp only [apply, annexed]
  cases machine.exec env op stores.1 with
  | ok result => rfl
  | error error => rfl

theorem apply_annexed_inr (env : Env) (op : annex.Op) (stores : Store × Rest) :
    ((machine.annexed annex).apply env (.inr op) stores).2.1 = stores.1 := by
  simp only [apply, annexed]
  cases annex.exec env op stores.1 stores.2 with
  | ok result => rfl
  | error error => rfl

theorem replies_inl {op : sig.Op} {reply : annex.signature.Reply (.inl op)}
    (replied : (machine.annexed annex).Replies faults (.inl op) before reply after) :
    machine.Replies faults op before.1 reply after.1 ∧ after.2 = before.2 := by
  cases replied with
  | commit env =>
      rw [apply_annexed_inl]
      exact ⟨.commit env, rfl⟩
  | fault allowed => exact ⟨.fault allowed, rfl⟩

/-- A statement of the annex is executed, or refused without effect. -/
theorem replies_inr {op : annex.Op} {reply : annex.signature.Reply (.inr op)}
    (replied : (machine.annexed annex).Replies faults (.inr op) before reply after) :
    after.1 = before.1 ∧
      ((∃ env answer, annex.exec env op before.1 before.2 = .ok (answer, after.2) ∧
        reply = .ok answer) ∨ ∃ error, reply = .error error ∧ after.2 = before.2) := by
  cases replied with
  | commit env =>
      refine ⟨apply_annexed_inr env op before, ?_⟩
      simp only [apply, annexed]
      cases executed : annex.exec env op before.1 before.2 with
      | ok result => exact .inl ⟨env, result.1, executed, rfl⟩
      | error error => exact .inr ⟨error, rfl, rfl⟩
  | fault allowed => exact ⟨rfl, .inr ⟨machine.fault, rfl, rfl⟩⟩

end Machine

namespace Program

variable (annex) in
/-- The same program, over a machine that has an annex. -/
def lift : Program sig Value → Program annex.signature Value
  | .done value => .done value
  | .stmt op next => .stmt (.inl op) fun reply => (next reply).lift

/-- Whatever the program issues to the machine, the body issues next. -/
def Fronts : Program annex.signature Value → Program sig Result → Prop
  | .done _, _ => True
  | .stmt (.inl op) next, body =>
      ∃ rest, body = .stmt op rest ∧ ∀ reply, (next reply).Fronts (rest reply)
  | .stmt (.inr _) next, body => ∀ reply, (next reply).Fronts body

def Aloof : Program annex.signature Value → Prop :=
  Uses (fun op => op.isRight = true) fun _ => True

theorem Aloof.fronts {program : Program annex.signature Value} (aloof : program.Aloof)
    (body : Program sig Result) : program.Fronts body := by
  induction program with
  | done value => trivial
  | stmt op next ih =>
      cases op with
      | inl op => cases aloof.1
      | inr op => exact fun reply => ih reply (aloof.2 reply)

theorem Aloof.bind_fronts {program : Program annex.signature Value} {Final : Type}
    {continuation : Value → Program annex.signature Final} {body : Program sig Result}
    (aloof : program.Aloof) (rest : ∀ value, (continuation value).Fronts body) :
    (program >>= continuation).Fronts body := by
  induction program with
  | done value => exact rest value
  | stmt op next ih =>
      cases op with
      | inl op => cases aloof.1
      | inr op => exact fun reply => ih reply (aloof.2 reply)

theorem Fronts.bind_aloof {Final : Type} {program : Program annex.signature Value}
    {continuation : Value → Program annex.signature Final} {body : Program sig Result}
    (fronts : program.Fronts body) (rest : ∀ value, (continuation value).Aloof) :
    (program >>= continuation).Fronts body := by
  induction program generalizing body with
  | done value => exact (rest value).fronts body
  | stmt op next ih =>
      cases op with
      | inl op =>
          obtain ⟨issued, same, later⟩ := fronts
          exact ⟨issued, same, fun reply => ih reply (later reply)⟩
      | inr op => exact fun reply => ih reply (fronts reply)

variable (annex) in
theorem Uses.lift {program : Program sig Value} {allowed : sig.Op → Prop} {ends : Value → Prop}
    (other : annex.Op → Prop) (uses : program.Uses allowed ends) :
    (program.lift annex).Uses (Sum.elim allowed other) ends := by
  induction program with
  | done value => exact uses
  | stmt op next ih => exact ⟨uses.1, fun reply => ih reply (uses.2 reply)⟩

/-- What the body may issue is what the program may. -/
theorem Fronts.uses {program : Program annex.signature Value} {body : Program sig Result}
    {allowed : sig.Op → Prop} {ends : Result → Prop} (fronts : program.Fronts body)
    (uses : body.Uses allowed ends) :
    program.Uses (Sum.elim allowed fun _ => True) fun _ => True := by
  induction program generalizing body with
  | done value => trivial
  | stmt op next ih =>
      cases op with
      | inl op =>
          obtain ⟨rest, rfl, later⟩ := fronts
          exact ⟨uses.1, fun reply => ih reply (later reply) (uses.2 reply)⟩
      | inr op => exact ⟨trivial, fun reply => ih reply (fronts reply) uses⟩

/-- A program may do anything of its own once the body has been run, or one that
issues the same statements. -/
theorem Lockstep.lift_fronts {Final : Type} {ends : Value → Value → Prop}
    {allowed : sig.Op → Prop} {left right : Program sig Value}
    (pace : Lockstep allowed (fun _ => Eq) ends left right)
    {finish : Value → Program annex.signature Result} {later : Value → Program sig Final}
    (rest : ∀ value other, ends value other → (finish value).Fronts (later other)) :
    (left.lift annex >>= finish).Fronts (right >>= later) := by
  induction pace with
  | done ended => exact rest _ _ ended
  | stmt _ _ ih =>
      refine ⟨_, rfl, fun reply => ih reply reply ?_⟩
      cases reply with
      | ok answer => exact rfl
      | error error => exact rfl

theorem lockstep_refl {alike : (op : sig.Op) → sig.Answer op → sig.Answer op → Prop}
    (exactly : ∀ op left right, alike op left right → left = right) (program : Program sig Value) :
    Lockstep (fun _ => True) alike Eq program program := by
  have uses : program.Uses (fun op => True ∧ ∀ left right, alike op left right → left = right)
      fun _ => True := by
    induction program with
    | done value => trivial
    | stmt op next ih => exact ⟨⟨trivial, exactly op⟩, ih⟩
  exact uses.lockstep.mono fun _ _ same => same.1

end Program

/-! ## Runs -/

/-- An act as the machine sees it, if it is one of the machine. -/
def Act.based : Act annex.signature (Store × Rest) → Option (Act sig Store)
  | ⟨.inl op, reply, before, after⟩ => some ⟨op, reply, before.1, after.1⟩
  | ⟨.inr _, _, _, _⟩ => none

def Event.deed (event : Event sig Store Thread Value) : Thread × Act sig Store :=
  (event.thread, event.act)

def Event.based (event : Event annex.signature (Store × Rest) Thread Value) :
    Option (Thread × Act sig Store) :=
  event.act.based.map fun act => (event.thread, act)

/-- What the threads that front for bodies issue to the machine is a run of these.
The other threads only issue what leaves its store alone. -/
theorem Run.fronted [DecidableEq Thread] {machine : Machine sig Env Store} {faults : Bool}
    {start config : Config annex.signature (Store × Rest) Thread Value}
    {past : List (Event annex.signature (Store × Rest) Thread Value)}
    {bodies : Thread → Program sig Result} {fronting : Thread → Bool} {silent : sig.Op → Prop}
    (run : Run (machine.annexed annex) faults start past config)
    (quiet : ∀ {op before reply after}, silent op → machine.Replies faults op before reply after →
      after = before)
    (fronts : ∀ thread, fronting thread = true → (start.threads thread).Fronts (bodies thread))
    (others : ∀ thread, fronting thread = false →
      (start.threads thread).Uses (Sum.elim silent fun _ => True) fun _ => True) :
    ∃ events fronted, Run machine faults ⟨start.store.1, bodies⟩ events fronted ∧
      fronted.store = config.store.1 ∧
      events.map Event.deed =
        (past.filter fun event => fronting event.thread).filterMap Event.based ∧
      ∀ thread, fronting thread = true →
        (config.threads thread).Fronts (fronted.threads thread) := by
  induction run with
  | start => exact ⟨[], _, .start, rfl, rfl, fronts⟩
  | @step past config stepped op next reply after earlier waiting replied ih =>
      obtain ⟨events, fronted, run, store, deeds, ahead⟩ := ih
      have elsewhere : ∀ {programs : Thread → Program sig Result},
          (∀ thread, thread ≠ stepped → fronting thread = true →
            (config.threads thread).Fronts (programs thread)) →
          (fronting stepped = true → (next reply).Fronts (programs stepped)) →
          ∀ thread, fronting thread = true →
            (Function.update config.threads stepped (next reply) thread).Fronts
              (programs thread) := by
        intro programs rest own thread isFronting
        by_cases same : thread = stepped
        · subst same
          simpa using own isFronting
        · simpa [Function.update_of_ne same] using rest thread same isFronting
      cases isFronting : fronting stepped with
      | true =>
          have stepping := ahead stepped isFronting
          rw [waiting] at stepping
          cases op with
          | inl op =>
              obtain ⟨rest, issued, later⟩ := stepping
              obtain ⟨answered, _⟩ := Machine.replies_inl replied
              rw [← store] at answered
              refine ⟨_, _, run.step issued answered, rfl, ?_, elsewhere ?_ fun _ => ?_⟩
              · simp [Event.based, Act.based, Event.deed, deeds, store, isFronting]
              · intro thread apart isFronting
                simpa [Function.update_of_ne apart] using ahead thread isFronting
              · simpa using later reply
          | inr op =>
              obtain ⟨kept, _⟩ := Machine.replies_inr replied
              refine ⟨events, fronted, run, store.trans kept.symm, ?_,
                elsewhere (fun thread _ => ahead thread) fun _ => stepping reply⟩
              rw [List.filter_cons, if_pos isFronting, List.filterMap_cons_none rfl]
              exact deeds
      | false =>
          refine ⟨events, fronted, run, store.trans ?_, ?_,
            elsewhere (fun thread _ => ahead thread) fun fronts => ?_⟩
          · have issued := ((earlier.step waiting replied).uses_own stepped
              (others stepped isFronting)).1 _ List.mem_cons_self rfl
            cases op with
            | inl op => exact (quiet issued (Machine.replies_inl replied).1).symm
            | inr op => exact (Machine.replies_inr replied).1.symm
          · rw [List.filter_cons_of_neg (by simp [isFronting])]
            exact deeds
          · rw [isFronting] at fronts
            cases fronts

end SpritexPay.Resumption
