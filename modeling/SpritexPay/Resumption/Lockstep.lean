import SpritexPay.Resumption.Failing

/-! Two programs in lockstep: they issue the same statements as long as they get
answers that are alike. On a machine that answers alike at stores that agree,
they end alike, at stores that agree. -/

set_option autoImplicit false

namespace SpritexPay.Resumption

variable {sig : Signature} {Env Store Value Result : Type}

/-- Two replies with answers that are alike, or with the same error. -/
def Signature.RepliesAlike (alike : (op : sig.Op) → sig.Answer op → sig.Answer op → Prop)
    (op : sig.Op) : sig.Reply op → sig.Reply op → Prop
  | .ok left, .ok right => alike op left right
  | .error left, .error right => left = right
  | _, _ => False

namespace Program

inductive Lockstep (allowed : sig.Op → Prop)
    (alike : (op : sig.Op) → sig.Answer op → sig.Answer op → Prop)
    (ends : Value → Value → Prop) : Program sig Value → Program sig Value → Prop where
  | done {left right : Value} (ended : ends left right) :
      Lockstep allowed alike ends (.done left) (.done right)
  | stmt {op : sig.Op} {leftNext rightNext : sig.Reply op → Program sig Value}
      (permitted : allowed op)
      (next : ∀ left right, sig.RepliesAlike alike op left right →
        Lockstep allowed alike ends (leftNext left) (rightNext right)) :
      Lockstep allowed alike ends (.stmt op leftNext) (.stmt op rightNext)

variable {allowed : sig.Op → Prop}
  {alike : (op : sig.Op) → sig.Answer op → sig.Answer op → Prop}
  {ends : Value → Value → Prop} {endsLater : Result → Result → Prop}

theorem Lockstep.bind {left right : Program sig Value}
    {leftNext rightNext : Value → Program sig Result}
    (first : Lockstep allowed alike ends left right)
    (rest : ∀ leftValue rightValue, ends leftValue rightValue →
      Lockstep allowed alike endsLater (leftNext leftValue) (rightNext rightValue)) :
    Lockstep allowed alike endsLater (left >>= leftNext) (right >>= rightNext) := by
  induction first with
  | done ended => exact rest _ _ ended
  | stmt permitted _ ih => exact .stmt permitted ih

theorem Lockstep.uses {program : Program sig Value}
    (pace : Lockstep allowed alike ends program program)
    (reflexive : ∀ op answer, alike op answer answer) : program.Uses allowed fun _ => True := by
  induction program with
  | done value => trivial
  | stmt op next ih =>
      cases pace with
      | stmt permitted rest =>
          refine ⟨permitted, fun reply => ih reply (rest reply reply ?_)⟩
          cases reply with
          | ok answer => exact reflexive op answer
          | error error => exact (rfl : error = error)

theorem Lockstep.mono {weaker : Value → Value → Prop} {left right : Program sig Value}
    (pace : Lockstep allowed alike ends left right)
    (values : ∀ left right, ends left right → weaker left right) :
    Lockstep allowed alike weaker left right := by
  induction pace with
  | done ended => exact .done (values _ _ ended)
  | stmt permitted _ ih => exact .stmt permitted ih

theorem lockstep_issue {op : sig.Op} {failed : sig.Error → Value}
    {leftNext rightNext : sig.Answer op → Program sig Value} (permitted : allowed op)
    (succeeded : ∀ left right, alike op left right →
      Lockstep allowed alike ends (leftNext left) (rightNext right))
    (fails : ∀ error, ends (failed error) (failed error)) :
    Lockstep allowed alike ends (.issue op failed leftNext) (.issue op failed rightNext) := by
  refine .stmt permitted fun left right same => ?_
  cases left with
  | ok left =>
      cases right with
      | ok right => exact succeeded left right same
      | error error => exact same.elim
  | error left =>
      cases right with
      | ok right => exact same.elim
      | error right =>
          obtain rfl : left = right := same
          exact .done (fails left)

/-- A program keeps pace with itself when it only issues statements of which
answers that are alike are the same. -/
theorem Uses.lockstep {kind : Value → Prop} {program : Program sig Value}
    (uses : program.Uses (fun op => allowed op ∧ ∀ left right, alike op left right → left = right)
      kind) :
    Lockstep allowed alike (fun left right => left = right ∧ kind left) program program := by
  induction program with
  | done value => exact .done ⟨rfl, uses⟩
  | stmt op next ih =>
      obtain ⟨⟨permitted, exactly⟩, rest⟩ := uses
      refine .stmt permitted fun left right same => ?_
      have equal : left = right := by
        cases left with
        | ok left =>
            cases right with
            | ok right => exact congrArg _ (exactly left right same)
            | error error => exact same.elim
        | error left =>
            cases right with
            | ok right => exact same.elim
            | error right => exact congrArg _ (show left = right from same)
      subst equal
      exact ih left (rest left)

theorem lockstep_query {Failure : Type} [FromError sig.Error Failure] {op : sig.Op}
    {leftRest rightRest : sig.Answer op → ExceptT Failure (Program sig) Value}
    {ends : Except Failure Value → Except Failure Value → Prop} (permitted : allowed op)
    (succeeded : ∀ left right, alike op left right →
      Lockstep allowed alike ends (leftRest left).run (rightRest right).run)
    (fails : ∀ failure, ends (.error failure) (.error failure)) :
    Lockstep allowed alike ends (query op >>= leftRest).run (query op >>= rightRest).run := by
  refine .stmt permitted fun left right same => ?_
  cases left with
  | ok left =>
      cases right with
      | ok right => exact succeeded left right same
      | error error => exact same.elim
  | error left =>
      cases right with
      | ok right => exact same.elim
      | error right =>
          obtain rfl : left = right := same
          exact .done (fails _)

end Program

/-- Programs in lockstep, run in the same environments from stores that agree. -/
theorem Machine.run_lockstep {machine : Machine sig Env Store} {agree : Store → Store → Prop}
    {allowed : sig.Op → Prop} {alike : (op : sig.Op) → sig.Answer op → sig.Answer op → Prop}
    {ends : Value → Value → Prop} {left right : Program sig Value}
    (acts : ∀ env op leftStore rightStore, allowed op → agree leftStore rightStore →
      sig.RepliesAlike alike op (machine.apply env op leftStore).1
        (machine.apply env op rightStore).1 ∧
      agree (machine.apply env op leftStore).2 (machine.apply env op rightStore).2)
    (pace : Program.Lockstep allowed alike ends left right) (envs : Nat → Env)
    {leftStore rightStore : Store} (start : agree leftStore rightStore) :
    ends (machine.run left envs leftStore).1 (machine.run right envs rightStore).1 ∧
      agree (machine.run left envs leftStore).2 (machine.run right envs rightStore).2 := by
  induction pace generalizing envs leftStore rightStore with
  | done ended => exact ⟨ended, start⟩
  | stmt permitted _ ih =>
      obtain ⟨same, after⟩ := acts (envs 0) _ leftStore rightStore permitted start
      exact ih _ _ same (fun n => envs (n + 1)) after

end SpritexPay.Resumption
