import SpritexPay.FulfilmentProperties
import SpritexPay.Resumption.Transcript

/-! What is behind a failure. The functions of the engine and of the console account for
theirs: an internal error comes of a statement that failed, and any other is reported
before anything is written. -/

set_option autoImplicit false

namespace SpritexPay

open Relational Resumption

/-! ## Accounts -/

namespace Http

section Accounts

variable {sig : Signature} {Env Place Failure Value Result : Type}

/-- Nothing was changed but what is spared. -/
def Spared (spares : Place → Place → Prop) (acts : List (Act sig Place)) : Prop :=
  ∀ act ∈ acts, spares act.before act.after

/-- What is behind a refusal. -/
def Reply.Accounted (spares : Place → Place → Prop) (acts : List (Act sig Place)) : Reply → Prop
  | .refused error =>
      if error.status = .internalServerError then ∃ act ∈ acts, act.Failed else Spared spares acts
  | _ => True

/-- A function that fails accounts for the reply that its failure becomes. -/
def Accounts (spares : Place → Place → Prop) (convert : Failure → Reply)
    (ends : Value → List (Act sig Place) → Place → Prop) :
    Except Failure Value → List (Act sig Place) → Place → Prop
  | .ok value, acts, seen => ends value acts seen
  | .error failure, acts, _ => (convert failure).Accounted spares acts

variable {machine : Machine sig Env Place} {faults : Bool} {rely spares : Place → Place → Prop}
  {convert : Failure → Reply} {acts : List (Act sig Place)} {seen : Place}

theorem Spared.cons {act : Act sig Place} (spared : Spared spares acts)
    (own : spares act.before act.after) : Spared spares (act :: acts) :=
  List.forall_mem_cons.mpr ⟨own, spared⟩

end Accounts

end Http

/-! ## Functions of the engine -/

section Engine

open Http

variable {faults : Bool} {spares : Db → Db → Prop} {convert : ChargeError → Reply}
  {acts : List (Act signature Db)} {seen : Db}

namespace Charge

end Charge

/-! ### Checkouts -/

section Checkouts

variable {Failure : Type} {convert : Failure → Reply}

namespace Checkout

end Checkout

end Checkouts

namespace Invoice

end Invoice

namespace PaymentLink

end PaymentLink

/-! ### Messages -/

namespace Sms

end Sms

end Engine

/-! ## Functions of the console -/

section Console

open Http

variable {faults : Bool} {spares : Store → Store → Prop} {Failure Value : Type}
  {convert : Failure → Reply} {acts : List (Act console.signature Store)} {seen : Store}

/-- What is spared of the engine, whatever the console holds. -/
def Beside (spares : Store → Store → Prop) (before after : Db) : Prop :=
  ∀ rest, spares (before, rest) (after, rest)

theorem Spared.lifted {own : List (Act signature Db)}
    {lifted : List (Act console.signature Store)} (same : List.Forall₂ Act.Lifts own lifted)
    (spared : Spared (Beside spares) own) : Spared spares lifted := by
  induction same with
  | nil => exact fun _ none => by cases none
  | cons lifts _ ih =>
      obtain ⟨op, reply, before, after, rest⟩ := lifts
      obtain ⟨own, older⟩ := List.forall_mem_cons.mp spared
      exact (ih older).cons (own rest)

/-- The statements of the console that write nothing. -/
def ConsoleStatement.silent : ConsoleStatement → Bool
  | .stampDevice _ | .stampApiKey _ => false
  | op => !op.administers

namespace Console

section Administration

variable {convert : SqlError → Reply}

end Administration

end Console

end Console

end SpritexPay
