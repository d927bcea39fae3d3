/-! Computations beside a keyed function that is known by its answers only, such
as a message authentication code. A computation that never asks under one key
comes to the same result whatever the function answers under that key. -/

set_option autoImplicit false

namespace SpritexPay.Keyed

variable {Value Digest Result : Type}

abbrev Mac (Value Digest : Type) := Value → Value → Digest

/-- The two functions differ under the secret at most. -/
def AgreeOff (secret : Value) (left right : Mac Value Digest) : Prop :=
  ∀ key body, key ≠ secret → left key body = right key body

/-- The same function, with one answer to everything under the secret. -/
def override [DecidableEq Value] (secret : Value) (answer : Digest) (mac : Mac Value Digest) :
    Mac Value Digest :=
  fun key body => if key = secret then answer else mac key body

section Override

variable [DecidableEq Value] {secret : Value} {answer : Digest} {mac : Mac Value Digest}

@[simp] theorem override_secret (body : Value) : override secret answer mac secret body = answer :=
  if_pos rfl

theorem agreeOff_override : AgreeOff secret mac (override secret answer mac) := fun _ _ apart =>
  (if_neg apart).symm

end Override

open Classical in
/-- The same function, with another answer to one body under the secret. -/
noncomputable def answering (secret body : Value) (digest : Digest) (mac : Mac Value Digest) :
    Mac Value Digest :=
  fun key other => if key = secret ∧ other = body then digest else mac key other

section Answering

variable {secret body : Value} {answer : Digest} {mac : Mac Value Digest}

@[simp] theorem answering_self : answering secret body answer mac secret body = answer :=
  if_pos ⟨rfl, rfl⟩

theorem answering_of_ne {other : Value} (apart : other ≠ body) (key : Value) :
    answering secret body answer mac key other = mac key other :=
  if_neg fun same => apart same.2

theorem agreeOff_answering : AgreeOff secret mac (answering secret body answer mac) :=
  fun _ _ apart => (if_neg fun same => apart same.1).symm

end Answering

/-- One step from the values at hand: an operation on them, or the keyed function
under a key and on a body that are worked out from them. -/
inductive Step (Value Digest : Type) where
  | combine (operation : List Value → Value)
  | ask (key body : List Value → Value) (read : Digest → Value)

namespace Step

variable (mac : Mac Value Digest) (known : List Value)

def value : Step Value Digest → Value
  | .combine operation => operation known
  | .ask key body read => read (mac (key known) (body known))

def keys : Step Value Digest → List Value
  | .combine _ => []
  | .ask key _ _ => [key known]

theorem value_congr {left right : Mac Value Digest} {secret : Value} {step : Step Value Digest}
    (agree : AgreeOff secret left right) (unasked : secret ∉ step.keys known) :
    step.value left known = step.value right known := by
  cases step with
  | combine operation => rfl
  | ask key body read =>
      refine congrArg read (agree _ _ ?_)
      rintro rfl
      exact unasked List.mem_cons_self

end Step

/-- A sequence of steps and what is made of the values in the end. -/
structure Strategy (Value Digest Result : Type) where
  steps : List (Step Value Digest)
  result : List Value → Result

/-- The values at hand after the steps, newest first. -/
def compute (mac : Mac Value Digest) : List (Step Value Digest) → List Value → List Value
  | [], known => known
  | step :: rest, known => compute mac rest (step.value mac known :: known)

/-- The keys that the steps ask under. -/
def keysAsked (mac : Mac Value Digest) : List (Step Value Digest) → List Value → List Value
  | [], _ => []
  | step :: rest, known => step.keys known ++ keysAsked mac rest (step.value mac known :: known)

theorem compute_congr {left right : Mac Value Digest} {secret : Value}
    (agree : AgreeOff secret left right) (steps : List (Step Value Digest)) (known : List Value)
    (unasked : secret ∉ keysAsked left steps known) :
    compute left steps known = compute right steps known := by
  induction steps generalizing known with
  | nil => rfl
  | cons step rest ih =>
      obtain ⟨here, later⟩ := not_or.mp (mt List.mem_append.mpr unasked)
      have same := Step.value_congr known agree here
      rw [compute, compute, ← same]
      exact ih _ later

namespace Strategy

variable (strategy : Strategy Value Digest Result) (mac : Mac Value Digest) (learned : List Value)

def run : Result := strategy.result (compute mac strategy.steps learned)

/-- The keyed function is only asked under the secret by who has learned it. -/
def Permitted (secret : Value) : Prop :=
  secret ∈ keysAsked mac strategy.steps learned → secret ∈ learned

end Strategy

/-- No permitted strategy comes to an accepted result by more than chance: some
function that differs under the secret only does not accept it. -/
def Unforgeable (secret : Value) (learned : List Value)
    (accepts : Mac Value Digest → Result → Prop) : Prop :=
  ∀ (strategy : Strategy Value Digest Result) (mac : Mac Value Digest),
    strategy.Permitted mac learned secret →
    ∃ other, AgreeOff secret mac other ∧ ¬accepts other (strategy.run other learned)

section Unforgeable

variable {secret : Value} {learned : List Value} {accepts : Mac Value Digest → Result → Prop}

theorem unforgeable_of_not_mem (unlearned : secret ∉ learned)
    (dodge : ∀ mac result, ∃ other, AgreeOff secret mac other ∧ ¬accepts other result) :
    Unforgeable secret learned accepts := by
  intro strategy mac permitted
  have unasked : secret ∉ keysAsked mac strategy.steps learned := fun asked =>
    unlearned (permitted asked)
  obtain ⟨other, agree, refused⟩ := dodge mac (strategy.run mac learned)
  refine ⟨other, agree, ?_⟩
  rwa [Strategy.run, ← compute_congr agree strategy.steps learned unasked]

/-- A result is out of reach exactly when the secret has not been learned, where
one answer under the secret is enough for an accepted result and any answer
under it can be otherwise. -/
theorem unforgeable_iff [Inhabited Digest] (body : Value) (read : Digest → Value)
    (result : List Value → Result)
    (attack : ∀ mac : Mac Value Digest,
      accepts mac (result (read (mac secret body) :: learned)))
    (dodge : ∀ mac result, ∃ other, AgreeOff secret mac other ∧ ¬accepts other result) :
    Unforgeable secret learned accepts ↔ secret ∉ learned := by
  constructor
  · intro safe known
    obtain ⟨index, bound, same⟩ := List.mem_iff_getElem.mp known
    have found : learned.getD index body = secret := by
      rw [List.getD_eq_getElem?_getD, List.getElem?_eq_getElem bound, same, Option.getD_some]
    obtain ⟨other, _, refused⟩ :=
      safe ⟨[.ask (fun values => values.getD index body) (fun _ => body) read], result⟩
        (fun _ _ => default) fun _ => known
    refine refused ?_
    rw [Strategy.run, compute, compute, Step.value, found]
    exact attack other
  · intro unlearned
    exact unforgeable_of_not_mem unlearned dodge

end Unforgeable

/-! ## Signed bodies -/

/-- What the strategy makes of the signatures it has seen is accepted for one
answer at most to some body that was never signed: it can only be a guess. -/
def Guesses (secret : Value) (signed : List Value)
    (learned : Mac Value Digest → List Value) (accepts : Mac Value Digest → Result → Prop)
    (strategy : Strategy Value Digest Result) (mac : Mac Value Digest) : Prop :=
  ∃ body, body ∉ signed ∧ ∃ lucky, ∀ digest, digest ≠ lucky →
    ¬accepts (answering secret body digest mac)
      (strategy.run (answering secret body digest mac) (learned (answering secret body digest mac)))

/-- A strategy that does not ask under the secret comes to the same result
whatever the answers to the bodies that were not signed. -/
theorem guesses_of_refused {secret body : Value} {signed : List Value}
    {learned : Mac Value Digest → List Value} {accepts : Mac Value Digest → Result → Prop}
    {strategy : Strategy Value Digest Result} {mac : Mac Value Digest} {lucky : Digest}
    (tells : ∀ digest, learned (answering secret body digest mac) = learned mac)
    (unasked : secret ∉ keysAsked mac strategy.steps (learned mac)) (unsigned : body ∉ signed)
    (refused : ∀ digest, digest ≠ lucky →
      ¬accepts (answering secret body digest mac) (strategy.run mac (learned mac))) :
    Guesses secret signed learned accepts strategy mac := by
  refine ⟨body, unsigned, lucky, fun digest other => ?_⟩
  have same : strategy.run (answering secret body digest mac) (learned mac) =
      strategy.run mac (learned mac) := by
    rw [Strategy.run, Strategy.run, compute_congr agreeOff_answering strategy.steps _ unasked]
  rw [tells, same]
  exact refused digest other

end SpritexPay.Keyed
