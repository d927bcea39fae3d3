import SpritexPay.AccountabilityProperties

/-! What a refusal means. An internal error comes of a statement of the request that
failed. Any other refusal tells the client that nothing was done: no statement of the
request has changed the store, but for the notes that are kept of readings and of keys and
the use of a link that was opened. -/

set_option autoImplicit false

namespace SpritexPay

open Relational Resumption

/-! ## Routes -/

namespace Http

section Routes

variable {faults : Bool} {spares : Store → Store → Prop} {installation : Installation}
  {incoming : Incoming} {acts : List (Act console.signature Store)} {seen : Store}

end Routes

end Http

end SpritexPay
