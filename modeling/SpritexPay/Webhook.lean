import SpritexPay.Crates
import SpritexPay.Statement

/-! The outbound webhooks: a durable queue, and a worker that posts what is
due and reschedules with exponential backoff until the attempts run out. -/

set_option autoImplicit false

namespace SpritexPay.Webhook

def enqueue (uuid chargeId url event payload : String) : Query SqlError String := do
  let id := "whd_" ++ uuid
  let _ ← sql (.insertWebhook { id, chargeId, url, payload, event })
  return id

/-- `2i64.saturating_pow(attempts.min(20) as u32).min(3600)` -/
def backoffSeconds (attempts : Int) : Int :=
  let exponent := ((min attempts 20) % 2 ^ 32).toNat
  if 63 ≤ exponent then 3600 else min (2 ^ exponent) 3600

/-- `matches!(&outcome, Ok(r) if r.status().is_success())` -/
def isSuccess : PostOutcome → Bool
  | .status code => 200 ≤ code && code < 300
  | .transport _ => false

def errorMessage (crates : Crates) : PostOutcome → String
  | .status code => "http " ++ crates.statusText code
  | .transport error => error

/-- The POST is one call of the HTTP client, which follows redirects by itself. -/
def deliverOne (crates : Crates) (secret : String) (due : Due) : Query SqlError Unit := do
  let signature := crates.sign secret due.payload
  let attempts := due.attempts + 1
  let outcome ← sql (.postWebhook due signature)
  if isSuccess outcome then sql (.webhookDelivered due.id attempts)
  else
    let message := errorMessage crates outcome
    if attempts ≥ due.maxAttempts then sql (.webhookFailed due.id attempts message)
    else sql (.webhookRetry due.id attempts message (backoffSeconds attempts))

/-- Deliver in order; the first database error ends the poll. -/
def deliverAll (crates : Crates) (secret : String) : List Due → Query SqlError Unit
  | [] => pure ()
  | due :: rest => do
      deliverOne crates secret due
      deliverAll crates secret rest

def drainDue (crates : Crates) (secret : String) : Query SqlError Unit := do
  let due ← sql .dueWebhooks
  deliverAll crates secret due

end SpritexPay.Webhook
