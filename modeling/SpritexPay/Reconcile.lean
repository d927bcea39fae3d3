import SpritexPay.Statement

/-! Settlement totals over the recorded messages, of one gateway or of all. -/

set_option autoImplicit false

namespace SpritexPay

structure Reconciliation where
  gateway : Option String
  totalSettledMinor : Int64
  settledCount : Nat
  pendingCharges : Nat
  deriving DecidableEq

/-- The recorded messages that matched a charge are the money that came in. -/
def reconcile (gateway : Option String) : Query SqlError Reconciliation := do
  let (total, count) ← sql (.settledTotals gateway)
  let pending ← sql .pendingCount
  return { gateway, totalSettledMinor := total, settledCount := count, pendingCharges := pending }

end SpritexPay
