import SpritexPay.Binary64
import SpritexPay.Statement

/-! The fraud scan: three rules over the recorded messages and the charges, each
one SELECT or two. The averages are exact rationals. -/

set_option autoImplicit false

namespace SpritexPay

open Binary64 Resumption

/-- How many times the average a single settled amount must exceed. -/
def amountAnomalyMultiple : Rat := 10

def minSampleForAmount : Nat := 5

structure Anomaly where
  kind : String
  severity : String
  detail : String
  txnId : Option String
  chargeId : Option String
  deriving DecidableEq

structure FraudReport where
  anomalyCount : Nat
  anomalies : List Anomaly
  deriving DecidableEq

namespace Db

/-- The transaction ids under more than one gateway, and under how many. They come in the
order of their first messages, which `GROUP BY` does not promise. -/
def sharedTxids (db : Db) : List (String × Nat) :=
  let gateways := fun txnId =>
    ((db.smsEvents.rows.filter (·.txnId == txnId)).map (·.gateway)).eraseDups.length
  let rows := (db.smsEvents.rows.map (·.txnId)).eraseDups.map fun txnId => (txnId, gateways txnId)
  rows.filter fun row => decide (1 < row.2)

/-- `sms_events JOIN charges` where both numbers are known and `<>` tells their
texts apart. -/
def differingSenders (db : Db) : List (String × String × String) :=
  db.smsEvents.rows.flatMap fun event =>
    (db.charges.rows.filter fun charge => event.chargeId == some charge.id).filterMap fun charge =>
      match event.senderMsisdn, charge.customerMsisdn with
      | some got, some expected => if got = expected then none else some (charge.id, got, expected)
      | _, _ => none

def matchedEvents (db : Db) : List SmsEvent := db.smsEvents.rows.filter (·.matched)

def matchedAmounts (db : Db) : List Int := db.matchedEvents.map (·.amountMinor.toInt)

/-- `COUNT(*), COALESCE(AVG(amount_minor), 0.0)` -/
def matchedAverage (db : Db) : Nat × Rat :=
  let count := db.matchedAmounts.length
  (count, if count = 0 then 0 else (db.matchedAmounts.sum : Rat) / count)

def matchedAbove (db : Db) (threshold : Int64) : List SmsEvent :=
  db.matchedEvents.filter fun event => decide (threshold < event.amountMinor)

end Db

namespace Fraud

/-- The SELECTs of the scan. -/
inductive Select where
  | sharedTxids
  | differingSenders
  | matchedAverage
  | matchedAbove (threshold : Int64)
  deriving DecidableEq

@[reducible] def Select.Answer : Select → Type
  | .sharedTxids => List (String × Nat)
  | .differingSenders => List (String × String × String)
  | .matchedAverage => Nat × Rat
  | .matchedAbove _ => List (String × Int64)

@[reducible] def signature : Signature where
  Op := Select
  Answer := Select.Answer
  Error := SqlError

def Select.rows (db : Db) : (op : Select) → op.Answer
  | .sharedTxids => db.sharedTxids
  | .differingSenders => db.differingSenders
  | .matchedAverage => db.matchedAverage
  | .matchedAbove threshold =>
      (db.matchedAbove threshold).map fun event => (event.txnId, event.amountMinor)

def sqlite : Machine signature Env Db where
  exec _ op db := .ok (op.rows db, db)
  fault := .unavailable

abbrev Scan (Value : Type) : Type := ExceptT SqlError (Program signature) Value

abbrev select (op : Select) : Scan op.Answer := @query signature SqlError _ op

/-! ## The rules -/

def sharedTxid (row : String × Nat) : Anomaly where
  kind := "duplicate_txid"
  severity := "high"
  detail := "txn_id seen on " ++ toString row.2 ++ " different gateways"
  txnId := some row.1
  chargeId := none

def senderMismatch (row : String × String × String) : Anomaly where
  kind := "sender_mismatch"
  severity := "medium"
  detail := "paid by " ++ row.2.1 ++ ", charge expected " ++ row.2.2
  txnId := none
  chargeId := some row.1

def amountAnomaly (average : Rat) (row : String × Int64) : Anomaly where
  kind := "amount_anomaly"
  severity := "medium"
  detail := "amount " ++ toString row.2 ++ " minor is >10× the average of " ++
    toString (F64.clampI64 (F64.halfAway average))
  txnId := some row.1
  chargeId := none

/-- The same transaction id recorded under more than one gateway. -/
def duplicateTxids : Scan (List Anomaly) := do
  let rows ← select .sharedTxids
  return rows.map sharedTxid

/-- A message paid from another number than the charge expects. -/
def senderMismatches : Scan (List Anomaly) := do
  let rows ← select .differingSenders
  return rows.map senderMismatch

/-- `(avg * AMOUNT_ANOMALY_MULTIPLE).round() as i64` -/
def threshold (average : Rat) : Int64 :=
  F64.clampI64 (F64.halfAway (average * amountAnomalyMultiple))

/-- Settled amounts far above the average of all matched messages, their own among them. -/
def amountOutliers : Scan (List Anomaly) := do
  let (count, average) ← select .matchedAverage
  if count < minSampleForAmount then return []
  else
    let rows ← select (.matchedAbove (threshold average))
    return rows.map (amountAnomaly average)

def scan : Scan FraudReport := do
  let shared ← duplicateTxids
  let mismatches ← senderMismatches
  let outliers ← amountOutliers
  let anomalies := shared ++ mismatches ++ outliers
  return { anomalyCount := anomalies.length, anomalies }

end Fraud

end SpritexPay
