import SpritexPay.Ai
import SpritexPay.Charge

/-! Inbound messages. A parsed transaction is matched to at most one pending
charge, recorded under the unique index on gateway and transaction id, and then
settles the charge it was matched to. -/

set_option autoImplicit false

namespace SpritexPay

open Resumption

inductive IngestError where
  | unknownGateway
  | parse (error : ParseError)
  | duplicate
  | charge (error : ChargeError)
  | db (error : SqlError)
  /-- The request panicked and returned nothing. -/
  | panicked
  deriving DecidableEq

instance : FromError SqlError IngestError := ⟨.db⟩

structure Ingested where
  smsEventId : String
  txnId : String
  matchedCharge : Option String
  deriving DecidableEq

structure IngestUuids where
  event : String
  settlement : SettlementUuids
  deriving DecidableEq

namespace Sms

/-- The last ten digits, which are the subscriber part of a number. -/
def normalizeMsisdn (raw : String) : String :=
  let digits := raw.toList.filter Char.isDigit
  String.ofList (digits.drop (digits.length - 10))

def declares (sender : String) (candidate : String × Option String) : Bool :=
  candidate.2.map normalizeMsisdn == some sender

/-- The one candidate a transaction belongs to. A sole candidate is taken as it
is; among several the sender must single out one. -/
def pick (senderMsisdn : Option String) : List (String × Option String) → Option String
  | [] => none
  | [candidate] => some candidate.1
  | candidates =>
      match senderMsisdn.map normalizeMsisdn with
      | none => none
      | some sender =>
          match candidates.filter (declares sender) with
          | [candidate] => some candidate.1
          | _ => none

def findMatchingCharge (parsed : ParsedTxn) : Query SqlError (Option String) := do
  let candidates ← sql (.pendingByAmount parsed.amountMinor)
  return pick parsed.senderMsisdn candidates

/-- The regular expressions first, and on a message they do not fit the chain
of language models. -/
def parse (crates : Crates) (replies : List ProviderReply) (gateway : Gateway)
    (rawBody rawSha256 : String) : Query IngestError (ParsedTxn × ParseSource) :=
  match gateway.parseSms crates rawBody with
  | .ok parsed => return (parsed, .regex)
  | .error regexError => do
      match ← (extract crates gateway rawBody rawSha256 replies).adapt
          fun _ => IngestError.panicked with
      | some parsed => return (parsed, .ai)
      | none => throw (.parse regexError)

def newSmsEvent (uuids : IngestUuids) (rawSha256 : String) (parsed : ParsedTxn)
    (source : ParseSource) (matchedCharge : Option String) : NewSmsEvent where
  id := "sms_" ++ uuids.event
  gateway := parsed.gateway
  txnId := parsed.txnId
  amountMinor := parsed.amountMinor
  senderMsisdn := parsed.senderMsisdn
  chargeId := matchedCharge
  rawSha256 := rawSha256
  matched := matchedCharge.isSome
  parseSource := source

def settle (crates : Crates) (uuids : SettlementUuids) : Option String → Query IngestError Unit
  | none => pure ()
  | some chargeId => (Charge.markPaid crates uuids chargeId).adapt IngestError.charge

/-- Match a parsed transaction, record it and settle. The unique index on the
recorded events is the guard against replays. -/
def record (crates : Crates) (uuids : IngestUuids) (rawSha256 : String) (parsed : ParsedTxn)
    (source : ParseSource) : Query IngestError Ingested := do
  let matchedCharge ← (findMatchingCharge parsed).adapt IngestError.db
  match ← trySql (.insertSmsEvent (newSmsEvent uuids rawSha256 parsed source matchedCharge)) with
  | .error .uniqueViolation => throw .duplicate
  | .error error => throw (.db error)
  | .ok _ =>
      settle crates uuids.settlement matchedCharge
      return { smsEventId := "sms_" ++ uuids.event, txnId := parsed.txnId, matchedCharge }

def ingest (crates : Crates) (replies : List ProviderReply) (uuids : IngestUuids)
    (gw rawBody : String) : Query IngestError Ingested :=
  let rawSha256 := crates.sign "sms-audit" rawBody
  match resolve gw with
  | none => throw .unknownGateway
  | some gateway => do
      let (parsed, source) ← parse crates replies gateway rawBody rawSha256
      record crates uuids rawSha256 parsed source

end Sms

end SpritexPay
