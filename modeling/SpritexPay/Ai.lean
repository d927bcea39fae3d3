import SpritexPay.Gateway
import SpritexPay.Statement

/-! The fallback extraction of the source's `ai` module. What the providers
answer is a parameter of a request: the chain is the list of the configured
providers with the reply each of them would give. -/

set_option autoImplicit false

namespace SpritexPay

open Binary64 Resumption

/-- A slice whose range is decreasing panics. -/
inductive Panic where
  | sliceRange
  deriving DecidableEq, Repr

/-- A configured provider and the outcome of `call_provider`. -/
structure ProviderReply where
  provider : String
  content : Option String
  deriving DecidableEq

def trim (text : String) : String :=
  String.ofList ((text.toList.dropWhile Pattern.space).reverse.dropWhile Pattern.space).reverse

/-- `content[content.find('{')?..=content.rfind('}')?]` -/
def jsonSlice (content : String) : Except Panic (Option String) :=
  let chars := content.toList
  match chars.findIdx? (· == '\x7b'), chars.reverse.findIdx? (· == '\x7d') with
  | some start, some fromEnd =>
      let stop := chars.length - fromEnd
      if start ≤ stop then .ok (some (String.ofList ((chars.take stop).drop start)))
      else .error .sliceRange
  | _, _ => .ok none

def acceptExtraction (gateway : Gateway) (extraction : Extraction) : Option ParsedTxn := do
  let txnId := trim (← extraction.txnId)
  if txnId.isEmpty then none
  else
    let amount ← extraction.amountBdt
    if !amount.isFinite || amount.nonPositive then none
    else
      some { gateway, txnId, amountMinor := (amount.scale 100).round.toI64,
             senderMsisdn := extraction.senderMsisdn.filter fun sender => !sender.isEmpty }

def parseExtraction (crates : Crates) (gateway : Gateway) (content : String) :
    Except Panic (Option ParsedTxn) := do
  match ← jsonSlice content with
  | none => return none
  | some object =>
      return (crates.extractionFromStr object).bind (acceptExtraction gateway)

/-- Try each provider in order; the first valid extraction wins. Every attempt
is logged, and a failure to log it is ignored. -/
def extract (crates : Crates) (gateway : Gateway) (rawBody rawSha256 : String) :
    List ProviderReply → Query Panic (Option ParsedTxn)
  | [] => pure none
  | reply :: rest => do
      let parsed ← match reply.content with
        | some content => ExceptT.mk (pure (parseExtraction crates gateway content))
        | none => pure none
      let _ ← trySql (.insertAiParse
        { gateway, rawSha256, rawBody, provider := reply.provider, success := parsed.isSome,
          txnId := parsed.map (·.txnId), amountMinor := parsed.map (·.amountMinor),
          senderMsisdn := parsed.bind (·.senderMsisdn) })
      match parsed with
      | some txn => return some txn
      | none => extract crates gateway rawBody rawSha256 rest

end SpritexPay
