import SpritexPay.Ai

/-! The other replies of the language models that the source's `ai` module
reads: the intent of a question and the patterns suggested for messages whose
format has drifted. How serde reads an object and which patterns the regex
engine compiles are parameters. -/

set_option autoImplicit false

namespace SpritexPay

structure ChatIntent where
  intent : String
  gateway : Option String
  deriving DecidableEq, Repr

def parseIntent (fromStr : String → Option ChatIntent) (content : String) :
    Except Panic (Option ChatIntent) := do
  match ← jsonSlice content with
  | none => return none
  | some object => return fromStr object

/-- The first provider is asked, the others are not. -/
def classifyQuestion (fromStr : String → Option ChatIntent) :
    List ProviderReply → Except Panic (Option ChatIntent)
  | [] => .ok none
  | reply :: _ =>
      match reply.content with
      | none => .ok none
      | some content => parseIntent fromStr content

/-- The object the model is asked for. -/
structure RawSuggestion where
  txid : String
  amount : String
  sender : String
  note : String
  deriving DecidableEq, Repr

structure RegexSuggestion where
  gateway : String
  sampleCount : Nat
  txid : String
  amount : String
  sender : String
  note : String
  deriving DecidableEq, Repr

/-- The latest distinct messages that the patterns missed and a model read. -/
def Db.recoveredSamples (db : Db) (gateway : String) : List String :=
  let recovered := db.aiParseLog.reverse.filter fun parse =>
    parse.gateway.id == gateway && parse.success
  (recovered.map (·.rawBody)).eraseDups.take 20

/-- `suggest_regex` of a database that may fail to answer. -/
def suggestRegex (fromStr : String → Option RawSuggestion) (compiles : String → Bool)
    (chain : List ProviderReply) (gateway : String) (db : Option Db) :
    Except Panic (Option RegexSuggestion) :=
  match chain, db with
  | [], _ => .ok none
  | _ :: _, none => .ok none
  | reply :: _, some db =>
      let samples := db.recoveredSamples gateway
      if samples.isEmpty then .ok none
      else
        match reply.content with
        | none => .ok none
        | some content => do
            match ← jsonSlice content with
            | none => return none
            | some object =>
                match fromStr object with
                | none => return none
                | some raw =>
                    if [raw.txid, raw.amount, raw.sender].all compiles then
                      return some { gateway, sampleCount := samples.length, txid := raw.txid,
                                    amount := raw.amount, sender := raw.sender, note := raw.note }
                    else return none

end SpritexPay
