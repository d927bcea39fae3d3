import SpritexPay.Crates
import SpritexPay.Pattern
import SpritexPay.Schema

/-! The gateways of the source's `gateway` module: the regular expressions of
the confirmation messages and the parsers built on them. -/

set_option autoImplicit false

namespace SpritexPay

open Binary64

structure ParsedTxn where
  gateway : Gateway
  txnId : String
  amountMinor : Int64
  senderMsisdn : Option String
  deriving DecidableEq

inductive ParseError where
  | noMatch (gateway : Gateway)
  | badAmount
  deriving DecidableEq, Repr

def toAsciiLowercase (text : String) : String := String.ofList (text.toList.map Char.toLower)

def resolve (gateway : String) : Option Gateway :=
  match toAsciiLowercase gateway with
  | "bkash" => some .bkash
  | "nagad" => some .nagad
  | _ => none

/-- Taka in decimal notation to minor units. -/
def amountToMinor (raw : String) : Except ParseError Int64 :=
  let cleaned := raw.toList.filter fun char => char.isDigit || char == '.'
  match F64.parse cleaned with
  | some value => .ok ((value.scale 100).round.toI64)
  | none => .error .badAmount

/-! ## Regular expressions -/

section Patterns

open Pattern

variable (crates : Crates)

def digits : Pattern := some1 crates.decimalDigit

/-- `([\d,]+(?:\.\d+)?)` -/
def amountGroup : Pattern :=
  .group (.seq (some1 fun char => crates.decimalDigit char || char == ',')
    (optional (.seq (.one (· == '.')) (digits crates))))

/-- `(01\d{9})` -/
def msisdnGroup : Pattern :=
  .group (concat [word "01", times crates.decimalDigit 9])

def txidGroup : Pattern := .group (some1 alphanumeric)

/-- `Tk\.?` -/
def takaSign : Pattern := .seq (word "Tk") (optional (.one (· == '.')))

/-- `TrxID[:\s]+([A-Z0-9]+)` -/
def bkashTxid : Pattern := concat [word "TrxID", some1 colonOrSpace, txidGroup]

/-- `(?:received|Tk\.?)\s*Tk?\.?\s*([\d,]+(?:\.\d+)?)` -/
def bkashAmount : Pattern :=
  concat [.alt (word "received") takaSign, .many space, word "T", optional (word "k"),
    optional (.one (· == '.')), .many space, amountGroup crates]

/-- `from\s+(01\d{9})` -/
def bkashSender : Pattern := concat [word "from", some1 space, msisdnGroup crates]

/-- `(?:TxnID|TrxID)[:\s]+([A-Z0-9]+)` -/
def nagadTxid : Pattern :=
  concat [.alt (word "TxnID") (word "TrxID"), some1 colonOrSpace, txidGroup]

/-- `Amount[:\s]+Tk\.?\s*([\d,]+(?:\.\d+)?)` -/
def nagadAmount : Pattern :=
  concat [word "Amount", some1 colonOrSpace, takaSign, .many space, amountGroup crates]

/-- `Sender[:\s]+(01\d{9})` -/
def nagadSender : Pattern := concat [word "Sender", some1 colonOrSpace, msisdnGroup crates]

end Patterns

/-! ## Parsers -/

def parseWith (gateway : Gateway) (txid amount sender : Pattern) (body : String) :
    Except ParseError ParsedTxn :=
  match txid.captures body with
  | none => .error (.noMatch gateway)
  | some txnId =>
      match amount.captures body with
      | none => .error (.noMatch gateway)
      | some raw =>
          match amountToMinor raw with
          | .error error => .error error
          | .ok amountMinor =>
              .ok { gateway, txnId, amountMinor, senderMsisdn := sender.captures body }

def Gateway.parseSms (crates : Crates) : Gateway → String → Except ParseError ParsedTxn
  | .bkash => parseWith .bkash bkashTxid (bkashAmount crates) (bkashSender crates)
  | .nagad => parseWith .nagad nagadTxid (nagadAmount crates) (nagadSender crates)

end SpritexPay
