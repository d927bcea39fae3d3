import SpritexPay.Binary64

/-! What the engine takes from crates outside the repository. Results about the
engine hold for every choice of these functions unless they say otherwise. -/

set_option autoImplicit false

namespace SpritexPay

open Binary64

/-- A JSON value, `null` or any other by its compact text. -/
inductive Json where
  | null
  | text (compact : String)
  deriving DecidableEq, Repr

inductive Scalar where
  | string (value : String)
  | integer (value : Int64)
  deriving DecidableEq

/-- The reply format the language models are asked for. -/
structure Extraction where
  txnId : Option String
  amountBdt : Option F64
  senderMsisdn : Option String

structure Crates where
  /-- HMAC-SHA256 of a body under a key, in hexadecimal. -/
  hmacSha256 : String → String → String
  /-- `serde_json::from_str::<Extraction>` -/
  extractionFromStr : String → Option Extraction
  /-- `serde_json::from_str::<serde_json::Value>` -/
  jsonFromStr : String → Option Json
  /-- The text of an object with these members. -/
  jsonObject : List (String × Scalar) → String
  /-- The decimal digits `\d` of the regex crate. -/
  decimalDigit : Char → Bool
  /-- An HTTP status with its reason, as `StatusCode` prints it. -/
  statusText : Nat → String

/-- `crypto::sign` -/
def Crates.sign (crates : Crates) (secret body : String) : String :=
  crates.hmacSha256 secret body

end SpritexPay
