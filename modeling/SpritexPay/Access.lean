import Mathlib.Algebra.Group.Nat.Defs
import SpritexPay.Crypto
import SpritexPay.Statement

/-! The admin boundary: what the engine reads from its environment, the signed
bearer tokens of the console, and the devices that forward messages. -/

set_option autoImplicit false

namespace SpritexPay

open Relational

def splitOnce (separator : Char) (text : String) : Option (String × String) :=
  let chars := text.toList
  match chars.dropWhile (· != separator) with
  | [] => none
  | _ :: rest => some (.ofList (chars.takeWhile (· != separator)), .ofList rest)

def dropSign : List Char → List Char
  | '+' :: rest => rest
  | chars => chars

/-- `str::parse` at an unsigned type: a sign `+` is allowed. -/
def parseUnsigned (bound : Nat) (text : String) : Option Nat :=
  let digits := dropSign text.toList
  if digits.isEmpty || !digits.all Char.isDigit then none
  else
    let number := Nat.ofDigitChars 10 digits 0
    if number < bound then some number else none

/-! ## Startup -/

namespace Startup

/-- `std::env::var`: no value also stands for one that is not Unicode. -/
abbrev Vars := String → Option String

def envOr (vars : Vars) (key default : String) : String := (vars key).getD default

def nonEmpty (value : Option String) : Option String := value.filter fun text => !text.isEmpty

structure Config where
  bindAddr : (UInt8 × UInt8 × UInt8 × UInt8) × Nat
  databaseUrl : String
  smsHmacSecret : String
  webhookHmacSecret : String
  redisUrl : Option String
  staticDir : String
  adminPassword : Option String
  authSecret : String
  baseUrl : Option String

inductive ConfigError where
  | port
  deriving DecidableEq

def Config.fromEnv (vars : Vars) : Except ConfigError Config :=
  match parseUnsigned (2 ^ 16) (envOr vars "PORT" "8080") with
  | none => .error .port
  | some port => .ok {
      bindAddr := ((0, 0, 0, 0), port)
      databaseUrl := envOr vars "DATABASE_URL" "sqlite://spritexai_pay.db?mode=rwc"
      smsHmacSecret := envOr vars "SMS_HMAC_SECRET" "dev-insecure-secret-change-me"
      webhookHmacSecret := envOr vars "WEBHOOK_HMAC_SECRET" "dev-insecure-webhook-secret"
      redisUrl := nonEmpty (vars "REDIS_URL")
      staticDir := envOr vars "STATIC_DIR" "./static"
      adminPassword := nonEmpty (vars "ADMIN_PASSWORD")
      authSecret := (nonEmpty (vars "AUTH_SECRET")).getD
        (envOr vars "SMS_HMAC_SECRET" "dev-insecure-secret-change-me")
      baseUrl := nonEmpty (vars "BASE_URL") }

end Startup

/-! ## Bearer tokens -/

namespace Auth

variable (hmac : Hmac) (authSecret : String)

def tokenTtlSecs : Nat := 7 * 24 * 60 * 60

/-- The text that a token's signature covers comes first. -/
def token (expiry : Nat) : String :=
  toString expiry ++ "." ++ Crypto.sign hmac authSecret.toUTF8 (toString expiry).toUTF8

def issueToken (now : Nat) : String := token hmac authSecret (now + tokenTtlSecs)

def verifyToken (token : String) (now : Nat) : Bool :=
  match splitOnce '.' token with
  | none => false
  | some (expiryText, sig) =>
      if !Crypto.verify hmac authSecret.toUTF8 expiryText.toUTF8 sig then false
      else
        match parseUnsigned (2 ^ 64) expiryText with
        | some expiry => decide (now < expiry)
        | none => false

end Auth

namespace Http

/-- The token of an `Authorization` header, empty where there is none or it is
not a bearer's. A header that is not visible ASCII counts as none. -/
def bearer (authorization : Option String) : String :=
  match authorization.map String.toList with
  | some ('B' :: 'e' :: 'a' :: 'r' :: 'e' :: 'r' :: ' ' :: token) => .ofList token
  | _ => ""

/-- Whether the guard of the console's routes lets a request through. -/
def requireAuth (hmac : Hmac) (config : Startup.Config) (authorization : Option String)
    (now : Nat) : Bool :=
  config.adminPassword.isNone || Auth.verifyToken hmac config.authSecret (bearer authorization) now

end Http

/-! ## Devices -/

inductive DeviceStatus where
  | active
  | revoked
  deriving DecidableEq

structure Device where
  id : String
  label : Option String
  tokenSha256 : String
  status : DeviceStatus
  lastSeenAt : Option Timestamp
  createdAt : Timestamp
  deriving DecidableEq

instance : Indexed Device := .both Device.id Device.tokenSha256

structure PairedDevice where
  id : String
  label : Option String
  pairingToken : String
  deriving DecidableEq

structure PairUuids where
  device : String
  token : String × String

namespace Device

def digest (hmac : Hmac) (token : String) : String :=
  Crypto.sign hmac "device-token".toUTF8 token.toUTF8

def pair (hmac : Hmac) (uuids : PairUuids) (label : Option String) (now : Timestamp)
    (devices : Table Device) : Except SqlError (PairedDevice × Table Device) :=
  let id := "dev_" ++ uuids.device
  let token := "spx_" ++ uuids.token.1 ++ uuids.token.2
  match devices.insert? ⟨id, label, digest hmac token, .active, none, now⟩ with
  | none => .error .uniqueViolation
  | some devices => .ok (⟨id, label, token⟩, devices)

def exchangeToken (hmac : Hmac) (token : String) (now : Timestamp) (devices : Table Device) :
    Option String × Table Device :=
  match devices.find? fun device =>
      device.tokenSha256 == digest hmac token && device.status == .active with
  | none => (none, devices)
  | some found => (some found.id,
      devices.update (fun device => device.id == found.id)
        (fun device => { device with lastSeenAt := some now }) fun _ => rfl)

end Device

structure Exchanged where
  deviceId : String
  gatewaySecret : String
  deriving DecidableEq

/-- `POST /v1/devices/exchange` -/
def Http.exchangeToken (hmac : Hmac) (config : Startup.Config) (token : String)
    (now : Timestamp) (devices : Table Device) : Option Exchanged × Table Device :=
  let (deviceId, devices) := Device.exchangeToken hmac token now devices
  (deviceId.map fun deviceId => ⟨deviceId, config.smsHmacSecret⟩, devices)

end SpritexPay
