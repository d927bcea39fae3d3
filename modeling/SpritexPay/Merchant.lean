import SpritexPay.Crates
import SpritexPay.Statement

/-! Merchant API keys, and the histories of the calls that make, revoke and check
them. The lists of scopes are stored as JSON text, whose reading and writing are
parameters. -/

set_option autoImplicit false

namespace SpritexPay

open Relational

/-- `serde_json` at lists of strings. -/
structure ScopesJson where
  toString : List String → Option String
  fromStr : String → Option (List String)

def ScopesJson.RoundTrips (json : ScopesJson) (scopes : List String) : Prop :=
  ∃ text, json.toString scopes = some text ∧ json.fromStr text = some scopes

structure CreateApiKey where
  label : Option String
  scopes : Option (List String)
  deriving DecidableEq

structure NewApiKey where
  id : String
  label : Option String
  scopes : List String
  apiKey : String
  deriving DecidableEq

inductive ApiKeyStatus where
  | active
  | revoked
  deriving DecidableEq

structure ApiKey where
  id : String
  keySha256 : String
  label : Option String
  scopes : String
  status : ApiKeyStatus
  createdAt : Timestamp
  lastUsedAt : Option Timestamp
  deriving DecidableEq

instance : Indexed ApiKey := .both ApiKey.id ApiKey.keySha256

structure KeyContext where
  id : String
  scopes : List String
  deriving DecidableEq

structure ApiKeyUuids where
  id : String
  key : String × String

namespace Merchant

variable (crates : Crates) (json : ScopesJson)

def keyDigest (raw : String) : String := crates.sign "api-key" raw

def defaultScopes : List String := ["create_payment", "verify_payment"]

def grantedScopes (req : CreateApiKey) : List String :=
  (req.scopes.filter fun scopes => !scopes.isEmpty).getD defaultScopes

def parseScopes (raw : String) : List String := (json.fromStr raw).getD []

def createApiKey (uuids : ApiKeyUuids) (req : CreateApiKey) (now : Timestamp)
    (keys : Table ApiKey) : Except SqlError (NewApiKey × Table ApiKey) :=
  let id := "ak_" ++ uuids.id
  let raw := "spk_" ++ uuids.key.1 ++ uuids.key.2
  let scopes := grantedScopes req
  let scopesJson := (json.toString scopes).getD "[]"
  match keys.insert? ⟨id, keyDigest crates raw, req.label, scopesJson, .active, now, none⟩ with
  | none => .error .uniqueViolation
  | some keys => .ok (⟨id, req.label, scopes, raw⟩, keys)

/-- `UPDATE api_keys SET last_used_at = … WHERE id = ?` -/
def stampUsed (id : String) (now : Timestamp) (keys : Table ApiKey) : Table ApiKey :=
  keys.update (fun key => key.id == id) (fun key => { key with lastUsedAt := some now })
    fun _ => rfl

/-- `UPDATE api_keys SET status = 'revoked' WHERE id = ?` -/
def setRevoked (id : String) (keys : Table ApiKey) : Table ApiKey :=
  keys.update (fun key => key.id == id) (fun key => { key with status := .revoked }) fun _ => rfl

def verifyApiKey (raw requiredScope : String) (now : Timestamp) (keys : Table ApiKey) :
    Option KeyContext × Table ApiKey :=
  match keys.find? fun key => key.keySha256 == keyDigest crates raw && key.status == .active with
  | none => (none, keys)
  | some found =>
      let scopes := parseScopes json found.scopes
      if !scopes.any (· == requiredScope) then (none, keys)
      else (some ⟨found.id, scopes⟩, stampUsed found.id now keys)

def revokeApiKey (id : String) (keys : Table ApiKey) : Bool × Table ApiKey :=
  (decide (0 < keys.count fun key => key.id == id), setRevoked id keys)

/-! ## Histories -/

inductive Call where
  | created (req : CreateApiKey) (outcome : Except SqlError NewApiKey)
  | verified (raw requiredScope : String) (outcome : Option KeyContext)
  | revoked (id : String) (found : Bool)

/-- The calls served since the table was empty, newest first. -/
inductive History : List Call → Table ApiKey → Prop where
  | start : History [] ∅
  | create {calls : List Call} {before after : Table ApiKey} {req : CreateApiKey}
      {key : NewApiKey} (history : History calls before) (uuids : ApiKeyUuids) (now : Timestamp)
      (made : createApiKey crates json uuids req now before = .ok (key, after)) :
      History (.created req (.ok key) :: calls) after
  | refuse {calls : List Call} {before : Table ApiKey} {req : CreateApiKey} {error : SqlError}
      (history : History calls before) (uuids : ApiKeyUuids) (now : Timestamp)
      (refused : createApiKey crates json uuids req now before = .error error) :
      History (.created req (.error error) :: calls) before
  | verify {calls : List Call} {before : Table ApiKey} (history : History calls before)
      (raw requiredScope : String) (now : Timestamp) :
      History (.verified raw requiredScope
          (verifyApiKey crates json raw requiredScope now before).1 :: calls)
        (verifyApiKey crates json raw requiredScope now before).2
  | revoke {calls : List Call} {before : Table ApiKey} (history : History calls before)
      (id : String) :
      History (.revoked id (revokeApiKey id before).1 :: calls) (revokeApiKey id before).2

end Merchant

end SpritexPay
