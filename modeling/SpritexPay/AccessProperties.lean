import SpritexPay.Access

/-! Who can pass the guard of the console. A token verifies exactly until its
expiry, and a device that only has what pairing tells it can make one exactly
when the secret that signs tokens is among what it is told. -/

set_option autoImplicit false

namespace SpritexPay

open Relational Keyed

theorem isDigit_of_mem_toString {number : Nat} {char : Char}
    (member : char ∈ (toString number).toList) : char.isDigit = true := by
  rw [Nat.toString_eq_repr, Nat.toList_repr] at member
  exact Nat.isDigit_of_mem_toDigits (by decide) (by decide) member

theorem dropSign_of_digits {chars : List Char} (digits : ∀ char ∈ chars, char.isDigit = true) :
    dropSign chars = chars := by
  unfold dropSign
  split
  · have plus := digits '+' List.mem_cons_self
    exact absurd plus (by decide)
  · rfl

theorem parseUnsigned_toString_eq (bound number : Nat) :
    parseUnsigned bound (toString number) = if number < bound then some number else none := by
  have spelled : (toString number).toList = Nat.toDigits 10 number := by
    rw [Nat.toString_eq_repr, Nat.toList_repr]
  have digits : ∀ char ∈ Nat.toDigits 10 number, char.isDigit = true := fun _ member =>
    Nat.isDigit_of_mem_toDigits (by decide) (by decide) member
  unfold parseUnsigned
  rw [spelled, dropSign_of_digits digits]
  simp [Nat.ofDigitChars_ten_toDigits, Nat.toDigits_ne_nil, List.all_eq_true.mpr digits]

theorem parseUnsigned_toString {bound number : Nat} (small : number < bound) :
    parseUnsigned bound (toString number) = some number := by
  rw [parseUnsigned_toString_eq, if_pos small]

theorem splitOnce_append {separator : Char} {head tail : String}
    (clean : ∀ char ∈ head.toList, char ≠ separator) :
    splitOnce separator (head ++ String.singleton separator ++ tail) = some (head, tail) := by
  have passes : ∀ char ∈ head.toList, (char != separator) = true := by
    simpa using clean
  simp [splitOnce, String.toList_append, List.dropWhile_append_of_pos passes,
    List.takeWhile_append_of_pos passes]

namespace Auth

variable {hmac : Hmac} {authSecret : String}

/-- A token verifies until its expiry, for who signed it with the same secret. -/
theorem verifyToken_token {expiry : Nat} (small : expiry < 2 ^ 64) (now : Nat) :
    verifyToken hmac authSecret (token hmac authSecret expiry) now = decide (now < expiry) := by
  have clean : ∀ char ∈ (toString expiry).toList, char ≠ '.' := by
    rintro _ member rfl
    exact absurd (isDigit_of_mem_toString member) (by decide)
  have split : splitOnce '.' (token hmac authSecret expiry) =
      some (toString expiry, Crypto.sign hmac authSecret.toUTF8 (toString expiry).toUTF8) :=
    splitOnce_append clean
  rw [verifyToken, split]
  simp only [Crypto.verify_sign, parseUnsigned_toString small]
  rfl

theorem signed_of_verifyToken {token : String} {now : Nat}
    (verified : verifyToken hmac authSecret token now = true) :
    ∃ expiryText sig, splitOnce '.' token = some (expiryText, sig) ∧
      Hex.decode sig = some (hmac authSecret.toUTF8 expiryText.toUTF8).toList := by
  unfold verifyToken at verified
  split at verified
  · cases verified
  · rename_i expiryText sig split
    refine ⟨expiryText, sig, split, ?_⟩
    split at verified
    · cases verified
    · rename_i signed
      exact Crypto.verify_iff.mp (by simpa using signed)

theorem verifyToken_issueToken {issued : Nat} (small : issued + tokenTtlSecs < 2 ^ 64) (now : Nat) :
    verifyToken hmac authSecret (issueToken hmac authSecret issued) now = true ↔
      now < issued + tokenTtlSecs := by
  rw [issueToken, verifyToken_token small, decide_eq_true_iff]

end Auth

namespace Startup

variable {vars : Vars} {config : Config}

theorem Config.smsHmacSecret_of_fromEnv (loaded : fromEnv vars = .ok config) :
    config.smsHmacSecret = envOr vars "SMS_HMAC_SECRET" "dev-insecure-secret-change-me" := by
  unfold fromEnv at loaded
  split at loaded
  · cases loaded
  · cases loaded
    rfl

theorem Config.authSecret_of_fromEnv (loaded : fromEnv vars = .ok config) :
    config.authSecret = (nonEmpty (vars "AUTH_SECRET")).getD config.smsHmacSecret := by
  unfold fromEnv at loaded
  split at loaded
  · cases loaded
  · cases loaded
    rfl

theorem Config.adminPassword_of_fromEnv (loaded : fromEnv vars = .ok config) :
    config.adminPassword = nonEmpty (vars "ADMIN_PASSWORD") := by
  unfold fromEnv at loaded
  split at loaded
  · cases loaded
  · cases loaded
    rfl

theorem nonEmpty_eq_some_iff {value : Option String} {text : String} :
    nonEmpty value = some text ↔ value = some text ∧ text ≠ "" := by
  simp [nonEmpty, Option.filter_eq_some_iff]

/-- The secret that signs tokens is another one than the secret for messages
exactly when it is given and not empty, and given as another one. -/
theorem Config.authSecret_apart_iff (loaded : fromEnv vars = .ok config) :
    config.authSecret ≠ config.smsHmacSecret ↔
      ∃ secret, vars "AUTH_SECRET" = some secret ∧ secret ≠ "" ∧
        secret ≠ config.smsHmacSecret := by
  rw [authSecret_of_fromEnv loaded]
  constructor
  · intro apart
    cases given : nonEmpty (vars "AUTH_SECRET") with
    | none =>
        rw [given] at apart
        exact absurd rfl apart
    | some secret =>
        obtain ⟨set, written⟩ := nonEmpty_eq_some_iff.mp given
        rw [given] at apart
        exact ⟨secret, set, written, apart⟩
  · rintro ⟨secret, set, written, apart⟩
    rw [nonEmpty_eq_some_iff.mpr ⟨set, written⟩]
    exact apart

end Startup

theorem Http.requireAuth_eq {hmac : Hmac} {config : Startup.Config} {password : String}
    {authorization : Option String} {now : Nat} (guarded : config.adminPassword = some password) :
    requireAuth hmac config authorization now =
      Auth.verifyToken hmac config.authSecret (bearer authorization) now := by
  simp [requireAuth, guarded]

theorem Http.gatewaySecret_of_exchangeToken {hmac : Hmac} {config : Startup.Config}
    {token : String} {now : Timestamp} {devices : Table Device} {reply : Exchanged}
    (exchanged : (exchangeToken hmac config token now devices).1 = some reply) :
    reply.gatewaySecret = config.smsHmacSecret := by
  obtain ⟨_, _, rfl⟩ := Option.map_eq_some_iff.mp exchanged
  rfl

/-- A device that is paired can exchange its token. -/
theorem Device.exchangeToken_of_pair {hmac : Hmac} {uuids : PairUuids} {label : Option String}
    {pairedAt now : Timestamp} {devices after : Table Device} {paired : PairedDevice}
    (pairs : pair hmac uuids label pairedAt devices = .ok (paired, after)) :
    (exchangeToken hmac paired.pairingToken now after).1 = some paired.id := by
  unfold pair at pairs
  dsimp only at pairs
  split at pairs
  · cases pairs
  · rename_i inserted
    cases pairs
    have found : after.find? (fun device => device.tokenSha256 ==
        digest hmac ("spx_" ++ uuids.token.1 ++ uuids.token.2) && device.status == .active) =
          some ⟨"dev_" ++ uuids.device, label,
            digest hmac ("spx_" ++ uuids.token.1 ++ uuids.token.2), .active, none, pairedAt⟩ := by
      refine Table.find?_eq_some_of_mem ((Table.mem_insert? inserted).mpr (.inr rfl)) (by simp) ?_
      intro other _ chosen
      simp only [Bool.and_eq_true, beq_iff_eq] at chosen
      simp [key, clash, chosen.1]
    simp only [exchangeToken, found]

/-! ## What a device can make -/

/-- The texts that a paired device is told. -/
def learned (pairingToken : String) (reply : Exchanged) : List ByteArray :=
  [pairingToken.toUTF8, reply.gatewaySecret.toUTF8]

/-- The guard takes the token of the header at some time. -/
def Admits (config : Startup.Config) (hmac : Hmac) (authorization : String) : Prop :=
  ∃ now < 2 ^ 64,
    Auth.verifyToken hmac config.authSecret (Http.bearer (some authorization)) now = true

theorem Http.bearer_token (token : String) : bearer (some ("Bearer " ++ token)) = token := by
  simp [bearer, String.toList_append]

/-- Any header is refused under some function that differs under the secret only. -/
theorem refused_otherwise (config : Startup.Config) (hmac : Hmac) (authorization : String) :
    ∃ other, AgreeOff config.authSecret.toUTF8 hmac other ∧ ¬Admits config other authorization := by
  have unread : ∃ digest : Digest, ∀ expiryText sig,
      splitOnce '.' (Http.bearer (some authorization)) = some (expiryText, sig) →
        Hex.decode sig ≠ some digest.toList := by
    cases splitOnce '.' (Http.bearer (some authorization)) with
    | none => exact ⟨default, nofun⟩
    | some parts =>
        by_cases zero : Hex.decode parts.2 = some (Vector.replicate 32 0).toList
        · refine ⟨Vector.replicate 32 1, ?_⟩
          rintro _ _ ⟨⟩ one
          rw [zero, Option.some.injEq] at one
          exact absurd one (by decide)
        · refine ⟨Vector.replicate 32 0, ?_⟩
          rintro _ _ ⟨⟩
          exact zero
  obtain ⟨digest, different⟩ := unread
  refine ⟨override config.authSecret.toUTF8 digest hmac, agreeOff_override, ?_⟩
  rintro ⟨now, _, verified⟩
  obtain ⟨expiryText, sig, split, decoded⟩ := Auth.signed_of_verifyToken verified
  rw [override_secret] at decoded
  exact different expiryText sig split decoded

/-- The last second of a 64-bit clock. -/
def lastSecond : Nat := 2 ^ 64 - 1

/-- The header of a token that is signed by the newest value at hand. -/
def forgedHeader (values : List ByteArray) : String :=
  "Bearer " ++ (toString lastSecond ++ "." ++
    Hex.encode (values.headD ByteArray.empty).data.toList)

theorem verifyToken_forgedHeader {hmac : Hmac} {authSecret : String} {now : Nat}
    (known : List ByteArray) (early : now < lastSecond) :
    Auth.verifyToken hmac authSecret (Http.bearer (some (forgedHeader
      (⟨(hmac authSecret.toUTF8 (toString lastSecond).toUTF8).toArray⟩ :: known)))) now = true := by
  rw [forgedHeader, Http.bearer_token]
  exact (Auth.verifyToken_token (by decide) now).trans (decide_eq_true early)

/-- A device cannot make a header that the guard takes, exactly when the secret
that signs tokens is set, and to none of the texts the device is told. -/
theorem device_cannot_forge_iff {vars : Startup.Vars} {config : Startup.Config} {hmac : Hmac}
    {pairingToken : String} {now : Timestamp} {devices : Table Device} {reply : Exchanged}
    (loaded : Startup.Config.fromEnv vars = .ok config)
    (exchanged : (Http.exchangeToken hmac config pairingToken now devices).1 = some reply) :
    Unforgeable config.authSecret.toUTF8 (learned pairingToken reply) (Admits config) ↔
      config.authSecret ≠ pairingToken ∧ ∃ secret, vars "AUTH_SECRET" = some secret ∧
        secret ≠ "" ∧ secret ≠ config.smsHmacSecret := by
  have forged : Unforgeable config.authSecret.toUTF8 (learned pairingToken reply) (Admits config) ↔
      config.authSecret.toUTF8 ∉ learned pairingToken reply :=
    unforgeable_iff (toString lastSecond).toUTF8 (fun digest => ⟨digest.toArray⟩) forgedHeader
      (fun other => ⟨0, by decide, verifyToken_forgedHeader _ (by decide)⟩)
      (refused_otherwise config)
  have told : config.authSecret.toUTF8 ∉ learned pairingToken reply ↔
      config.authSecret ≠ pairingToken ∧ config.authSecret ≠ config.smsHmacSecret := by
    rw [learned, Http.gatewaySecret_of_exchangeToken exchanged]
    simp [String.toByteArray_inj]
  rw [forged, told, Startup.Config.authSecret_apart_iff loaded]

def sampleVars (authSecret : Option String) : Startup.Vars
  | "ADMIN_PASSWORD" => some "hunter2"
  | "SMS_HMAC_SECRET" => some "sms-secret"
  | "AUTH_SECRET" => authSecret
  | _ => none

def samplePairUuids : PairUuids := ⟨"1", "a", "b"⟩

theorem device_cannot_forge_iff_sample : ∃ config devices reply,
    Startup.Config.fromEnv (sampleVars (some "auth-secret")) = .ok config ∧
    (Http.exchangeToken (fun _ _ => default) config "spx_ab" 1 devices).1 = some reply ∧
    Unforgeable config.authSecret.toUTF8 (learned "spx_ab" reply) (Admits config) := by
  obtain ⟨config, loaded⟩ : ∃ config,
      Startup.Config.fromEnv (sampleVars (some "auth-secret")) = .ok config := ⟨_, rfl⟩
  obtain ⟨devices, pairs⟩ : ∃ devices, Device.pair (fun _ _ => default) samplePairUuids none 0 ∅ =
      .ok (⟨"dev_1", none, "spx_ab"⟩, devices) := ⟨_, rfl⟩
  have known : (Http.exchangeToken (fun _ _ => default) config "spx_ab" 1 devices).1 =
      some ⟨"dev_1", config.smsHmacSecret⟩ :=
    congrArg (Option.map _) (Device.exchangeToken_of_pair pairs)
  refine ⟨config, devices, _, loaded, known, (device_cannot_forge_iff loaded known).mpr ⟨?_, ?_⟩⟩
  · rw [Startup.Config.authSecret_of_fromEnv loaded]
    exact (by decide : "auth-secret" ≠ "spx_ab")
  · rw [Startup.Config.smsHmacSecret_of_fromEnv loaded]
    exact ⟨"auth-secret", rfl, by decide, by decide⟩

/-- One signature under the secret for messages. -/
def forger : Strategy ByteArray Digest String where
  steps := [.ask (fun values => values.getLastD ByteArray.empty)
    (fun _ => (toString lastSecond).toUTF8) fun digest => ⟨digest.toArray⟩]
  result := forgedHeader

/-- Without a secret of its own for tokens, the engine takes a paired device for
the admin, whatever the password is. -/
theorem paired_device_admitted : ∃ config,
    Startup.Config.fromEnv (sampleVars none) = .ok config ∧ config.adminPassword = some "hunter2" ∧
    ∀ hmac : Hmac, ∃ paired devices reply,
      Device.pair hmac samplePairUuids none 0 ∅ = .ok (paired, devices) ∧
      (Http.exchangeToken hmac config paired.pairingToken 1 devices).1 = some reply ∧
      forger.Permitted hmac (learned paired.pairingToken reply) config.authSecret.toUTF8 ∧
      ∀ now < lastSecond, Http.requireAuth hmac config
        (some (forger.run hmac (learned paired.pairingToken reply))) now = true := by
  obtain ⟨config, loaded⟩ : ∃ config, Startup.Config.fromEnv (sampleVars none) = .ok config :=
    ⟨_, rfl⟩
  have guarded : config.adminPassword = some "hunter2" :=
    Startup.Config.adminPassword_of_fromEnv loaded
  have secret : config.authSecret = config.smsHmacSecret :=
    Startup.Config.authSecret_of_fromEnv loaded
  refine ⟨config, loaded, guarded, fun hmac => ?_⟩
  obtain ⟨paired, devices, pairs⟩ : ∃ paired devices,
      Device.pair hmac samplePairUuids none 0 ∅ = .ok (paired, devices) := ⟨_, _, rfl⟩
  refine ⟨paired, devices, ⟨paired.id, config.smsHmacSecret⟩, pairs,
    congrArg (Option.map _) (Device.exchangeToken_of_pair pairs), fun _ => ?_, fun now early => ?_⟩
  · simp [learned, secret]
  · rw [Http.requireAuth_eq guarded, secret]
    exact verifyToken_forgedHeader _ early

end SpritexPay
