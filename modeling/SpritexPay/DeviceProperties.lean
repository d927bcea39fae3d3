import SpritexPay.AccessProperties

/-! What becomes of a pairing token over a run of calls. Nothing takes a device
off the table or revokes it, so a token that was paired is honoured whenever it
is presented. -/

set_option autoImplicit false

namespace SpritexPay

open Relational

inductive DeviceCall where
  | pair (uuids : PairUuids) (label : Option String) (now : Timestamp)
  | exchange (token : String) (now : Timestamp)

namespace DeviceCall

variable (hmac : Hmac) (config : Startup.Config)

/-- What the caller of the exchange is told, and the devices afterwards. -/
def serve : DeviceCall → Table Device → Option Exchanged × Table Device
  | .pair uuids label now, devices =>
      match Device.pair hmac uuids label now devices with
      | .ok (_, after) => (none, after)
      | .error _ => (none, devices)
  | .exchange token now, devices => Http.exchangeToken hmac config token now devices

def serveAll : List DeviceCall → Table Device → Table Device
  | [], devices => devices
  | call :: rest, devices => serveAll rest (call.serve hmac config devices).2

def presents (token : String) : DeviceCall → Bool
  | .pair _ _ _ => false
  | .exchange presented _ => presented == token

/-- How often a run hands out the secret to somebody who presents this token. -/
def handedOut (token : String) : List DeviceCall → Table Device → Nat
  | [], _ => 0
  | call :: rest, devices =>
      let served := call.serve hmac config devices
      (if call.presents token && served.1.isSome then 1 else 0) + handedOut token rest served.2

end DeviceCall

/-! ## One call -/

/-- Some device was paired with a token of this digest. -/
def Device.Paired (hmac : Hmac) (token : String) (devices : Table Device) : Prop :=
  ∃ device ∈ devices, device.tokenSha256 = digest hmac token

/-- Such a device is there and not revoked. -/
def Device.Honoured (hmac : Hmac) (token : String) (devices : Table Device) : Prop :=
  ∃ device ∈ devices, device.tokenSha256 = digest hmac token ∧ device.status = .active

theorem Http.isSome_exchangeToken {hmac : Hmac} {config : Startup.Config} {token : String}
    {now : Timestamp} {devices : Table Device} :
    (exchangeToken hmac config token now devices).1.isSome = true ↔
      Device.Honoured hmac token devices := by
  have found : (exchangeToken hmac config token now devices).1.isSome =
      (devices.find? fun device =>
        device.tokenSha256 == Device.digest hmac token && device.status == .active).isSome := by
    simp only [exchangeToken, Device.exchangeToken, Option.isSome_map]
    cases devices.find? _ <;> rfl
  rw [found, Table.find?, List.find?_isSome]
  simp [Device.Honoured, Table.mem_rows]

/-- Whatever is served, the devices stay with their digests and statuses. -/
theorem DeviceCall.kept {hmac : Hmac} {config : Startup.Config} (call : DeviceCall)
    {devices : Table Device} {device : Device} (member : device ∈ devices) :
    ∃ kept ∈ (call.serve hmac config devices).2,
      kept.tokenSha256 = device.tokenSha256 ∧ kept.status = device.status := by
  cases call with
  | pair uuids label now =>
      simp only [serve, Device.pair]
      cases inserted : devices.insert? _ with
      | none => exact ⟨device, member, rfl, rfl⟩
      | some after => exact ⟨device, (Table.mem_insert? inserted).mpr (.inl member), rfl, rfl⟩
  | exchange token now =>
      simp only [serve, Http.exchangeToken, Device.exchangeToken]
      cases devices.find? _ with
      | none => exact ⟨device, member, rfl, rfl⟩
      | some found =>
          refine ⟨if device.id == found.id then { device with lastSeenAt := some now } else device,
            ?_, ?_⟩
          · dsimp only
            rw [Table.mem_update]
            exact ⟨device, member, rfl⟩
          · split <;> exact ⟨rfl, rfl⟩

/-! ## A run of calls -/

namespace DeviceCall

variable {hmac : Hmac} {config : Startup.Config} {token : String}

theorem honoured_serve (call : DeviceCall) {devices : Table Device}
    (honoured : Device.Honoured hmac token devices) :
    Device.Honoured hmac token (call.serve hmac config devices).2 := by
  obtain ⟨device, member, digest, active⟩ := honoured
  obtain ⟨kept, keptMember, sameDigest, sameStatus⟩ := call.kept member
  exact ⟨kept, keptMember, sameDigest.trans digest, sameStatus.trans active⟩

theorem paired_serveAll {calls : List DeviceCall} {devices : Table Device}
    (paired : Device.Paired hmac token devices) :
    Device.Paired hmac token (serveAll hmac config calls devices) := by
  induction calls generalizing devices with
  | nil => exact paired
  | cons call rest ih =>
      obtain ⟨device, member, digest⟩ := paired
      obtain ⟨kept, keptMember, same, _⟩ := call.kept member
      exact ih ⟨kept, keptMember, same.trans digest⟩

theorem handedOut_append (before after : List DeviceCall) (devices : Table Device) :
    handedOut hmac config token (before ++ after) devices =
      handedOut hmac config token before devices +
        handedOut hmac config token after (serveAll hmac config before devices) := by
  induction before generalizing devices with
  | nil => exact (Nat.zero_add _).symm
  | cons call rest ih => simp only [List.cons_append, handedOut, serveAll, ih, Nat.add_assoc]

/-- Presenting a token that is honoured hands out the secret, and one that no
device was paired with does not. -/
theorem isSome_serve {call : DeviceCall} (presented : call.presents token = true)
    {devices : Table Device} :
    (call.serve hmac config devices).1.isSome = true ↔ Device.Honoured hmac token devices := by
  cases call with
  | pair uuids label now => cases presented
  | exchange other now =>
      obtain rfl : other = token := eq_of_beq presented
      exact Http.isSome_exchangeToken

/-- An honoured token is worth the secret as often as it is presented. -/
theorem handedOut_of_honoured {calls : List DeviceCall} {devices : Table Device}
    (honoured : Device.Honoured hmac token devices) :
    handedOut hmac config token calls devices = calls.countP (presents token) := by
  induction calls generalizing devices with
  | nil => rfl
  | cons call rest ih =>
      rw [handedOut, ih (call.honoured_serve honoured), List.countP_cons, Nat.add_comm]
      by_cases presented : call.presents token = true
      · simp [presented, (isSome_serve presented).mpr honoured]
      · simp [presented]

theorem handedOut_of_unpaired {calls : List DeviceCall} {devices : Table Device}
    (unpaired : ¬Device.Paired hmac token (serveAll hmac config calls devices)) :
    handedOut hmac config token calls devices = 0 := by
  induction calls generalizing devices with
  | nil => rfl
  | cons call rest ih =>
      have refused :
          ¬(call.presents token && (call.serve hmac config devices).1.isSome) = true := by
        intro handed
        obtain ⟨presented, told⟩ := Bool.and_eq_true_iff.mp handed
        obtain ⟨device, member, digest, _⟩ := (isSome_serve presented).mp told
        have paired : Device.Paired hmac token devices := ⟨device, member, digest⟩
        exact unpaired (paired_serveAll paired)
      rw [handedOut, if_neg refused, ih unpaired]

end DeviceCall

/-- Pairing makes a device of a token that no device had. -/
theorem Device.of_pair {hmac : Hmac} {uuids : PairUuids} {label : Option String} {now : Timestamp}
    {devices after : Table Device} {paired : PairedDevice}
    (pairs : pair hmac uuids label now devices = .ok (paired, after)) :
    ¬Paired hmac paired.pairingToken devices ∧ Honoured hmac paired.pairingToken after := by
  unfold pair at pairs
  dsimp only at pairs
  split at pairs
  · cases pairs
  · rename_i stored inserted
    cases pairs
    constructor
    · rintro ⟨device, member, same⟩
      have apart := (Table.insert?_eq_some_iff.mp inserted).2 device member
      simp [key, clash, same] at apart
    · exact ⟨_, (Table.mem_insert? inserted).mpr (.inr rfl), rfl, rfl⟩

open DeviceCall in
/-- In a run in which a device is paired, its token hands out the secret at most
once exactly when nobody presents it a second time. -/
theorem exchanged_once_iff {hmac : Hmac} {config : Startup.Config} {uuids : PairUuids}
    {label : Option String} {now : Timestamp} {before after : List DeviceCall}
    {devices : Table Device} {paired : PairedDevice}
    (pairs : Device.pair hmac uuids label now (serveAll hmac config before ∅) =
      .ok (paired, devices)) :
    handedOut hmac config paired.pairingToken (before ++ .pair uuids label now :: after) ∅ ≤ 1 ↔
      after.countP (presents paired.pairingToken) ≤ 1 := by
  obtain ⟨unpaired, honoured⟩ := Device.of_pair pairs
  have pairing : (DeviceCall.pair uuids label now).serve hmac config
      (serveAll hmac config before ∅) = (none, devices) := by
    simp only [serve, pairs]
  rw [handedOut_append, handedOut_of_unpaired unpaired, Nat.zero_add, handedOut, pairing,
    handedOut_of_honoured honoured]
  simp [presents]

theorem exchanged_once_iff_sample : ∃ config,
    Startup.Config.fromEnv (sampleVars (some "auth-secret")) = .ok config ∧
    DeviceCall.handedOut (fun _ _ => default) config "spx_ab"
      [.pair samplePairUuids none 0, .exchange "spx_ab" 1] ∅ ≤ 1 := by
  obtain ⟨config, loaded⟩ : ∃ config,
      Startup.Config.fromEnv (sampleVars (some "auth-secret")) = .ok config := ⟨_, rfl⟩
  obtain ⟨devices, pairs⟩ : ∃ devices, Device.pair (fun _ _ => default) samplePairUuids none 0
      (DeviceCall.serveAll (fun _ _ => default) config [] ∅) =
        .ok (⟨"dev_1", none, "spx_ab"⟩, devices) := ⟨_, rfl⟩
  exact ⟨config, loaded, (exchanged_once_iff pairs).mpr (by decide)⟩

/-- A device pairs and fetches the secret. So does, later, whoever photographed
the code on its screen. -/
def photographed : List DeviceCall :=
  [.pair samplePairUuids none 0, .exchange "spx_ab" 1, .exchange "spx_ab" 2]

theorem photographed_token_honoured : ∃ config,
    Startup.Config.fromEnv (sampleVars (some "auth-secret")) = .ok config ∧
    DeviceCall.handedOut (fun _ _ => default) config "spx_ab" photographed ∅ = 2 := by
  obtain ⟨config, loaded⟩ : ∃ config,
      Startup.Config.fromEnv (sampleVars (some "auth-secret")) = .ok config := ⟨_, rfl⟩
  obtain ⟨devices, pairs⟩ : ∃ devices, Device.pair (fun _ _ => default) samplePairUuids none 0 ∅ =
      .ok (⟨"dev_1", none, "spx_ab"⟩, devices) := ⟨_, rfl⟩
  have pairing : (DeviceCall.pair samplePairUuids none 0).serve (fun _ _ => default) config ∅ =
      (none, devices) := by
    simp only [DeviceCall.serve, pairs]
  refine ⟨config, loaded, ?_⟩
  rw [photographed, DeviceCall.handedOut, pairing,
    DeviceCall.handedOut_of_honoured (Device.of_pair pairs).2]
  simp [DeviceCall.presents]

end SpritexPay
