import SpritexPay.Api
import SpritexPay.Merchant

/-! What a merchant API key may do. Over any history the active rows are the keys
that were returned and not revoked since, each with the scopes of its request. -/

set_option autoImplicit false

namespace SpritexPay.Merchant

open Relational

/-- The call revokes the key. -/
def Call.Revokes (id : String) : Call → Prop
  | .revoked other _ => other = id
  | _ => False

/-- A request that lists no scope gets both. -/
def Grants (req : CreateApiKey) (scope : String) : Prop :=
  (∃ scopes, req.scopes = some scopes ∧ scope ∈ scopes) ∨
    (req.scopes = none ∨ req.scopes = some []) ∧
      (scope = "create_payment" ∨ scope = "verify_payment")

/-- The key was returned for the request, and no later call has revoked it. -/
def Outstanding (calls : List Call) (req : CreateApiKey) (key : NewApiKey) : Prop :=
  ∃ later earlier, calls = later ++ .created req (.ok key) :: earlier ∧
    ∀ call ∈ later, ¬call.Revokes key.id

theorem mem_grantedScopes_iff {req : CreateApiKey} {scope : String} :
    scope ∈ grantedScopes req ↔ Grants req scope := by
  unfold grantedScopes Grants
  match req.scopes with
  | none => simp [defaultScopes]
  | some [] => simp [defaultScopes, Option.filter]
  | some (first :: rest) => simp [Option.filter]

section Outstanding

variable {calls : List Call} {call : Call} {req : CreateApiKey} {key : NewApiKey}

theorem outstanding_cons : Outstanding (call :: calls) req key ↔
    call = .created req (.ok key) ∨ Outstanding calls req key ∧ ¬call.Revokes key.id := by
  constructor
  · rintro ⟨later, earlier, split, kept⟩
    cases later with
    | nil => exact .inl (List.cons.inj split).1
    | cons last later =>
        obtain ⟨rfl, rfl⟩ := List.cons.inj split
        exact .inr ⟨⟨later, earlier, rfl, fun other member => kept other (.tail _ member)⟩,
          kept _ List.mem_cons_self⟩
  · rintro (rfl | ⟨⟨later, earlier, rfl, kept⟩, unrevoked⟩)
    · exact ⟨[], calls, rfl, nofun⟩
    · refine ⟨call :: later, earlier, rfl, fun other member => ?_⟩
      rcases List.mem_cons.mp member with rfl | old
      · exact unrevoked
      · exact kept other old

end Outstanding

variable {crates : Crates} {json : ScopesJson}

/-- The row is the one of the key that was returned for the request. -/
structure Stores (crates : Crates) (json : ScopesJson) (row : ApiKey) (req : CreateApiKey)
    (key : NewApiKey) : Prop where
  id : row.id = key.id
  digest : row.keySha256 = keyDigest crates key.apiKey
  scopes : row.scopes = (json.toString (grantedScopes req)).getD "[]"

/-- The active rows are those of the outstanding keys. -/
structure Tracks (crates : Crates) (json : ScopesJson) (calls : List Call)
    (keys : Table ApiKey) : Prop where
  active : ∀ row ∈ keys, row.status = .active →
    ∃ req key, Outstanding calls req key ∧ Stores crates json row req key
  outstanding : ∀ req key, Outstanding calls req key →
    ∃ row ∈ keys, row.status = .active ∧ Stores crates json row req key

section Updates

variable {id : String} {now : Timestamp} {keys : Table ApiKey} {row : ApiKey}

theorem mem_stampUsed : row ∈ stampUsed id now keys ↔
    ∃ old ∈ keys, (if old.id == id then { old with lastUsedAt := some now } else old) = row :=
  Table.mem_update _

theorem mem_setRevoked : row ∈ setRevoked id keys ↔
    ∃ old ∈ keys, (if old.id == id then { old with status := .revoked } else old) = row :=
  Table.mem_update _

theorem eq_of_keySha256 {left right : ApiKey} (leftMember : left ∈ keys)
    (rightMember : right ∈ keys) (same : left.keySha256 = right.keySha256) : left = right :=
  Table.eq_of_clash leftMember rightMember (by simp [key, clash, same])

end Updates

section Steps

variable {calls : List Call} {before after : Table ApiKey}

theorem Tracks.start : Tracks crates json [] ∅ where
  active := by simp
  outstanding := by simp [Outstanding]

/-- A call that returns no key and revokes none leaves the outstanding keys. -/
theorem outstanding_cons_of_other {call : Call} {req : CreateApiKey} {key : NewApiKey}
    (other : call ≠ .created req (.ok key)) (unrevoked : ¬call.Revokes key.id) :
    Outstanding (call :: calls) req key ↔ Outstanding calls req key := by
  rw [outstanding_cons, or_iff_right other, and_iff_left unrevoked]

theorem Tracks.create {uuids : ApiKeyUuids} {req : CreateApiKey} {now : Timestamp}
    {key : NewApiKey} (tracks : Tracks crates json calls before)
    (made : createApiKey crates json uuids req now before = .ok (key, after)) :
    Tracks crates json (.created req (.ok key) :: calls) after := by
  unfold createApiKey at made
  dsimp only at made
  split at made
  · cases made
  · rename_i inserted
    cases made
    constructor
    · intro row member status
      rcases (Table.mem_insert? inserted).mp member with old | rfl
      · obtain ⟨oldReq, oldKey, live, stores⟩ := tracks.active row old status
        exact ⟨oldReq, oldKey, outstanding_cons.mpr (.inr ⟨live, id⟩), stores⟩
      · exact ⟨req, _, outstanding_cons.mpr (.inl rfl), rfl, rfl, rfl⟩
    · intro liveReq liveKey live
      rcases outstanding_cons.mp live with same | ⟨old, _⟩
      · cases same
        exact ⟨_, (Table.mem_insert? inserted).mpr (.inr rfl), rfl, rfl, rfl, rfl⟩
      · obtain ⟨row, member, status, stores⟩ := tracks.outstanding _ _ old
        exact ⟨row, (Table.mem_insert? inserted).mpr (.inl member), status, stores⟩

theorem Tracks.refuse {req : CreateApiKey} {error : SqlError}
    (tracks : Tracks crates json calls before) :
    Tracks crates json (.created req (.error error) :: calls) before where
  active row member status := by
    obtain ⟨liveReq, liveKey, live, stores⟩ := tracks.active row member status
    exact ⟨liveReq, liveKey, (outstanding_cons_of_other (by simp) id).mpr live, stores⟩
  outstanding liveReq liveKey live :=
    tracks.outstanding _ _ ((outstanding_cons_of_other (by simp) id).mp live)

theorem Tracks.verify {raw requiredScope : String} {outcome : Option KeyContext} {now : Timestamp}
    (tracks : Tracks crates json calls before) :
    Tracks crates json (.verified raw requiredScope outcome :: calls)
      (verifyApiKey crates json raw requiredScope now before).2 := by
  have same : Tracks crates json (.verified raw requiredScope outcome :: calls) before := by
    constructor
    · intro row member status
      obtain ⟨req, key, live, stores⟩ := tracks.active row member status
      exact ⟨req, key, (outstanding_cons_of_other (by simp) id).mpr live, stores⟩
    · intro req key live
      exact tracks.outstanding _ _ ((outstanding_cons_of_other (by simp) id).mp live)
  unfold verifyApiKey
  split
  · exact same
  · dsimp only
    split
    · exact same
    · constructor
      · intro row member status
        obtain ⟨old, oldMember, rfl⟩ := mem_stampUsed.mp member
        obtain ⟨req, key, live, stores⟩ :=
          same.active old oldMember (by split at status <;> exact status)
        refine ⟨req, key, live, ?_⟩
        split <;> exact ⟨stores.id, stores.digest, stores.scopes⟩
      · intro req key live
        obtain ⟨row, member, status, stores⟩ := same.outstanding req key live
        refine ⟨_, mem_stampUsed.mpr ⟨row, member, rfl⟩, ?_⟩
        split <;> exact ⟨status, stores.id, stores.digest, stores.scopes⟩

theorem Tracks.revoke {id : String} {found : Bool} (tracks : Tracks crates json calls before) :
    Tracks crates json (.revoked id found :: calls) (revokeApiKey id before).2 := by
  constructor
  · intro row member status
    obtain ⟨old, oldMember, rfl⟩ := mem_setRevoked.mp member
    split at status
    · cases status
    · rename_i other
      obtain ⟨req, key, live, stores⟩ := tracks.active old oldMember status
      refine ⟨req, key, outstanding_cons.mpr (.inr ⟨live, fun revoked => other ?_⟩), ?_⟩
      · exact beq_iff_eq.mpr (stores.id.trans revoked.symm)
      · rw [if_neg other]
        exact stores
  · intro req key live
    rcases outstanding_cons.mp live with same | ⟨old, unrevoked⟩
    · cases same
    · obtain ⟨row, member, status, stores⟩ := tracks.outstanding req key old
      have other : ¬(row.id == id) = true := fun same =>
        unrevoked ((beq_iff_eq.mp same).symm.trans stores.id)
      refine ⟨row, mem_setRevoked.mpr ⟨row, member, if_neg other⟩, status, stores⟩

end Steps

theorem tracks_of_history {calls : List Call} {keys : Table ApiKey}
    (history : History crates json calls keys) : Tracks crates json calls keys := by
  induction history with
  | start => exact .start
  | create _ _ _ made ih => exact ih.create made
  | refuse _ _ _ _ ih => exact ih.refuse
  | verify _ _ _ _ ih => exact ih.verify
  | revoke _ _ ih => exact ih.revoke

/-- A key passes for a scope exactly when it was returned, for a request that
grants the scope, and has not been revoked since. -/
theorem verifies_iff {calls : List Call} {keys : Table ApiKey} {raw scope : String}
    {now : Timestamp} (history : History crates json calls keys)
    (injective : Function.Injective (keyDigest crates))
    (encodes : ∀ req outcome, .created req outcome ∈ calls → json.RoundTrips (grantedScopes req)) :
    (verifyApiKey crates json raw scope now keys).1.isSome = true ↔
      ∃ req key, Outstanding calls req key ∧ key.apiKey = raw ∧ Grants req scope := by
  have tracks := tracks_of_history history
  have reads : ∀ {row : ApiKey} {req : CreateApiKey} {key : NewApiKey}, Outstanding calls req key →
      Stores crates json row req key → parseScopes json row.scopes = grantedScopes req := by
    rintro row req key ⟨later, earlier, rfl, _⟩ stores
    obtain ⟨text, written, read⟩ := encodes req (.ok key) (by simp)
    simp [parseScopes, stores.scopes, written, read]
  unfold verifyApiKey
  split
  · rename_i missing
    refine iff_of_false nofun ?_
    rintro ⟨req, key, live, rfl, _⟩
    obtain ⟨row, member, status, stores⟩ := tracks.outstanding req key live
    have refused := List.find?_eq_none.mp missing row member
    simp [stores.digest, status] at refused
  · rename_i found found?
    obtain ⟨member, chosen⟩ := Table.mem_of_find?_eq_some found?
    simp only [Bool.and_eq_true, beq_iff_eq] at chosen
    obtain ⟨req, key, live, stores⟩ := tracks.active found member chosen.2
    have own : key.apiKey = raw := injective (stores.digest.symm.trans chosen.1)
    have holder : (∃ req key, Outstanding calls req key ∧ key.apiKey = raw ∧ Grants req scope) ↔
        scope ∈ grantedScopes req := by
      constructor
      · rintro ⟨otherReq, otherKey, otherLive, same, grants⟩
        obtain ⟨row, rowMember, _, otherStores⟩ := tracks.outstanding _ _ otherLive
        obtain rfl := eq_of_keySha256 rowMember member
          (by rw [otherStores.digest, stores.digest, same, own])
        rw [← reads live stores, reads otherLive otherStores]
        exact mem_grantedScopes_iff.mpr grants
      · intro granted
        exact ⟨req, key, live, own, mem_grantedScopes_iff.mp granted⟩
    rw [holder]
    dsimp only
    rw [reads live stores]
    split
    · rename_i lacking
      have absent : ∀ other ∈ grantedScopes req, ¬other = scope := by simpa using lacking
      exact iff_of_false nofun fun present => absent scope present rfl
    · rename_i holding
      have present : scope ∈ grantedScopes req := by simpa using holding
      exact iff_of_true rfl present

/-! ## A key for one scope, and one that lists none -/

def sampleScopes : ScopesJson where
  toString scopes :=
    some ("[" ++ ",".intercalate (scopes.map fun scope => "\"" ++ scope ++ "\"") ++ "]")
  fromStr text :=
    if text = "[\"create_payment\"]" then some ["create_payment"]
    else if text = "[\"create_payment\",\"verify_payment\"]" then some defaultScopes
    else none

def sampleKeyUuids : ApiKeyUuids := ⟨"1", "a", "b"⟩

theorem keyDigest_injective_sample : Function.Injective (keyDigest sampleCrates) := by
  intro left right same
  have texts := congrArg String.toList same
  simpa [keyDigest, Crates.sign, sampleCrates, String.toList_append, String.toList_inj] using texts

theorem verifies_iff_sample : ∃ keys,
    createApiKey sampleCrates sampleScopes sampleKeyUuids ⟨none, some ["create_payment"]⟩ 0 ∅ =
      .ok (⟨"ak_1", none, ["create_payment"], "spk_ab"⟩, keys) ∧
    (verifyApiKey sampleCrates sampleScopes "spk_ab" "create_payment" 1 keys).1.isSome = true := by
  obtain ⟨keys, made⟩ : ∃ keys, createApiKey sampleCrates sampleScopes sampleKeyUuids
      ⟨none, some ["create_payment"]⟩ 0 ∅ =
        .ok (⟨"ak_1", none, ["create_payment"], "spk_ab"⟩, keys) :=
    ⟨_, rfl⟩
  refine ⟨keys, made,
    (verifies_iff (History.start.create _ 0 made) keyDigest_injective_sample ?_).mpr
      ⟨_, _, outstanding_cons.mpr (.inl rfl), rfl, .inl ⟨_, rfl, by decide⟩⟩⟩
  intro req outcome member
  cases List.mem_singleton.mp member
  exact ⟨_, rfl, by decide +kernel⟩

/-- A key whose request lists no scope passes for both. -/
theorem empty_scopes_grant_both : ∃ calls keys, History sampleCrates sampleScopes calls keys ∧
    (verifyApiKey sampleCrates sampleScopes "spk_ab" "create_payment" 1 keys).1.isSome = true ∧
    ∀ req outcome, Call.created req outcome ∈ calls → req.scopes = some [] := by
  obtain ⟨keys, made⟩ : ∃ keys, createApiKey sampleCrates sampleScopes sampleKeyUuids
      ⟨none, some []⟩ 0 ∅ = .ok (⟨"ak_1", none, defaultScopes, "spk_ab"⟩, keys) := ⟨_, rfl⟩
  refine ⟨_, keys, History.start.create _ 0 made, ?_, fun req outcome member => ?_⟩
  · cases made
    decide +kernel
  · cases List.mem_singleton.mp member
    rfl

end SpritexPay.Merchant
