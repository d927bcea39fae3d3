import Mathlib.Data.Fintype.EquivFin
import SpritexPay.AccessProperties

/-! The lifetime of the console's tokens. A token is taken until its expiry, and
whoever has only seen tokens makes no other that outlives them, unless by
guessing the signature of a text that was never signed. -/

set_option autoImplicit false

namespace SpritexPay.Auth

open Keyed

/-- The expiries that the tokens issued at these times are signed for. -/
def signedTexts (issuedAt : List Nat) : List String :=
  issuedAt.map fun issued => toString (issued + tokenTtlSecs)

def signedBodies (issuedAt : List Nat) : List ByteArray :=
  (signedTexts issuedAt).map String.toUTF8

/-- What is seen by who has seen the tokens issued at these times. -/
def seenTokens (authSecret : String) (issuedAt : List Nat) (hmac : Hmac) : List ByteArray :=
  issuedAt.map fun issued => (issueToken hmac authSecret issued).toUTF8

section Seen

variable {hmac : Hmac} {authSecret : String} {issuedAt : List Nat} {body : ByteArray}

theorem seenTokens_answering (unsigned : body ∉ signedBodies issuedAt) (digest : Digest) :
    seenTokens authSecret issuedAt (answering authSecret.toUTF8 body digest hmac) =
      seenTokens authSecret issuedAt hmac := by
  refine List.map_congr_left fun issued member => ?_
  have apart : (toString (issued + tokenTtlSecs)).toUTF8 ≠ body := by
    rintro rfl
    exact unsigned (List.mem_map_of_mem (List.mem_map_of_mem member))
  rw [issueToken, issueToken, token, token, Crypto.sign, Crypto.sign, answering_of_ne apart]

theorem mem_signedBodies {text : String} :
    text.toUTF8 ∈ signedBodies issuedAt ↔ text ∈ signedTexts issuedAt := by
  rw [signedBodies, List.mem_map]
  constructor
  · rintro ⟨signed, member, same⟩
    rw [String.toUTF8_eq_toByteArray, String.toUTF8_eq_toByteArray] at same
    exact String.toByteArray_inj.mp same ▸ member
  · exact fun member => ⟨text, member, rfl⟩

theorem exists_unsigned (issuedAt : List Nat) : ∃ body, body ∉ signedBodies issuedAt := by
  obtain ⟨text, unsigned⟩ := Infinite.exists_notMem_finset (signedTexts issuedAt).toFinset
  exact ⟨text.toUTF8, fun signed => unsigned (List.mem_toFinset.mpr (mem_signedBodies.mp signed))⟩

end Seen

/-- What a token that is taken consists of. -/
theorem parts_of_verifyToken {hmac : Hmac} {authSecret token : String} {now : Nat}
    (verified : verifyToken hmac authSecret token now = true) :
    ∃ expiryText sig expiry, splitOnce '.' token = some (expiryText, sig) ∧
      Hex.decode sig = some (hmac authSecret.toUTF8 expiryText.toUTF8).toList ∧
      parseUnsigned (2 ^ 64) expiryText = some expiry ∧ now < expiry := by
  obtain ⟨expiryText, sig, split, decoded⟩ := signed_of_verifyToken verified
  have signed := Crypto.verify_iff.mpr decoded
  rw [verifyToken, split] at verified
  simp only [signed] at verified
  cases expires : parseUnsigned (2 ^ 64) expiryText with
  | none =>
      rw [expires] at verified
      cases verified
  | some expiry =>
      rw [expires] at verified
      exact ⟨expiryText, sig, expiry, split, decoded, expires, of_decide_eq_true verified⟩

/-- One digest at most is written in a text. -/
theorem exists_lucky (sig : String) :
    ∃ lucky : Digest, ∀ digest, digest ≠ lucky → Hex.decode sig ≠ some digest.toList := by
  by_cases written : ∃ digest : Digest, Hex.decode sig = some digest.toList
  · obtain ⟨lucky, decoded⟩ := written
    refine ⟨lucky, fun digest other same => other ?_⟩
    exact Vector.toList_inj.mp (Option.some.inj (same.symm.trans decoded))
  · exact ⟨default, fun digest _ same => written ⟨digest, same⟩⟩

/-- Once every issued token has expired, a text is taken for one digest of some
unsigned body at most. Signed texts are refused for their expiry. -/
theorem refused_of_expired (hmac : Hmac) (authSecret : String) {issuedAt : List Nat} {now : Nat}
    (expired : ∀ issued ∈ issuedAt, issued + tokenTtlSecs ≤ now) (text : String) :
    ∃ body, body ∉ signedBodies issuedAt ∧ ∃ lucky, ∀ digest, digest ≠ lucky →
      ¬verifyToken (answering authSecret.toUTF8 body digest hmac) authSecret text now = true := by
  cases split : splitOnce '.' text with
  | none =>
      obtain ⟨body, unsigned⟩ := exists_unsigned issuedAt
      refine ⟨body, unsigned, default, fun digest _ verified => ?_⟩
      obtain ⟨_, _, _, parts, _⟩ := parts_of_verifyToken verified
      cases split.symm.trans parts
  | some parts =>
      obtain ⟨expiryText, sig⟩ := parts
      by_cases signed : expiryText ∈ signedTexts issuedAt
      · obtain ⟨body, unsigned⟩ := exists_unsigned issuedAt
        refine ⟨body, unsigned, default, fun digest _ verified => ?_⟩
        obtain ⟨_, _, expiry, parts, _, expires, early⟩ := parts_of_verifyToken verified
        cases split.symm.trans parts
        obtain ⟨issued, member, rfl⟩ := List.mem_map.mp signed
        rw [parseUnsigned_toString_eq] at expires
        split at expires
        · cases expires
          exact absurd early (not_lt.mpr (expired issued member))
        · cases expires
      · obtain ⟨lucky, unread⟩ := exists_lucky sig
        refine ⟨expiryText.toUTF8, mt mem_signedBodies.mp signed, lucky, ?_⟩
        intro digest other verified
        obtain ⟨_, _, _, parts, decoded, _⟩ := parts_of_verifyToken verified
        cases split.symm.trans parts
        rw [answering_self] at decoded
        exact unread digest other decoded

/-- A token is taken exactly before its expiry. What is made of issued tokens
alone is only taken before the expiry of one of them, or it has guessed one of
the 2^256 signatures of a text that was never signed. -/
theorem tokens_valid_and_unforgeable (authSecret : String) :
    (∀ (hmac : Hmac) (issued now : Nat), issued + tokenTtlSecs < 2 ^ 64 →
      (verifyToken hmac authSecret (issueToken hmac authSecret issued) now = true ↔
        now < issued + tokenTtlSecs)) ∧
    ∀ (hmac : Hmac) (issuedAt : List Nat) (strategy : Strategy ByteArray Digest String) (now : Nat),
      authSecret.toUTF8 ∉
        keysAsked hmac strategy.steps (seenTokens authSecret issuedAt hmac) →
      (∃ issued ∈ issuedAt, now < issued + tokenTtlSecs) ∨
        Guesses authSecret.toUTF8 (signedBodies issuedAt) (seenTokens authSecret issuedAt)
          (fun hmac token => verifyToken hmac authSecret token now = true) strategy hmac := by
  refine ⟨fun _ _ now small => verifyToken_issueToken small now, ?_⟩
  intro hmac issuedAt strategy now unasked
  by_cases valid : ∃ issued ∈ issuedAt, now < issued + tokenTtlSecs
  · exact .inl valid
  · have expired : ∀ issued ∈ issuedAt, issued + tokenTtlSecs ≤ now := by
      simpa using valid
    obtain ⟨body, unsigned, lucky, refused⟩ := refused_of_expired hmac authSecret expired
      (strategy.run hmac (seenTokens authSecret issuedAt hmac))
    exact .inr (guesses_of_refused (seenTokens_answering unsigned) unasked unsigned refused)

/-- The newest token is sent again. -/
def replayer : Strategy ByteArray Digest String where
  steps := []
  result := fun seen => (String.fromUTF8? (seen.headD ByteArray.empty)).getD ""

theorem tokens_valid_and_unforgeable_sample :
    verifyToken (fun _ _ => default) "auth-secret"
      (issueToken (fun _ _ => default) "auth-secret" 0) 5 = true ∧
    Guesses "auth-secret".toUTF8 (signedBodies [0]) (seenTokens "auth-secret" [0])
      (fun hmac token => verifyToken hmac "auth-secret" token tokenTtlSecs = true) replayer
      fun _ _ => default := by
  obtain ⟨lasts, unforgeable⟩ := tokens_valid_and_unforgeable "auth-secret"
  refine ⟨(lasts (fun _ _ => default) 0 5 (by decide)).mpr (by decide), ?_⟩
  have unasked : "auth-secret".toUTF8 ∉ keysAsked (fun _ _ => default) replayer.steps
      (seenTokens "auth-secret" [0] fun _ _ => default) := by simp [replayer, keysAsked]
  refine (unforgeable _ [0] replayer tokenTtlSecs unasked).resolve_left ?_
  simp

end SpritexPay.Auth
