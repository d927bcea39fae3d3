import SpritexPay.Keyed.Computation

/-! Signatures of the source's `crypto` module, over the bytes of keys and bodies
and in the hexadecimal text that is sent. HMAC-SHA256 itself is a parameter. -/

set_option autoImplicit false

namespace SpritexPay

open Keyed

abbrev Digest := Vector UInt8 32

abbrev Hmac := Mac ByteArray Digest

namespace Hex

def digit (value : Nat) : Char :=
  if value < 10 then Char.ofNat (48 + value) else Char.ofNat (87 + value)

/-- The value of a hexadecimal digit in either case. -/
def value (char : Char) : Option Nat :=
  if '0' ≤ char ∧ char ≤ '9' then some (char.toNat - 48)
  else if 'a' ≤ char ∧ char ≤ 'f' then some (char.toNat - 87)
  else if 'A' ≤ char ∧ char ≤ 'F' then some (char.toNat - 55)
  else none

def chars (bytes : List UInt8) : List Char :=
  bytes.flatMap fun byte => [digit (byte.toNat / 16), digit (byte.toNat % 16)]

/-- `hex::encode` -/
def encode (bytes : List UInt8) : String := String.ofList (chars bytes)

def bytes : List Char → Option (List UInt8)
  | [] => some []
  | [_] => none
  | high :: low :: rest => do
      let high ← value high
      let low ← value low
      return UInt8.ofNat (16 * high + low) :: (← bytes rest)

/-- `hex::decode` -/
def decode (text : String) : Option (List UInt8) := bytes text.toList

theorem value_digit {number : Nat} (small : number < 16) : value (digit number) = some number := by
  have all : ∀ number : Fin 16, value (digit number) = some number.val := by decide
  exact all ⟨number, small⟩

theorem bytes_chars (encoded : List UInt8) : bytes (chars encoded) = some encoded := by
  induction encoded with
  | nil => rfl
  | cons byte rest ih =>
      have bound := byte.toNat_lt
      have high : byte.toNat / 16 < 16 := by omega
      have low : byte.toNat % 16 < 16 := Nat.mod_lt _ (by decide)
      have whole : UInt8.ofNat (16 * (byte.toNat / 16) + byte.toNat % 16) = byte := by
        rw [Nat.div_add_mod]
        exact UInt8.ofNat_toNat
      rw [chars] at ih
      simp only [chars, List.flatMap_cons, List.cons_append, List.nil_append, bytes,
        value_digit high, value_digit low, ih]
      exact congrArg (fun byte => some (byte :: rest)) whole

theorem decode_encode (encoded : List UInt8) : decode (encode encoded) = some encoded := by
  rw [decode, encode, String.toList_ofList]
  exact bytes_chars encoded

end Hex

namespace Crypto

variable (hmac : Hmac) (secret body : ByteArray)

def sign : String := Hex.encode (hmac secret body).toList

def verify (signatureHex : String) : Bool :=
  match Hex.decode signatureHex with
  | none => false
  | some signature => signature == (hmac secret body).toList

variable {hmac secret body} in
theorem verify_iff {signatureHex : String} : verify hmac secret body signatureHex = true ↔
    Hex.decode signatureHex = some (hmac secret body).toList := by
  unfold verify
  split
  · rename_i undecoded
    simp [undecoded]
  · rename_i signature decoded
    simp [decoded]

theorem verify_sign : verify hmac secret body (sign hmac secret body) = true :=
  verify_iff.mpr (Hex.decode_encode _)

end Crypto

end SpritexPay
