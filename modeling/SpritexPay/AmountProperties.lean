import SpritexPay.ConversionProperties
import SpritexPay.Hundredths
import SpritexPay.IntroductionProperties

/-! Which parsed payments are of a real amount. No parser looks at the amount in
hundredths it returns: the patterns accept zero, and the check of a model's
amount stands before the conversion. -/

set_option autoImplicit false

namespace SpritexPay

open Binary64 Pattern

/-- A payment that has an id and credits something. -/
structure RealPayment (parsed : ParsedTxn) : Prop where
  named : parsed.txnId ≠ ""
  credited : 1 ≤ parsed.amountMinor

def Gateway.txid : Gateway → Pattern
  | .bkash => bkashTxid
  | .nagad => nagadTxid

def Gateway.amount (crates : Crates) : Gateway → Pattern
  | .bkash => bkashAmount crates
  | .nagad => nagadAmount crates

def Gateway.sender (crates : Crates) : Gateway → Pattern
  | .bkash => bkashSender crates
  | .nagad => nagadSender crates

/-- The message names a transaction and this amount of taka to the parser. -/
def Gateway.Writes (crates : Crates) (gateway : Gateway) (body : String) (amount : Rat) : Prop :=
  ∃ txnId raw, gateway.txid.captures body = some txnId ∧
    (gateway.amount crates).captures body = some raw ∧
    decimal (cleaned raw.toList) = some amount

/-- The reply names a transaction and this positive amount of taka. -/
def Extracts (crates : Crates) (content : String) (amount : Rat) : Prop :=
  ∃ object extraction txnId representable, jsonSlice content = .ok (some object) ∧
    crates.extractionFromStr object = some extraction ∧ extraction.txnId = some txnId ∧
    trim txnId ≠ "" ∧ extraction.amountBdt = some (.finite amount representable) ∧ 0 < amount

section Messages

variable {crates : Crates} {gateway : Gateway} {body : String} {parsed : ParsedTxn} {amount : Rat}

theorem Gateway.parseSms_eq :
    gateway.parseSms crates body =
      parseWith gateway gateway.txid (gateway.amount crates) (gateway.sender crates) body := by
  cases gateway <;> rfl

/-- A captured transaction id is not empty. -/
theorem Gateway.captured_txid {txnId : String}
    (captured : gateway.txid.captures body = some txnId) : txnId ≠ "" := by
  have grouped : ∀ found, gateway.txid.search body.toList = some found →
      ∃ first more, found = some (first :: more) := by
    cases gateway with
    | bkash => exact fun _ found => exists_of_search_txid found
    | nagad => exact fun _ found => exists_of_search_txid found
  cases found : gateway.txid.search body.toList with
  | none =>
      rw [captures, found] at captured
      cases captured
  | some group =>
      obtain ⟨first, more, rfl⟩ := grouped group found
      rw [captures, found] at captured
      cases captured
      intro empty
      have letters := congrArg String.toList empty
      rw [String.toList_ofList] at letters
      cases letters

theorem Gateway.Writes.accepted (written : gateway.Writes crates body amount) :
    ∃ parsed, gateway.parseSms crates body = .ok parsed ∧
      parsed.amountMinor = ((F64.ofRat amount).scale 100).round.toI64 := by
  obtain ⟨txnId, raw, named, captured, denoted⟩ := written
  rw [Gateway.parseSms_eq]
  simp only [parseWith, named, captured, amountToMinor_eq, denoted]
  exact ⟨_, rfl, rfl⟩

theorem Gateway.writes_of_parsed (accepted : gateway.parseSms crates body = .ok parsed) :
    parsed.txnId ≠ "" ∧ ∃ amount, gateway.Writes crates body amount ∧
      parsed.amountMinor = ((F64.ofRat amount).scale 100).round.toI64 := by
  rw [Gateway.parseSms_eq] at accepted
  simp only [parseWith, amountToMinor_eq] at accepted
  split at accepted
  · cases accepted
  · rename_i txnId named
    split at accepted
    · cases accepted
    · rename_i raw captured
      cases denoted : decimal (cleaned raw.toList) with
      | none =>
          simp only [denoted] at accepted
          cases accepted
      | some amount =>
          simp only [denoted] at accepted
          cases accepted
          exact ⟨Gateway.captured_txid named, amount, ⟨txnId, raw, named, captured, denoted⟩, rfl⟩

theorem Gateway.Writes.nonneg (written : gateway.Writes crates body amount) : 0 ≤ amount := by
  obtain ⟨_, _, _, _, denoted⟩ := written
  exact decimal_nonneg denoted

theorem one_le_iff {minor : Int64} : 1 ≤ minor ↔ 0 < minor := by
  rw [Int64.le_iff_toInt_le, Int64.lt_iff_toInt_lt]
  rfl

theorem Gateway.parsed_real_iff :
    (∀ parsed, gateway.parseSms crates body = .ok parsed → RealPayment parsed) ↔
      ∀ amount, gateway.Writes crates body amount → halfHundredth < amount := by
  constructor
  · intro real amount written
    obtain ⟨parsed, accepted, minor⟩ := written.accepted
    have credited := one_le_iff.mp (real parsed accepted).credited
    rw [minor] at credited
    exact (F64.minor_pos_iff written.nonneg).mp credited
  · intro large parsed accepted
    obtain ⟨named, amount, written, minor⟩ := Gateway.writes_of_parsed accepted
    refine ⟨named, one_le_iff.mpr ?_⟩
    rw [minor]
    exact (F64.minor_pos_iff written.nonneg).mpr (large amount written)

end Messages

section Replies

variable {crates : Crates} {gateway : Gateway} {content : String} {parsed : ParsedTxn}
  {amount : Rat}

theorem Extracts.accepted (extracted : Extracts crates content amount) (gateway : Gateway) :
    ∃ parsed, parseExtraction crates gateway content = .ok (some parsed) ∧
      parsed.amountMinor = ((F64.ofRat amount).scale 100).round.toI64 := by
  obtain ⟨object, extraction, txnId, representable, sliced, read, named, filled, paid, positive⟩ :=
    extracted
  have present : (trim txnId).isEmpty = false := by
    rw [Bool.eq_false_iff, ne_eq, String.isEmpty_iff]
    exact filled
  have finite : F64.isFinite (.finite amount representable) = true := rfl
  have above : F64.nonPositive (.finite amount representable) = false :=
    decide_eq_false (not_le.mpr positive)
  simp only [parseExtraction, sliced, bind, Except.bind, read, Option.bind_some, acceptExtraction,
    named, present, paid, finite, above]
  refine ⟨_, rfl, ?_⟩
  rw [F64.ofRat_of_representable representable]

theorem extracts_of_accepted
    (accepted : parseExtraction crates gateway content = .ok (some parsed)) :
    parsed.txnId ≠ "" ∧ ∃ amount, Extracts crates content amount ∧
      parsed.amountMinor = ((F64.ofRat amount).scale 100).round.toI64 := by
  cases sliced : jsonSlice content with
  | error panic =>
      simp only [parseExtraction, sliced, bind, Except.bind] at accepted
      cases accepted
  | ok found =>
      cases found with
      | none =>
          simp only [parseExtraction, sliced, bind, Except.bind] at accepted
          cases accepted
      | some object =>
          simp only [parseExtraction, sliced, bind, Except.bind] at accepted
          obtain ⟨extraction, read, taken⟩ := Option.bind_eq_some_iff.mp (Except.ok.inj accepted)
          obtain ⟨txnId, named, taken⟩ := Option.bind_eq_some_iff.mp taken
          by_cases empty : (trim txnId).isEmpty = true
          · simp only [if_pos empty] at taken
            cases taken
          simp only [if_neg empty] at taken
          obtain ⟨paid, stated, taken⟩ := Option.bind_eq_some_iff.mp taken
          have filled : trim txnId ≠ "" := fun same => empty (String.isEmpty_iff.mpr same)
          cases paid with
          | nan => cases taken
          | infinity negative => cases taken
          | finite amount representable =>
              by_cases below : amount ≤ 0
              · have refused : F64.nonPositive (.finite amount representable) = true :=
                  decide_eq_true below
                simp only [refused, Bool.or_true] at taken
                cases taken
              · have kept : F64.nonPositive (.finite amount representable) = false :=
                  decide_eq_false below
                have finite : F64.isFinite (.finite amount representable) = true := rfl
                simp only [kept, finite] at taken
                cases taken
                refine ⟨filled, amount, ⟨object, extraction, txnId, representable, sliced, read,
                  named, filled, stated, not_le.mp below⟩, ?_⟩
                rw [F64.ofRat_of_representable representable]

theorem Extracts.positive (extracted : Extracts crates content amount) : 0 < amount := by
  obtain ⟨_, _, _, _, _, _, _, _, _, positive⟩ := extracted
  exact positive

theorem extracted_real_iff :
    (∀ parsed, parseExtraction crates gateway content = .ok (some parsed) → RealPayment parsed) ↔
      ∀ amount, Extracts crates content amount → halfHundredth < amount := by
  constructor
  · intro real amount extracted
    obtain ⟨parsed, accepted, minor⟩ := extracted.accepted gateway
    have credited := one_le_iff.mp (real parsed accepted).credited
    rw [minor] at credited
    exact (F64.minor_pos_iff extracted.positive.le).mp credited
  · intro large parsed accepted
    obtain ⟨named, amount, extracted, minor⟩ := extracts_of_accepted accepted
    refine ⟨named, one_le_iff.mpr ?_⟩
    rw [minor]
    exact (F64.minor_pos_iff extracted.positive.le).mpr (large amount extracted)

end Replies

/-- Whatever path a payment was parsed on, it is real exactly if the amount that
its text names is above half a hundredth. -/
theorem payments_real_iff (crates : Crates) (gateway : Gateway) :
    (∀ body, (∀ parsed, gateway.parseSms crates body = .ok parsed → RealPayment parsed) ↔
      ∀ amount, gateway.Writes crates body amount → halfHundredth < amount) ∧
    ∀ content,
      (∀ parsed, parseExtraction crates gateway content = .ok (some parsed) → RealPayment parsed) ↔
        ∀ amount, Extracts crates content amount → halfHundredth < amount :=
  ⟨fun _ => Gateway.parsed_real_iff, fun _ => extracted_real_iff⟩

/-- A payment of nothing is parsed as one. -/
theorem nothing_parsed :
    ∃ parsed, Gateway.bkash.parseSms sampleCrates "received Tk 0.00 TrxID ABC" = .ok parsed ∧
      parsed.txnId = "ABC" ∧ parsed.amountMinor = 0 := by
  have named : bkashTxid.captures "received Tk 0.00 TrxID ABC" = some "ABC" := by decide +kernel
  have captured : (bkashAmount sampleCrates).captures "received Tk 0.00 TrxID ABC" =
      some "0.00" := by decide +kernel
  have denoted : decimal (cleaned "0.00".toList) = some 0 := by decide +kernel
  have zero : ((F64.ofRat 0).scale 100).round.toI64 = 0 := by
    have representable : Representable 0 :=
      ⟨0, 0, by norm_num, by norm_num, by norm_num, by norm_num⟩
    rw [F64.ofRat_of_representable representable, F64.scale, zero_mul]
    exact F64.round_toI64_of_lt le_rfl (by rw [rounded_zero]; norm_num)
  simp only [Gateway.parseSms, parseWith, named, captured, amountToMinor_eq, denoted, zero]
  exact ⟨_, rfl, rfl, rfl⟩

end SpritexPay
