import SpritexPay.Gateway
import SpritexPay.PatternProperties
import SpritexPay.Rounding

/-! The confirmation message of bKash is read back: whatever follows it, the
patterns capture the amount, the sender and the transaction id it was written
from. -/

set_option autoImplicit false

namespace SpritexPay

open Binary64 Pattern

/-- On ASCII, `\d` of the regex crate is a digit. -/
def Crates.DigitsAscii (crates : Crates) : Prop :=
  ∀ char : Char, char.toNat < 128 → crates.decimalDigit char = char.isDigit

/-! ## Texts -/

/-- Digits and commas that start with a digit, and maybe a fraction. -/
structure AmountText (text : List Char) : Prop where
  parts : ∃ first more fraction, text = first :: more ++ fraction ∧ first.isDigit = true ∧
    (∀ char ∈ more, char.isDigit = true ∨ char = ',') ∧
    (fraction = [] ∨ ∃ tenths others, fraction = '.' :: tenths :: others ∧
      ∀ char ∈ tenths :: others, char.isDigit = true)

/-- A mobile number: 01 and nine digits. -/
structure MsisdnText (text : List Char) : Prop where
  parts : ∃ subscriber, text = '0' :: '1' :: subscriber ∧ subscriber.length = 9 ∧
    ∀ char ∈ subscriber, char.isDigit = true

theorem isDigit_iff {char : Char} : char.isDigit = true ↔ 48 ≤ char.toNat ∧ char.toNat ≤ 57 :=
  Char.isDigit_iff_toNat

theorem AmountText.low {text : List Char} (amount : AmountText text) :
    ∀ char ∈ text, char.toNat < 65 := by
  obtain ⟨first, more, fraction, rfl, digit, whole, fractional⟩ := amount.parts
  have low : ∀ char : Char, char.isDigit = true → char.toNat < 65 := fun char numeric => by
    have := isDigit_iff.mp numeric
    omega
  intro char member
  simp only [List.mem_append, List.mem_cons] at member
  rcases member with (rfl | inMore) | inFraction
  · exact low _ digit
  · rcases whole char inMore with numeric | rfl
    · exact low _ numeric
    · decide
  · rcases fractional with rfl | ⟨tenths, others, rfl, numeric⟩
    · cases inFraction
    · rcases List.mem_cons.mp inFraction with rfl | later
      · decide
      · exact low _ (numeric char later)

theorem MsisdnText.low {text : List Char} (msisdn : MsisdnText text) :
    ∀ char ∈ text, char.toNat < 65 := by
  obtain ⟨subscriber, rfl, _, numeric⟩ := msisdn.parts
  intro char member
  simp only [List.mem_cons] at member
  rcases member with rfl | rfl | inSubscriber
  · decide
  · decide
  · have := isDigit_iff.mp (numeric char inSubscriber)
    omega

theorem space_of_isDigit {char : Char} (numeric : char.isDigit = true) : space char = false := by
  have := isDigit_iff.mp numeric
  simp only [space, Bool.or_eq_false_iff, Bool.and_eq_false_iff, decide_eq_false_iff_not,
    beq_eq_false_iff_ne]
  omega

theorem colonOrSpace_of_alphanumeric {char : Char} (accepted : alphanumeric char = true) :
    colonOrSpace char = false := by
  simp only [alphanumeric, Bool.or_eq_true, beq_iff_eq] at accepted
  rcases accepted with (plain | rfl) | rfl
  · change ((decide (char.val ≥ 65 ∧ char.val ≤ 90) ||
      (decide (char.val ≥ 97) && decide (char.val ≤ 122))) || char.isDigit) = true at plain
    simp only [Bool.or_eq_true, Bool.and_eq_true, decide_eq_true_eq, UInt32.le_iff_toNat_le,
      ge_iff_le, isDigit_iff] at plain
    change ((65 ≤ char.toNat ∧ char.toNat ≤ 90) ∨ 97 ≤ char.toNat ∧ char.toNat ≤ 122) ∨ _ at plain
    simp only [colonOrSpace, space, Bool.or_eq_false_iff, Bool.and_eq_false_iff,
      decide_eq_false_iff_not, beq_eq_false_iff_ne]
    refine ⟨?_, by omega⟩
    rintro rfl
    revert plain
    decide
  · rfl
  · rfl

/-- A letter is not matched by digits, punctuation marks and blanks. -/
theorem sameCase_of_low {letter char : Char} (high : 65 ≤ letter.toLower.toNat)
    (low : char.toNat < 65) : sameCase letter char = false := by
  have same : char.toLower = char := by
    refine dif_neg ?_
    rintro ⟨upper, _⟩
    exact absurd low (not_lt.mpr (UInt32.le_iff_toNat_le.mp upper))
  have apart : ∀ other : Char, 65 ≤ other.toNat → (char == other) = false := by
    intro other above
    rw [beq_eq_false_iff_ne]
    rintro rfl
    omega
  simp only [sameCase, same, apart _ high, apart '\u212A' (by decide), apart '\u017F' (by decide),
    Bool.and_false, Bool.or_false]

/-! ## Amounts -/

/-- An amount of taka with its hundredths. -/
def amountText (minor : Nat) : List Char :=
  Nat.toDigits 10 (minor / 100) ++
    ['.', Nat.digitChar (minor / 10 % 10), Nat.digitChar (minor % 10)]

theorem isDigit_toDigits {number : Nat} : ∀ char ∈ Nat.toDigits 10 number, char.isDigit = true :=
  fun _ member => Nat.isDigit_of_mem_toDigits (by decide) (by decide) member

theorem amountText_written (minor : Nat) : AmountText (amountText minor) := by
  constructor
  cases whole : Nat.toDigits 10 (minor / 100) with
  | nil => exact absurd whole Nat.toDigits_ne_nil
  | cons first more =>
      have numeric : ∀ char ∈ first :: more, char.isDigit = true := whole ▸ isDigit_toDigits
      refine ⟨first, more, _, by rw [amountText, whole], numeric first List.mem_cons_self,
        fun char member => .inl (numeric char (List.mem_cons_of_mem _ member)),
        .inr ⟨_, _, rfl, ?_⟩⟩
      intro char member
      simp only [List.mem_cons, List.not_mem_nil, or_false] at member
      rcases member with rfl | rfl
      · simp [Nat.mod_lt]
      · simp [Nat.mod_lt]

theorem digitsValue_amountText (minor : Nat) :
    F64.digitsValue (Nat.toDigits 10 (minor / 100) ++
      [Nat.digitChar (minor / 10 % 10), Nat.digitChar (minor % 10)]) = minor := by
  change Nat.ofDigitChars 10 _ 0 = minor
  rw [Nat.ofDigitChars_append, Nat.ofDigitChars_ten_toDigits,
    Nat.ofDigitChars_cons_digitChar_of_lt_ten (Nat.mod_lt _ (by decide)),
    Nat.ofDigitChars_cons_digitChar_of_lt_ten (Nat.mod_lt _ (by decide)), Nat.ofDigitChars_nil]
  omega

theorem amountToMinor_amountText {minor : Nat} (positive : 0 < minor) (small : minor < 2 ^ 51) :
    amountToMinor (String.ofList (amountText minor)) = .ok (Int64.ofInt minor) := by
  have numeric : ∀ char ∈ Nat.toDigits 10 (minor / 100), char.isDigit = true := isDigit_toDigits
  have hundredths : ∀ char ∈ [Nat.digitChar (minor / 10 % 10), Nat.digitChar (minor % 10)],
      char.isDigit = true := by
    simp [Nat.mod_lt]
  have apart : ∀ char : Char, char.isDigit = true → char ≠ '.' := by
    rintro _ digit rfl
    cases digit
  have kept : (amountText minor).filter (fun char => char.isDigit || char == '.') =
      amountText minor := by
    refine List.filter_eq_self.mpr fun char member => ?_
    rcases List.mem_append.mp member with whole | rest
    · rw [numeric char whole, Bool.true_or]
    · rcases List.mem_cons.mp rest with rfl | decimal
      · rfl
      · rw [hundredths char decimal, Bool.true_or]
  have parsed : F64.parse (amountText minor) = some (F64.ofRat ((minor : Int) / 100)) := by
    rw [amountText, F64.parse_point (fun char member => apart char (numeric char member))
      (fun char member => apart char (hundredths char member)) Nat.toDigits_ne_nil,
      digitsValue_amountText]
    norm_num
  simp only [amountToMinor, String.toList_ofList, kept, parsed]
  rw [F64.minor_of_major (by exact_mod_cast positive) (by exact_mod_cast small)]

/-! ## Groups -/

section Groups

variable {crates : Crates} {amount msisdn txnId rest : List Char} {before : Option (List Char)}

theorem Crates.DigitsAscii.of_isDigit (ascii : crates.DigitsAscii) {char : Char}
    (numeric : char.isDigit = true) : crates.decimalDigit char = true := by
  have := isDigit_iff.mp numeric
  rw [ascii char (by omega)]
  exact numeric

/-- What follows the amount does not continue it. -/
structure AmountEnds (crates : Crates) (amount rest : List Char) : Prop where
  digit : ∀ char ∈ rest.head?, crates.decimalDigit char = false
  comma : '.' ∉ amount → ∀ char ∈ rest.head?, char ≠ ','
  fraction : '.' ∉ amount → ∀ char others, rest = '.' :: char :: others →
    crates.decimalDigit char = false

theorem takes_amountGroup_of_ends (ascii : crates.DigitsAscii) (written : AmountText amount)
    (ends : AmountEnds crates amount rest) :
    Takes (amountGroup crates) (amount ++ rest) before rest (some amount) := by
  obtain ⟨first, more, fraction, rfl, digit, whole, fractional⟩ := written.parts
  have point : crates.decimalDigit '.' = false := ascii '.' (by decide)
  have started : (crates.decimalDigit first || first == ',') = true := by
    rw [ascii.of_isDigit digit]
    rfl
  have continued : ∀ char ∈ more, (crates.decimalDigit char || char == ',') = true := by
    intro char member
    rcases whole char member with numeric | rfl
    · rw [ascii.of_isDigit numeric]
      rfl
    · exact Bool.or_true _
  refine Takes.group ?_
  rw [List.append_assoc]
  rcases fractional with rfl | ⟨tenths, others, rfl, numeric⟩
  · have pointless : '.' ∉ first :: more ++ [] := by
      intro member
      rcases List.mem_cons.mp (List.append_nil _ ▸ member) with rfl | inMore
      · cases digit
      · rcases whole _ inMore with fractionless | comma
        · cases fractionless
        · cases comma
    have stops : ∀ char ∈ rest.head?, (crates.decimalDigit char || char == ',') = false := by
      intro char here
      simp [ends.digit char here, ends.comma pointless char here]
    refine (takes_some1 started continued stops).seq (Fails.right ?_ takes_empty)
    -- no fraction starts after the amount
    cases rest with
    | nil => exact fun _ _ => rfl
    | cons char rest =>
        by_cases same : char = '.'
        · subst same
          intro before resume
          cases rest with
          | nil => rfl
          | cons char others =>
              have refused := ends.fraction pointless char others rfl
              simp [run, digits, some1, refused]
        · exact (fails_one (by simpa using same)).seq
  · have pointed : (crates.decimalDigit '.' || '.' == ',') = false := by
      rw [point]
      rfl
    have taken : Takes (digits crates) (tenths :: others ++ rest) before rest before := by
      refine takes_some1 (ascii.of_isDigit (numeric tenths List.mem_cons_self)) ?_ ends.digit
      exact fun char member => ascii.of_isDigit (numeric char (List.mem_cons_of_mem _ member))
    exact (takes_some1 started continued (stops_cons pointed)).seq ((takes_one rfl).seq taken).left

theorem amountEnds_blank (ascii : crates.DigitsAscii) :
    AmountEnds crates amount (' ' :: rest) where
  digit := stops_cons (ascii ' ' (by decide))
  comma _ := by
    rintro _ ⟨⟩
    decide
  fraction _ _ _ split := by cases split

theorem takes_amountGroup (ascii : crates.DigitsAscii) (written : AmountText amount) :
    Takes (amountGroup crates) (amount ++ ' ' :: rest) before (' ' :: rest) (some amount) :=
  takes_amountGroup_of_ends ascii written (amountEnds_blank ascii)

theorem AmountText.stops_space (written : AmountText amount) :
    ∀ char ∈ (amount ++ rest).head?, space char = false := by
  obtain ⟨first, more, fraction, rfl, numeric, _⟩ := written.parts
  exact stops_cons (space_of_isDigit numeric)

theorem MsisdnText.stops {accepts : Char → Bool} (written : MsisdnText msisdn)
    (refused : accepts '0' = false) : ∀ char ∈ (msisdn ++ rest).head?, accepts char = false := by
  obtain ⟨subscriber, rfl, _⟩ := written.parts
  exact stops_cons refused

theorem takes_msisdnGroup (ascii : crates.DigitsAscii) (written : MsisdnText msisdn) :
    Takes (msisdnGroup crates) (msisdn ++ rest) before rest (some msisdn) := by
  obtain ⟨subscriber, rfl, nine, numeric⟩ := written.parts
  refine Takes.group ((takes_word "01").seq (Takes.seq ?_ takes_empty))
  rw [← nine]
  exact takes_times fun char member => ascii.of_isDigit (numeric char member)

theorem takes_txidGroup {first : Char} (started : alphanumeric first = true)
    (all : ∀ char ∈ txnId, alphanumeric char = true)
    (stops : ∀ char ∈ rest.head?, alphanumeric char = false) :
    Takes txidGroup (first :: txnId ++ rest) before rest (some (first :: txnId)) :=
  Takes.group (takes_some1 started all stops)

end Groups

/-! ## What is captured -/

/-- The patterns of a gateway find these fields in a message. -/
structure Captured (txid amount sender : Pattern) (body : String)
    (txnText amountText msisdnText : List Char) : Prop where
  txid : txid.captures body = some (String.ofList txnText)
  amount : amount.captures body = some (String.ofList amountText)
  sender : sender.captures body = some (String.ofList msisdnText)

/-- The transaction a message is read as, once its amount is. -/
def confirmed (gateway : Gateway) (txnId msisdn : List Char) (amountMinor : Int64) : ParsedTxn where
  gateway := gateway
  txnId := String.ofList txnId
  amountMinor := amountMinor
  senderMsisdn := some (String.ofList msisdn)

theorem Captured.parseWith {gateway : Gateway} {txid amount sender : Pattern} {body : String}
    {txnText amountText msisdnText : List Char}
    (captured : Captured txid amount sender body txnText amountText msisdnText) :
    parseWith gateway txid amount sender body =
      (amountToMinor (String.ofList amountText)).map (confirmed gateway txnText msisdnText) := by
  simp only [SpritexPay.parseWith, captured.txid, captured.amount, captured.sender]
  cases amountToMinor (String.ofList amountText) <;> rfl

/-! ## The message -/

/-- What bKash sends for a payment, and any text after it. -/
def bkashMessage (amount msisdn txnId trailing : List Char) : List Char :=
  "You have received Tk ".toList ++ (amount ++ (" from ".toList ++ (msisdn ++
    (". TrxID ".toList ++ (txnId ++ trailing)))))

section Message

variable {crates : Crates} {amount msisdn txnId trailing rest : List Char}
  {before : Option (List Char)}

theorem takes_blank (stops : ∀ char ∈ rest.head?, space char = false) :
    Takes (.many space) (' ' :: rest) before rest before := by
  have blank : ∀ char ∈ [' '], space char = true := List.all_eq_true.mp rfl
  exact (takes_many blank stops : Takes _ ([' '] ++ rest) before rest before)

theorem takes_bkashAmount (ascii : crates.DigitsAscii) (written : AmountText amount) :
    Takes (bkashAmount crates) ("received Tk ".toList ++ (amount ++ ' ' :: rest)) before
      (' ' :: rest) (some amount) := by
  have taka : ∀ char ∈ ("Tk ".toList ++ (amount ++ ' ' :: rest)).head?, space char = false :=
    stops_cons rfl
  refine (takes_word "received").left.seq ((takes_blank taka).seq ?_)
  refine (takes_word "T").seq ((takes_word "k").left.seq ?_)
  refine ((fails_one rfl).right takes_empty).seq ((takes_blank written.stops_space).seq ?_)
  exact (takes_amountGroup ascii written).seq takes_empty

theorem takes_bkashSender (ascii : crates.DigitsAscii) (written : MsisdnText msisdn) :
    Takes (bkashSender crates) ("from".toList ++ ' ' :: (msisdn ++ rest)) before rest
      (some msisdn) := by
  refine (takes_word "from").seq ((takes_single rfl (written.stops rfl)).seq ?_)
  exact (takes_msisdnGroup ascii written).seq takes_empty

theorem takes_bkashTxid {first : Char} (started : alphanumeric first = true)
    (all : ∀ char ∈ txnId, alphanumeric char = true)
    (stops : ∀ char ∈ rest.head?, alphanumeric char = false) :
    Takes bkashTxid ("TrxID".toList ++ ' ' :: (first :: txnId ++ rest)) before rest
      (some (first :: txnId)) := by
  have apart : ∀ char ∈ (first :: txnId ++ rest).head?, colonOrSpace char = false :=
    stops_cons (colonOrSpace_of_alphanumeric started)
  refine (takes_word "TrxID").seq ((takes_single rfl apart).seq ?_)
  exact (takes_txidGroup started all stops).seq takes_empty

theorem search_bkashAmount (ascii : crates.DigitsAscii) (written : AmountText amount) :
    (bkashAmount crates).search (bkashMessage amount msisdn txnId trailing) =
      some (some amount) := by
  change (bkashAmount crates).search ("received Tk ".toList ++ (amount ++ ' ' :: _)) = _
  exact search_of_takes (takes_bkashAmount ascii written)

/-- No text of the message before the sender starts one. -/
theorem search_bkashSender (ascii : crates.DigitsAscii) (amountWritten : AmountText amount)
    (written : MsisdnText msisdn) :
    (bkashSender crates).search (bkashMessage amount msisdn txnId trailing) =
      some (some msisdn) := by
  have skipped : ∀ char ∈ amount, ∀ rest, Fails (bkashSender crates) (char :: rest) :=
    fun char member _ => (fails_one (sameCase_of_low (by decide)
      (amountWritten.low char member))).seq.seq
  change (bkashSender crates).search (amount ++ _) = _
  rw [search_append skipped]
  change (bkashSender crates).search ("from".toList ++ ' ' :: (msisdn ++ _)) = _
  exact search_of_takes (takes_bkashSender ascii written)

theorem search_bkashTxid {first : Char} (amountWritten : AmountText amount)
    (msisdnWritten : MsisdnText msisdn) (started : alphanumeric first = true)
    (all : ∀ char ∈ txnId, alphanumeric char = true)
    (stops : ∀ char ∈ trailing.head?, alphanumeric char = false) :
    bkashTxid.search (bkashMessage amount msisdn (first :: txnId) trailing) =
      some (some (first :: txnId)) := by
  have skipped : ∀ text : List Char, (∀ char ∈ text, char.toNat < 65) →
      ∀ char ∈ text, ∀ rest, Fails bkashTxid (char :: rest) := fun text low char member _ =>
    (fails_one (sameCase_of_low (by decide) (low char member))).seq.seq
  change bkashTxid.search (amount ++ _) = _
  rw [search_append (skipped amount amountWritten.low)]
  change bkashTxid.search (msisdn ++ _) = _
  rw [search_append (skipped msisdn msisdnWritten.low)]
  change bkashTxid.search ("TrxID".toList ++ ' ' :: (first :: txnId ++ _)) = _
  exact search_of_takes (takes_bkashTxid started all stops)

theorem captured_bkash {first : Char} (ascii : crates.DigitsAscii)
    (amountWritten : AmountText amount) (msisdnWritten : MsisdnText msisdn)
    (started : alphanumeric first = true) (all : ∀ char ∈ txnId, alphanumeric char = true)
    (stops : ∀ char ∈ trailing.head?, alphanumeric char = false) :
    Captured bkashTxid (bkashAmount crates) (bkashSender crates)
      (String.ofList (bkashMessage amount msisdn (first :: txnId) trailing)) (first :: txnId) amount
      msisdn where
  txid := captures_ofList (search_bkashTxid amountWritten msisdnWritten started all stops)
  amount := captures_ofList (search_bkashAmount ascii amountWritten)
  sender := captures_ofList (search_bkashSender ascii amountWritten msisdnWritten)

/-- bKash's message is read back, whatever follows it. -/
theorem parseSms_bkashMessage {first : Char} {amountMinor : Int64} (ascii : crates.DigitsAscii)
    (amountWritten : AmountText amount) (msisdnWritten : MsisdnText msisdn)
    (started : alphanumeric first = true) (all : ∀ char ∈ txnId, alphanumeric char = true)
    (stops : ∀ char ∈ trailing.head?, alphanumeric char = false)
    (converted : amountToMinor (String.ofList amount) = .ok amountMinor) :
    Gateway.bkash.parseSms crates
        (String.ofList (bkashMessage amount msisdn (first :: txnId) trailing)) =
      .ok { gateway := .bkash, txnId := String.ofList (first :: txnId), amountMinor,
            senderMsisdn := some (String.ofList msisdn) } := by
  have captured := captured_bkash ascii amountWritten msisdnWritten started all stops
  refine captured.parseWith.trans ?_
  rw [converted]
  rfl

end Message

end SpritexPay
