import SpritexPay.Api
import SpritexPay.MessageProperties

/-! Both confirmation messages are read back. The three patterns of a gateway
search the same text; each finds its own field first, and what follows the
transaction id is not reached. -/

set_option autoImplicit false

namespace SpritexPay

open Pattern

/-- What Nagad sends for a payment, and any text after it. -/
def nagadMessage (amount msisdn txnId trailing : List Char) : List Char :=
  "Money Received. Amount: Tk ".toList ++ (amount ++ (" Sender: ".toList ++ (msisdn ++
    (" TxnID: ".toList ++ (txnId ++ trailing)))))

/-- Capital letters and digits, at least one. -/
structure TxnText (text : List Char) : Prop where
  nonempty : text ≠ []
  plain : ∀ char ∈ text, char.isUpper = true ∨ char.isDigit = true

theorem TxnText.parts {text : List Char} (written : TxnText text) :
    ∃ first more, text = first :: more ∧ alphanumeric first = true ∧
      ∀ char ∈ more, alphanumeric char = true := by
  have accepted : ∀ char ∈ text, alphanumeric char = true := by
    intro char member
    rcases written.plain char member with upper | numeric
    · have letter : char.isAlpha = true := Bool.or_eq_true_iff.mpr (.inl upper)
      simp only [alphanumeric, Char.isAlphanum, letter, Bool.true_or]
    · simp only [alphanumeric, Char.isAlphanum, numeric, Bool.or_true, Bool.true_or]
  cases text with
  | nil => exact absurd rfl written.nonempty
  | cons first more =>
      exact ⟨first, more, rfl, accepted first List.mem_cons_self,
        fun char member => accepted char (List.mem_cons_of_mem _ member)⟩

section Nagad

variable {crates : Crates} {amount msisdn txnId trailing rest : List Char}
  {before : Option (List Char)}

/-- A colon and a blank. -/
theorem takes_separator (stops : ∀ char ∈ rest.head?, colonOrSpace char = false) :
    Takes (some1 colonOrSpace) (':' :: ' ' :: rest) before rest before := by
  have blank : ∀ char ∈ [' '], colonOrSpace char = true := List.all_eq_true.mp rfl
  exact (takes_some1 rfl blank stops : Takes _ (':' :: [' '] ++ rest) before rest before)

theorem takes_nagadAmount (ascii : crates.DigitsAscii) (written : AmountText amount) :
    Takes (nagadAmount crates) ("Amount".toList ++ ':' :: ' ' :: ("Tk".toList ++
      ' ' :: (amount ++ ' ' :: rest))) before (' ' :: rest) (some amount) := by
  refine (takes_word "Amount").seq ((takes_separator (stops_cons rfl)).seq ?_)
  refine Takes.seq ((takes_word "Tk").seq ((fails_one rfl).right takes_empty)) ?_
  refine (takes_blank written.stops_space).seq ?_
  exact (takes_amountGroup ascii written).seq takes_empty

theorem takes_nagadSender (ascii : crates.DigitsAscii) (written : MsisdnText msisdn) :
    Takes (nagadSender crates) ("Sender".toList ++ ':' :: ' ' :: (msisdn ++ rest)) before rest
      (some msisdn) := by
  refine (takes_word "Sender").seq ((takes_separator (written.stops rfl)).seq ?_)
  exact (takes_msisdnGroup ascii written).seq takes_empty

theorem takes_nagadTxid {first : Char} (started : alphanumeric first = true)
    (all : ∀ char ∈ txnId, alphanumeric char = true)
    (stops : ∀ char ∈ rest.head?, alphanumeric char = false) :
    Takes nagadTxid ("TxnID".toList ++ ':' :: ' ' :: (first :: txnId ++ rest)) before rest
      (some (first :: txnId)) := by
  have apart : ∀ char ∈ (first :: txnId ++ rest).head?, colonOrSpace char = false :=
    stops_cons (colonOrSpace_of_alphanumeric started)
  refine (takes_word "TxnID").left.seq ((takes_separator apart).seq ?_)
  exact (takes_txidGroup started all stops).seq takes_empty

theorem search_nagadAmount (ascii : crates.DigitsAscii) (written : AmountText amount) :
    (nagadAmount crates).search (nagadMessage amount msisdn txnId trailing) =
      some (some amount) := by
  change (nagadAmount crates).search ("Amount".toList ++ ':' :: ' ' :: ("Tk".toList ++
    ' ' :: (amount ++ ' ' :: _))) = _
  exact search_of_takes (takes_nagadAmount ascii written)

theorem search_nagadSender (ascii : crates.DigitsAscii) (amountWritten : AmountText amount)
    (written : MsisdnText msisdn) :
    (nagadSender crates).search (nagadMessage amount msisdn txnId trailing) =
      some (some msisdn) := by
  have skipped : ∀ char ∈ amount, ∀ rest, Fails (nagadSender crates) (char :: rest) :=
    fun char member _ => (fails_one (sameCase_of_low (by decide)
      (amountWritten.low char member))).seq.seq
  change (nagadSender crates).search (amount ++ _) = _
  rw [search_append skipped]
  change (nagadSender crates).search ("Sender".toList ++ ':' :: ' ' :: (msisdn ++ _)) = _
  exact search_of_takes (takes_nagadSender ascii written)

theorem search_nagadTxid {first : Char} (amountWritten : AmountText amount)
    (msisdnWritten : MsisdnText msisdn) (started : alphanumeric first = true)
    (all : ∀ char ∈ txnId, alphanumeric char = true)
    (stops : ∀ char ∈ trailing.head?, alphanumeric char = false) :
    nagadTxid.search (nagadMessage amount msisdn (first :: txnId) trailing) =
      some (some (first :: txnId)) := by
  have skipped : ∀ text : List Char, (∀ char ∈ text, char.toNat < 65) →
      ∀ char ∈ text, ∀ rest, Fails nagadTxid (char :: rest) := by
    intro text low char member rest
    have apart : sameCase 'T' char = false := sameCase_of_low (by decide) (low char member)
    exact (Fails.alt (fails_one apart).seq (fails_one apart).seq).seq
  change nagadTxid.search (amount ++ _) = _
  rw [search_append (skipped amount amountWritten.low)]
  change nagadTxid.search (msisdn ++ _) = _
  rw [search_append (skipped msisdn msisdnWritten.low)]
  change nagadTxid.search ("TxnID".toList ++ ':' :: ' ' :: (first :: txnId ++ _)) = _
  exact search_of_takes (takes_nagadTxid started all stops)

theorem captured_nagad {first : Char} (ascii : crates.DigitsAscii)
    (amountWritten : AmountText amount) (msisdnWritten : MsisdnText msisdn)
    (started : alphanumeric first = true) (all : ∀ char ∈ txnId, alphanumeric char = true)
    (stops : ∀ char ∈ trailing.head?, alphanumeric char = false) :
    Captured nagadTxid (nagadAmount crates) (nagadSender crates)
      (String.ofList (nagadMessage amount msisdn (first :: txnId) trailing)) (first :: txnId) amount
      msisdn where
  txid := captures_ofList (search_nagadTxid amountWritten msisdnWritten started all stops)
  amount := captures_ofList (search_nagadAmount ascii amountWritten)
  sender := captures_ofList (search_nagadSender ascii amountWritten msisdnWritten)

end Nagad

section Confirmations

variable {crates : Crates} {amount msisdn txnId trailing : List Char}

/-- The patterns find the fields a message was written from, and the parsers
return them, with the amount as it is converted. -/
theorem parses_confirmations (ascii : crates.DigitsAscii) (amountWritten : AmountText amount)
    (msisdnWritten : MsisdnText msisdn) (txnWritten : TxnText txnId)
    (stops : ∀ char ∈ trailing.head?, alphanumeric char = false) :
    (Captured bkashTxid (bkashAmount crates) (bkashSender crates)
        (String.ofList (bkashMessage amount msisdn txnId trailing)) txnId amount msisdn ∧
      Gateway.bkash.parseSms crates
          (String.ofList (bkashMessage amount msisdn txnId trailing)) =
        (amountToMinor (String.ofList amount)).map (confirmed .bkash txnId msisdn)) ∧
    (Captured nagadTxid (nagadAmount crates) (nagadSender crates)
        (String.ofList (nagadMessage amount msisdn txnId trailing)) txnId amount msisdn ∧
      Gateway.nagad.parseSms crates
          (String.ofList (nagadMessage amount msisdn txnId trailing)) =
        (amountToMinor (String.ofList amount)).map (confirmed .nagad txnId msisdn)) := by
  obtain ⟨first, more, rfl, started, all⟩ := txnWritten.parts
  have bkash := captured_bkash ascii amountWritten msisdnWritten started all stops
  have nagad := captured_nagad ascii amountWritten msisdnWritten started all stops
  exact ⟨⟨bkash, bkash.parseWith⟩, nagad, nagad.parseWith⟩

end Confirmations

/-- Further amounts, ids and numbers after the transaction id. -/
def busyTrailing : List Char :=
  ". Fee Tk 5.00. Balance Tk 99.00 from 01000000000 TrxID ZZZ9".toList

theorem parses_confirmations_sample :
    Captured bkashTxid (bkashAmount sampleCrates) (bkashSender sampleCrates)
        (String.ofList (bkashMessage "1,234.50".toList "01999999999".toList "TRXA".toList
          busyTrailing)) "TRXA".toList "1,234.50".toList "01999999999".toList ∧
      Gateway.nagad.parseSms sampleCrates
          (String.ofList (nagadMessage "1,234.50".toList "01999999999".toList "TRXA".toList
            busyTrailing)) =
        (amountToMinor (String.ofList "1,234.50".toList)).map
          (confirmed .nagad "TRXA".toList "01999999999".toList) := by
  have ascii : sampleCrates.DigitsAscii := fun _ _ => rfl
  have grouped : ",234".toList.all (fun char => char.isDigit || char == ',') = true := rfl
  have amount : AmountText "1,234.50".toList :=
    ⟨'1', ",234".toList, ".50".toList, rfl, rfl,
      fun char member => by simpa using List.all_eq_true.mp grouped char member,
      .inr ⟨'5', ['0'], rfl, List.all_eq_true.mp rfl⟩⟩
  have msisdn : MsisdnText "01999999999".toList :=
    ⟨"999999999".toList, rfl, rfl, List.all_eq_true.mp rfl⟩
  have lettered : "TRXA".toList.all (fun char => char.isUpper || char.isDigit) = true := rfl
  have txn : TxnText "TRXA".toList :=
    ⟨by simp, fun char member => by simpa using List.all_eq_true.mp lettered char member⟩
  have stops : ∀ char ∈ busyTrailing.head?, alphanumeric char = false := stops_cons rfl
  have parsed := parses_confirmations ascii amount msisdn txn stops
  exact ⟨parsed.1.1, parsed.2.2⟩

end SpritexPay
