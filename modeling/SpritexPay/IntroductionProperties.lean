import SpritexPay.ConfirmationProperties
import SpritexPay.PatternLanguage

/-! Which introductions of an amount bKash's pattern recognises. It asks for the
sign of the taka after every first word: the `?` of `Tk?` stands after the `k`
alone. -/

set_option autoImplicit false

namespace SpritexPay

open Pattern

/-- The introductions that the alternatives of the pattern are written for. -/
inductive Introduction where
  | receivedTk
  | received
  | tk
  | tkPoint
  deriving DecidableEq

def Blank (gap : List Char) : Prop := ∀ char ∈ gap, space char = true

/-- An introduction in any letter case, with any blanks between its parts. -/
inductive Introduces : Introduction → List Char → Prop where
  | receivedTk {word between sign gap : List Char} (worded : Spelled "received" word)
      (apart : Blank between) (signed : Spelled "Tk" sign) (blank : Blank gap) :
      Introduces .receivedTk (word ++ (between ++ (sign ++ gap)))
  | received {word gap : List Char} (worded : Spelled "received" word) (blank : Blank gap) :
      Introduces .received (word ++ gap)
  | tk {sign gap : List Char} (signed : Spelled "Tk" sign) (blank : Blank gap) :
      Introduces .tk (sign ++ gap)
  | tkPoint {sign gap : List Char} (signed : Spelled "Tk" sign) (blank : Blank gap) :
      Introduces .tkPoint (sign ++ '.' :: gap)

/-- Neither word of an introduction stands in the text. -/
def Unintroduced (text : List Char) : Prop :=
  ∀ earlier written later, text = earlier ++ (written ++ later) →
    ¬Spelled "received" written ∧ ¬Spelled "Tk" written

/-- The text names the transaction. -/
def Mentions (text txnId : List Char) : Prop :=
  ∃ earlier mark gap later, text = earlier ++ (mark ++ (gap ++ (txnId ++ later))) ∧
    Spelled "TrxID" mark ∧ gap ≠ [] ∧ Blank gap

section Letters

variable {crates : Crates} {word written gap amount later others rest : List Char} {char : Char}

theorem spelled_received_cons (spelled : Spelled "received" written) :
    ∃ first more, written = first :: more ∧ sameCase 'r' first = true ∧
      List.Forall₂ (fun letter char => sameCase letter char = true)
        ['e', 'c', 'e', 'i', 'v', 'e', 'd'] more := by
  unfold Spelled at spelled
  cases spelled with
  | cons same spelled => exact ⟨_, _, rfl, same, spelled⟩

theorem spelled_tk_cons (spelled : Spelled "Tk" written) :
    ∃ first more, written = first :: more ∧ sameCase 'T' first = true ∧
      List.Forall₂ (fun letter char => sameCase letter char = true) ['k'] more := by
  unfold Spelled at spelled
  cases spelled with
  | cons same spelled => exact ⟨_, _, rfl, same, spelled⟩

/-- The amount pattern starts with one of two letters. -/
def Unstarted (char : Char) : Prop := sameCase 'r' char = false ∧ sameCase 'T' char = false

theorem fails_of_unstarted (unstarted : Unstarted char) :
    Fails (bkashAmount crates) (char :: rest) :=
  (Fails.alt (fails_one unstarted.1).seq (fails_one unstarted.2).seq.seq).seq

theorem unstarted_of_low (low : char.toNat < 65) : Unstarted char :=
  ⟨sameCase_of_low (by decide) low, sameCase_of_low (by decide) low⟩

theorem folded_of_space (blank : space char = true) : folded char = char := by
  have plain : char.toLower = char := by
    refine dif_neg ?_
    rintro ⟨upper, bounded⟩
    have above : 65 ≤ char.toNat := UInt32.le_iff_toNat_le.mp upper
    have below : char.toNat ≤ 90 := UInt32.le_iff_toNat_le.mp bounded
    simp only [space, Bool.or_eq_true, Bool.and_eq_true, decide_eq_true_eq, beq_iff_eq] at blank
    omega
  unfold folded
  split_ifs with kelvin long
  · subst kelvin
    cases blank
  · subst long
    cases blank
  · exact plain

theorem sameCase_of_space {letter : Char} (ascii : letter.toLower.toNat < 128)
    (visible : space letter.toLower = false) (blank : space char = true) :
    sameCase letter char = false := by
  by_contra same
  rw [Bool.not_eq_false] at same
  rw [toLower_of_sameCase same ascii, folded_of_space blank, blank] at visible
  cases visible

theorem unstarted_of_space (blank : space char = true) : Unstarted char :=
  ⟨sameCase_of_space (by decide) rfl blank, sameCase_of_space (by decide) rfl blank⟩

theorem space_of_sameCase_T (same : sameCase 'T' char = true) : space char = false := by
  by_contra blank
  rw [Bool.not_eq_false] at blank
  rw [(unstarted_of_space blank).2] at same
  cases same

/-- The letters after the first of a word start no match. -/
theorem unstarted_of_spelled {letters : List Char}
    (spelled : List.Forall₂ (fun letter char => sameCase letter char = true) letters written)
    (apart : letters.all (fun letter => decide (letter.toLower.toNat < 128 ∧
      letter.toLower ≠ 'r' ∧ letter.toLower ≠ 't')) = true) :
    ∀ char ∈ written, Unstarted char := by
  induction spelled with
  | nil => simp
  | cons same _ ih =>
      intro char member
      obtain ⟨here, others⟩ := Bool.and_eq_true_iff.mp apart
      obtain ⟨ascii, notR, notT⟩ := of_decide_eq_true here
      rcases List.mem_cons.mp member with rfl | inTail
      · exact ⟨sameCase_apart same ascii (by decide) notR,
          sameCase_apart same ascii (by decide) notT⟩
      · exact ih others char inTail

end Letters

section Matching

variable {crates : Crates} {word written gap amount between sign lead later others rest : List Char}
  {char : Char} {before after : Option (List Char)}

/-- A match starts with one of the words and comes to the letter of the sign
over points and blanks. -/
theorem sign_of_matches (taken : Matches (bkashAmount crates) others before rest after) :
    ∃ written passed char more, others = written ++ (passed ++ char :: more) ∧
      (Spelled "received" written ∨ Spelled "Tk" written) ∧
      (∀ char ∈ passed, (space char || char == '.') = true) ∧ sameCase 'T' char = true := by
  obtain ⟨middle, between, first, afterFirst⟩ := matches_seq_iff.mp taken
  obtain ⟨signed, _, blanks, afterBlanks⟩ := matches_seq_iff.mp afterFirst
  obtain ⟨_, _, letter, _⟩ := matches_seq_iff.mp afterBlanks
  obtain ⟨gap, rfl, blank, rfl⟩ := matches_many_iff.mp blanks
  obtain ⟨written, rfl, spelled, rfl⟩ := matches_word_iff.mp letter
  unfold Spelled at spelled
  obtain ⟨char, same, rfl⟩ : ∃ char, sameCase 'T' char = true ∧ written = [char] := by
    cases spelled with
    | cons same spelled =>
        cases spelled
        exact ⟨_, same, rfl⟩
  rcases matches_alt_iff.mp first with received | taka
  · obtain ⟨word, rfl, spelled, rfl⟩ := matches_word_iff.mp received
    refine ⟨word, gap, char, _, rfl, .inl spelled, fun char member => ?_, same⟩
    rw [blank char member, Bool.true_or]
  · obtain ⟨_, _, named, point⟩ := matches_seq_iff.mp taka
    obtain ⟨word, rfl, spelled, rfl⟩ := matches_word_iff.mp named
    rcases matches_alt_iff.mp point with dotted | plain
    · obtain ⟨dot, rfl, isDot, rfl⟩ := matches_one_iff.mp dotted
      refine ⟨word, dot :: gap, char, _, rfl, .inr spelled, fun char member => ?_, same⟩
      rcases List.mem_cons.mp member with rfl | inGap
      · rw [isDot, Bool.or_true]
      · rw [blank char inGap, Bool.true_or]
    · obtain ⟨rfl, rfl⟩ := matches_empty_iff.mp plain
      refine ⟨word, gap, char, _, rfl, .inr spelled, fun char member => ?_, same⟩
      rw [blank char member, Bool.true_or]

/-- Two spellings at the start of one text are of one word, and equally long. -/
theorem split_unique (spelled : Spelled "received" word ∨ Spelled "Tk" word)
    (also : Spelled "received" written ∨ Spelled "Tk" written)
    (split : word ++ others = written ++ rest) : word = written ∧ others = rest := by
  have apart : ∀ char, sameCase 'r' char = true → sameCase 'T' char = true → False := by
    intro char small large
    rw [sameCase_apart small (by decide) (by decide) (by decide)] at large
    cases large
  have long : ∀ {name : String}, Spelled name word → Spelled name written →
      word = written ∧ others = rest := fun spelled also =>
    List.append_inj split ((List.Forall₂.length_eq spelled).symm.trans
      (List.Forall₂.length_eq also))
  rcases spelled with received | taka <;> rcases also with received' | taka'
  · exact long received received'
  · obtain ⟨first, _, rfl, small, _⟩ := spelled_received_cons received
    obtain ⟨second, _, rfl, large, _⟩ := spelled_tk_cons taka'
    cases (List.cons.inj split).1
    exact (apart first small large).elim
  · obtain ⟨first, _, rfl, large, _⟩ := spelled_tk_cons taka
    obtain ⟨second, _, rfl, small, _⟩ := spelled_received_cons received'
    cases (List.cons.inj split).1
    exact (apart first small large).elim
  · exact long taka taka'

/-- Without a sign between the word and the amount there is no match. -/
theorem fails_unsigned (spelled : Spelled "received" word ∨ Spelled "Tk" word)
    (passed : ∀ char ∈ gap, (space char || char == '.') = true)
    (amountWritten : AmountText amount) :
    Fails (bkashAmount crates) (word ++ (gap ++ (amount ++ rest))) := by
  refine fails_of_not_matches fun before others after taken => ?_
  obtain ⟨first, more, fraction, rfl, digit, _⟩ := amountWritten.parts
  obtain ⟨written, skipped, char, left, split, also, points, same⟩ := sign_of_matches taken
  obtain ⟨_, split⟩ := split_unique spelled also split
  have refused : (space first || first == '.') = false := by
    rw [space_of_isDigit digit, Bool.false_or, beq_eq_false_iff_ne]
    rintro rfl
    cases digit
  have refusedSign : (space char || char == '.') = false := by
    rw [space_of_sameCase_T same, Bool.false_or, beq_eq_false_iff_ne]
    rintro rfl
    cases same
  -- both sides come to their first character other than blanks and points
  have reached := congrArg (List.dropWhile fun char => space char || char == '.') split
  rw [List.dropWhile_append_of_pos passed, List.dropWhile_append_of_pos points] at reached
  simp only [List.cons_append, List.dropWhile_cons, refused, refusedSign] at reached
  obtain ⟨rfl, _⟩ := List.cons.inj reached
  have := isDigit_iff.mp digit
  rw [(unstarted_of_low (by omega)).2] at same
  cases same

/-- With the sign the amount is taken. -/
theorem takes_signed (ascii : crates.DigitsAscii) (worded : Spelled "received" word)
    (apart : Blank between) (signed : Spelled "Tk" sign) (blank : Blank gap)
    (amountWritten : AmountText amount) (ends : AmountEnds crates amount rest) :
    Takes (bkashAmount crates) (word ++ (between ++ (sign ++ (gap ++ (amount ++ rest))))) before
      rest (some amount) := by
  obtain ⟨first, more, rfl, same, spelled⟩ := spelled_tk_cons signed
  obtain ⟨second, rfl, sameSecond⟩ : ∃ second, more = [second] ∧ sameCase 'k' second = true := by
    cases spelled with
    | cons same spelled =>
        cases spelled
        exact ⟨_, rfl, same⟩
  have taken : Takes (optional (.one (· == '.'))) (gap ++ (amount ++ rest)) before
      (gap ++ (amount ++ rest)) before := by
    refine Fails.right ?_ takes_empty
    cases gap with
    | nil =>
        obtain ⟨digit, others, fraction, rfl, numeric, _⟩ := amountWritten.parts
        refine fails_one (beq_eq_false_iff_ne.mpr ?_)
        rintro rfl
        cases numeric
    | cons char gap =>
        refine fails_one (beq_eq_false_iff_ne.mpr ?_)
        rintro rfl
        cases blank _ List.mem_cons_self
  refine (takes_spelled worded).left.seq ((takes_many apart ?_).seq ?_)
  · exact stops_cons (space_of_sameCase_T same)
  refine Takes.seq ((takes_one same).seq takes_empty) ?_
  refine Takes.seq ((takes_one sameSecond).seq takes_empty).left ?_
  refine taken.seq ((takes_many blank amountWritten.stops_space).seq ?_)
  exact (takes_amountGroup_of_ends ascii amountWritten ends).seq takes_empty

end Matching

section Searching

variable {crates : Crates} {kind : Introduction} {lead earlier amount later others rest text txnId :
  List Char} {word : String} {char : Char}

/-- A word that starts in a text and ends after it reads a later letter of the
word at the end of the text. -/
theorem within_of_spelled {written tail : List Char} (spelled : Spelled word written)
    (split : later ++ char :: tail = written ++ others) (nonempty : later ≠ [])
    (apart : ∀ letter ∈ word.toList.tail, sameCase letter char = false) :
    ∃ more, later = written ++ more := by
  rcases List.append_eq_append_iff.mp split with ⟨inner, rfl, tailSplit⟩ | ⟨more, rfl, _⟩
  · cases inner with
    | nil => exact ⟨[], by rw [List.append_nil, List.append_nil]⟩
    | cons other inner =>
        obtain ⟨rfl, _⟩ := List.cons.inj tailSplit
        obtain ⟨first, more, rfl⟩ := List.exists_cons_of_ne_nil nonempty
        unfold Spelled at spelled
        generalize word.toList = letters at spelled apart
        cases spelled with
        | cons _ spelled =>
            have reached := List.forall₂_drop_append _ more (char :: inner) spelled
            generalize remains : List.drop more.length _ = last at reached
            cases reached with
            | cons same _ =>
                have member := List.mem_of_mem_drop (remains ▸ List.mem_cons_self)
                rw [apart _ member] at same
                cases same
  · exact ⟨more, rfl⟩

theorem Introduces.head (introduced : Introduces kind lead) :
    ∃ first more, lead = first :: more ∧
      (sameCase 'r' first = true ∨ sameCase 'T' first = true) := by
  cases introduced with
  | receivedTk worded _ _ _ =>
      obtain ⟨first, more, rfl, same, _⟩ := spelled_received_cons worded
      exact ⟨first, _, rfl, .inl same⟩
  | received worded _ =>
      obtain ⟨first, more, rfl, same, _⟩ := spelled_received_cons worded
      exact ⟨first, _, rfl, .inl same⟩
  | tk signed _ =>
      obtain ⟨first, more, rfl, same, _⟩ := spelled_tk_cons signed
      exact ⟨first, _, rfl, .inr same⟩
  | tkPoint signed _ =>
      obtain ⟨first, more, rfl, same, _⟩ := spelled_tk_cons signed
      exact ⟨first, _, rfl, .inr same⟩

/-- The search comes to the introduction. -/
theorem search_introduced (clear : Unintroduced earlier) (introduced : Introduces kind lead) :
    (bkashAmount crates).search (earlier ++ (lead ++ rest)) =
      (bkashAmount crates).search (lead ++ rest) := by
  obtain ⟨first, more, rfl, starts⟩ := introduced.head
  have ascii : ['e', 'c', 'e', 'i', 'v', 'e', 'd', 'k'].all (fun letter =>
      decide (letter.toLower.toNat < 128 ∧ 'r'.toLower ≠ letter.toLower ∧
        'T'.toLower ≠ letter.toLower)) = true := by decide
  have apart : ∀ letter ∈ ['e', 'c', 'e', 'i', 'v', 'e', 'd', 'k'],
      sameCase letter first = false := by
    intro letter member
    obtain ⟨small, notR, notT⟩ := of_decide_eq_true (List.all_eq_true.mp ascii letter member)
    rcases starts with same | same
    · exact sameCase_apart same (by decide) small notR
    · exact sameCase_apart same (by decide) small notT
  refine search_skip fun before later split nonempty => fails_of_not_matches ?_
  intro captured others after taken
  obtain ⟨written, passed, _, _, cut, spelled, _, _⟩ := sign_of_matches taken
  rcases spelled with received | taka
  · obtain ⟨more, rfl⟩ := within_of_spelled received cut nonempty fun letter member =>
      apart letter (List.mem_append_left ['k'] member)
    exact (clear before written more split).1 received
  · obtain ⟨more, rfl⟩ := within_of_spelled taka cut nonempty fun letter member =>
      apart letter (List.mem_append_right ['e', 'c', 'e', 'i', 'v', 'e', 'd'] member)
    exact (clear before written more split).2 taka

/-- Without the sign, the search passes over the word and the amount. -/
theorem search_of_unsigned {word gap : List Char}
    (spelled : Spelled "received" word ∨ Spelled "Tk" word)
    (passed : ∀ char ∈ gap, (space char || char == '.') = true) (written : AmountText amount) :
    (bkashAmount crates).search (word ++ (gap ++ (amount ++ rest))) =
      (bkashAmount crates).search rest := by
  have failed : Fails (bkashAmount crates) (word ++ (gap ++ (amount ++ rest))) :=
    fails_unsigned spelled passed written
  have skipped : ∀ text : List Char, (∀ char ∈ text, Unstarted char) → ∀ rest,
      (bkashAmount crates).search (text ++ rest) = (bkashAmount crates).search rest :=
    fun text unstarted rest => search_append fun char member _ =>
      fails_of_unstarted (unstarted char member)
  have low : ∀ char ∈ amount, Unstarted char := fun char member =>
    unstarted_of_low (written.low char member)
  have blank : ∀ char ∈ gap, Unstarted char := by
    intro char member
    rcases Bool.or_eq_true_iff.mp (passed char member) with blank | point
    · exact unstarted_of_space blank
    · rw [beq_iff_eq.mp point]
      exact unstarted_of_low (by decide)
  obtain ⟨first, more, rfl, unstarted⟩ : ∃ first more, word = first :: more ∧
      ∀ char ∈ more, Unstarted char := by
    rcases spelled with received | taka
    · obtain ⟨first, more, rfl, _, spelled⟩ := spelled_received_cons received
      exact ⟨first, more, rfl, unstarted_of_spelled spelled (by decide)⟩
    · obtain ⟨first, more, rfl, _, spelled⟩ := spelled_tk_cons taka
      exact ⟨first, more, rfl, unstarted_of_spelled spelled (by decide)⟩
  rw [List.cons_append] at failed ⊢
  rw [search_of_fails failed, skipped more unstarted, skipped gap blank, skipped amount low]

theorem search_unsigned (introduced : Introduces kind lead) (unsigned : kind ≠ .receivedTk)
    (written : AmountText amount) :
    (bkashAmount crates).search (lead ++ (amount ++ rest)) = (bkashAmount crates).search rest := by
  have blanks : ∀ {gap : List Char}, Blank gap →
      ∀ char ∈ gap, (space char || char == '.') = true := by
    intro gap blank char member
    rw [blank char member, Bool.true_or]
  cases introduced with
  | receivedTk _ _ _ _ => exact absurd rfl unsigned
  | received worded blank =>
      rw [List.append_assoc]
      exact search_of_unsigned (.inl worded) (blanks blank) written
  | tk signed blank =>
      rw [List.append_assoc]
      exact search_of_unsigned (.inr signed) (blanks blank) written
  | @tkPoint _ gap signed blank =>
      have pointed : ∀ char ∈ '.' :: gap, (space char || char == '.') = true := by
        intro char member
        rcases List.mem_cons.mp member with rfl | inGap
        · rfl
        · exact blanks blank char inGap
      rw [List.append_assoc]
      exact search_of_unsigned (.inr signed) pointed written

theorem search_signed (ascii : crates.DigitsAscii) (introduced : Introduces .receivedTk lead)
    (written : AmountText amount) (ends : AmountEnds crates amount rest) :
    (bkashAmount crates).search (lead ++ (amount ++ rest)) = some (some amount) := by
  cases introduced with
  | receivedTk worded apart signed blank =>
      simp only [List.append_assoc]
      exact search_of_takes (takes_signed ascii worded apart signed blank written ends)

/-- Every match of a transaction id captures one of at least one character. -/
theorem exists_of_txidGroup {input rest : List Char} {before after : Option (List Char)}
    (taken : Matches txidGroup input before rest after) :
    ∃ first more, after = some (first :: more) := by
  obtain ⟨text, _, _, inside, rfl⟩ := matches_group_iff.mp taken
  obtain ⟨middle, _, one, many⟩ := matches_seq_iff.mp inside
  obtain ⟨first, split, _, _⟩ := matches_one_iff.mp one
  obtain ⟨more, rfl, _, _⟩ := matches_many_iff.mp many
  rw [← List.cons_append] at split
  exact ⟨first, more, congrArg some (List.append_cancel_right split)⟩

/-- What a pattern captures that ends in a transaction id. -/
theorem exists_of_search_txid {mark separator : Pattern} {input : List Char}
    {captured : Option (List Char)}
    (found : (concat [mark, separator, txidGroup]).search input = some captured) :
    ∃ first more, captured = some (first :: more) := by
  obtain ⟨_, _, taken⟩ := exists_of_search found
  obtain ⟨_, _, _, separated⟩ := matches_seq_iff.mp taken
  obtain ⟨_, _, _, grouped⟩ := matches_seq_iff.mp separated
  obtain ⟨_, _, group, nothing⟩ := matches_seq_iff.mp grouped
  obtain ⟨_, rfl⟩ := matches_empty_iff.mp nothing
  exact exists_of_txidGroup group

/-- A named transaction is found. -/
theorem captures_mentioned (mentioned : Mentions text txnId) (txnWritten : TxnText txnId) :
    ∃ found, bkashTxid.captures (String.ofList text) = some found := by
  obtain ⟨earlier, mark, gap, later, rfl, marked, filled, blank⟩ := mentioned
  obtain ⟨first, more, rfl, started, all⟩ := txnWritten.parts
  obtain ⟨char, gap, rfl⟩ := List.exists_cons_of_ne_nil filled
  have separates : ∀ other ∈ char :: gap, colonOrSpace other = true := by
    intro other member
    rw [colonOrSpace, blank other member, Bool.or_true]
  have separated : Matches (some1 colonOrSpace) (char :: gap ++ (first :: more ++ later)) none
      (first :: more ++ later) none :=
    .seq (.one (separates char List.mem_cons_self))
      (.many fun other member => separates other (List.mem_cons_of_mem _ member))
  have grouped : Matches txidGroup (first :: more ++ later) none later (some (first :: more)) :=
    .group (.seq (.one started) (.many all))
  have taken : Matches bkashTxid (mark ++ (char :: gap ++ (first :: more ++ later))) none later
      (some (first :: more)) :=
    .seq (matches_word_iff.mpr ⟨mark, rfl, marked, rfl⟩) (.seq separated (.seq grouped .empty))
  obtain ⟨captured, found⟩ := Option.isSome_iff_exists.mp (taken.isSome_search earlier)
  obtain ⟨firstFound, moreFound, rfl⟩ := exists_of_search_txid found
  exact ⟨_, captures_ofList found⟩

theorem amountToMinor_ne_noMatch {raw : String} {gateway : Gateway} :
    amountToMinor raw ≠ .error (.noMatch gateway) := by
  simp only [amountToMinor]
  split <;> simp

end Searching

/-- The pattern takes the amount, and the message is not refused as unknown. -/
def Recognised (crates : Crates) (message amount : List Char) : Prop :=
  (bkashAmount crates).captures (String.ofList message) = some (String.ofList amount) ∧
    Gateway.bkash.parseSms crates (String.ofList message) ≠ .error (.noMatch .bkash)

section Recognition

variable {crates : Crates} {kind : Introduction} {earlier lead amount rest txnId : List Char}

theorem recognised_of_captures {message : List Char} (mentioned : Mentions message txnId)
    (txnWritten : TxnText txnId)
    (taken : (bkashAmount crates).captures (String.ofList message) = some (String.ofList amount)) :
    Recognised crates message amount := by
  obtain ⟨found, named⟩ := captures_mentioned mentioned txnWritten
  refine ⟨taken, ?_⟩
  simp only [Gateway.parseSms, parseWith, named, taken]
  cases converted : amountToMinor (String.ofList amount) with
  | ok amountMinor => simp
  | error error =>
      rintro same
      cases same
      exact amountToMinor_ne_noMatch converted

/-- The amount is recognised after the full introduction only, unless the text
after it happens to introduce the same amount again. -/
theorem recognised_iff (ascii : crates.DigitsAscii) (clear : Unintroduced earlier)
    (introduced : Introduces kind lead) (amountWritten : AmountText amount)
    (ends : AmountEnds crates amount rest) (txnWritten : TxnText txnId)
    (mentioned : Mentions (earlier ++ (lead ++ (amount ++ rest))) txnId) :
    Recognised crates (earlier ++ (lead ++ (amount ++ rest))) amount ↔
      kind = .receivedTk ∨
        (bkashAmount crates).captures (String.ofList rest) = some (String.ofList amount) := by
  by_cases signed : kind = .receivedTk
  · subst signed
    have found : (bkashAmount crates).search (earlier ++ (lead ++ (amount ++ rest))) =
        some (some amount) := by
      rw [search_introduced clear introduced]
      exact search_signed ascii introduced amountWritten ends
    exact iff_of_true (recognised_of_captures mentioned txnWritten (captures_ofList found))
      (.inl rfl)
  · have passed : (bkashAmount crates).captures
        (String.ofList (earlier ++ (lead ++ (amount ++ rest)))) =
          (bkashAmount crates).captures (String.ofList rest) := by
      simp only [captures, String.toList_ofList]
      rw [search_introduced clear introduced, search_unsigned introduced signed amountWritten]
    constructor
    · rintro ⟨taken, _⟩
      exact .inr (passed ▸ taken)
    · rintro (same | again)
      · exact absurd same signed
      · exact recognised_of_captures mentioned txnWritten (passed.trans again)

theorem spelled_self {word : String} : Spelled word word.toList :=
  List.forall₂_same.mpr fun char _ => sameCase_self char

theorem amountText_sample : AmountText "500".toList :=
  ⟨'5', "00".toList, [], rfl, rfl, fun char member => .inl (List.all_eq_true.mp rfl char member),
    .inl rfl⟩

theorem txnText_sample : TxnText "ABC".toList :=
  ⟨by simp, fun char member => .inl (List.all_eq_true.mp rfl char member)⟩

theorem mentions_sample {earlier : List Char} :
    Mentions (earlier ++ " TrxID ABC".toList) "ABC".toList := by
  refine ⟨earlier ++ [' '], "TrxID".toList, [' '], [], by simp, ?_, by simp, ?_⟩
  · exact spelled_self
  · exact List.all_eq_true.mp rfl

theorem unintroduced_nil : Unintroduced [] := by
  intro earlier written later split
  obtain ⟨_, nothing⟩ := List.append_eq_nil_iff.mp split.symm
  obtain ⟨rfl, _⟩ := List.append_eq_nil_iff.mp nothing
  constructor <;> intro spelled <;> cases spelled

/-- After "received" alone no amount is found. -/
theorem unrecognised_received :
    Unintroduced [] ∧ Introduces .received "received ".toList ∧ AmountText "500".toList ∧
      AmountEnds sampleCrates "500".toList " TrxID ABC".toList ∧ TxnText "ABC".toList ∧
      Mentions "received 500 TrxID ABC".toList "ABC".toList ∧
      Gateway.bkash.parseSms sampleCrates "received 500 TrxID ABC" = .error (.noMatch .bkash) := by
  have blank : Blank [' '] := List.all_eq_true.mp rfl
  have mentioned : Mentions ("received 500".toList ++ " TrxID ABC".toList) "ABC".toList :=
    mentions_sample
  refine ⟨unintroduced_nil, .received spelled_self blank, amountText_sample,
    amountEnds_blank fun _ _ => rfl, txnText_sample, mentioned, ?_⟩
  decide +kernel

/-- "received Tk " -/
def signedLead : List Char := "received".toList ++ ([' '] ++ ("Tk".toList ++ [' ']))

theorem recognised_iff_sample :
    Recognised sampleCrates ([] ++ (signedLead ++ ("500".toList ++ " TrxID ABC".toList)))
      "500".toList := by
  have blank : Blank [' '] := List.all_eq_true.mp rfl
  have introduced : Introduces .receivedTk signedLead :=
    .receivedTk spelled_self blank spelled_self blank
  have mentioned : Mentions ([] ++ (signedLead ++ ("500".toList ++ " TrxID ABC".toList)))
      "ABC".toList := by
    rw [← List.append_assoc signedLead]
    exact mentions_sample
  exact (recognised_iff (fun _ _ => rfl) unintroduced_nil introduced amountText_sample
    (amountEnds_blank fun _ _ => rfl) txnText_sample mentioned).mpr (.inl rfl)

end Recognition

end SpritexPay
