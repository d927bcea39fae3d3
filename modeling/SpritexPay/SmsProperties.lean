import SpritexPay.Sms
import SpritexPay.SettlementProperties

/-! The statements of an ingested message in order. Parsing is decided by the
request alone; after it comes one fixed line of statements, each of which ends
the request when it fails. -/

set_option autoImplicit false

namespace SpritexPay

open Relational Resumption

namespace Ledger

theorem sum_settlementEntries (charge : Charge) :
    (Charge.settlementEntries charge).foldl (fun total entry => total + entry.amountMinor) 0 =
      0 := by
  simp [Charge.settlementEntries, Entry.debit, Entry.credit, Int64.add_right_neg]

theorem post_settlementEntries (txnId reference memo : String) (charge : Charge) :
    post txnId reference memo (Charge.settlementEntries charge) =
      sql (.ledgerTransaction
        (Db.postingWrites txnId reference memo (Charge.settlementEntries charge))) := by
  have enough : ¬(Charge.settlementEntries charge).length < 2 := by
    simp [Charge.settlementEntries]
  have balanced := sum_settlementEntries charge
  simp only [post, if_neg enough, balanced, ne_eq, not_true_eq_false, if_false,
    Db.postingWrites]

end Ledger

namespace Charge

variable (crates : Crates) (uuids : SettlementUuids) (id : String)

theorem run_notifyPaid (uuid : String) (charge : Charge) :
    (notifyPaid crates uuid charge).run =
      match charge.callbackUrl with
      | none => .done (.ok ())
      | some url =>
          .issue (.insertWebhook
            { id := "whd_" ++ uuid, chargeId := charge.id, url,
              payload := paidPayload crates charge, event := "charge.paid" })
            (.error ∘ .db) fun _ => .done (.ok ()) := by
  unfold notifyPaid
  cases charge.callbackUrl with
  | none => rfl
  | some url =>
      refine Program.stmt_congr fun reply => ?_
      cases reply <;> rfl

def settleFound (charge : Charge) : Program signature (Except ChargeError Unit) :=
  .issue (.ledgerTransaction (Db.postingWrites ("ltx_" ++ uuids.ledger) charge.id
      (settlementMemo charge) (settlementEntries charge))) (.error ∘ .db) fun _ =>
    .issue (.setChargePaid id) (.error ∘ .db) fun _ =>
      .issue (.settleInvoices id) (.error ∘ .db) fun _ =>
        (notifyPaid crates uuids.webhook charge).run

/-- `markPaid` as a line of statements, each of which ends it when it fails. -/
theorem run_markPaid : (markPaid crates uuids id).run =
    .issue (.chargeById id) (.error ∘ .db) fun found =>
      found.elim (.done (.error .notFound)) (settleFound crates uuids id) := by
  unfold markPaid
  simp only [Ledger.post_settlementEntries]
  refine Program.stmt_congr fun found => ?_
  rcases found with error | answer
  · rfl
  cases answer with
  | none => rfl
  | some charge =>
      refine Program.stmt_congr fun posted => ?_
      cases posted with
      | error error => rfl
      | ok _ =>
          refine Program.stmt_congr fun paid => ?_
          cases paid with
          | error error => rfl
          | ok _ =>
              refine Program.stmt_congr fun settled => ?_
              cases settled <;> rfl

end Charge

namespace Sms

variable (crates : Crates) (replies : List ProviderReply) (uuids : IngestUuids)

theorem mem_of_pick {sender : Option String} {candidates : List (String × Option String)}
    {chargeId : String} (picked : pick sender candidates = some chargeId) :
    ∃ candidate ∈ candidates, candidate.1 = chargeId := by
  unfold pick at picked
  split at picked
  · cases picked
  · rename_i candidate
    exact ⟨candidate, by simp, Option.some.inj picked⟩
  · split at picked
    · cases picked
    · rename_i sender _
      split at picked
      · rename_i candidate single
        have member : candidate ∈ candidates.filter (declares sender) := by simp [single]
        exact ⟨candidate, (List.mem_filter.mp member).1, Option.some.inj picked⟩
      · cases picked

def extracted (gateway : Gateway) : List ProviderReply → Except Panic (Option ParsedTxn)
  | [] => .ok none
  | reply :: rest =>
      match reply.content with
      | none => extracted gateway rest
      | some content =>
          match parseExtraction crates gateway content with
          | .error panic => .error panic
          | .ok (some parsed) => .ok (some parsed)
          | .ok none => extracted gateway rest

/-- What parsing comes to. The database has no part in it. -/
def parsed (gateway : Gateway) (rawBody : String) :
    Except IngestError (ParsedTxn × ParseSource) :=
  match gateway.parseSms crates rawBody with
  | .ok parsed => .ok (parsed, .regex)
  | .error regexError =>
      match extracted crates gateway replies with
      | .error _ => .error .panicked
      | .ok (some parsed) => .ok (parsed, .ai)
      | .ok none => .error (.parse regexError)

def transaction (gw rawBody : String) : Option ParsedTxn :=
  (resolve gw).bind fun gateway => (parsed crates replies gateway rawBody).toOption.map (·.1)

def isAiParse : Statement → Prop
  | .insertAiParse _ => True
  | _ => False

theorem uses_extract (gateway : Gateway) (rawBody rawSha256 : String) :
    (extract crates gateway rawBody rawSha256 replies).run.Uses isAiParse
      (· = extracted crates gateway replies) := by
  induction replies with
  | nil => rfl
  | cons reply rest ih =>
      simp only [extract, extracted]
      cases reply.content with
      | none => exact ⟨trivial, fun _ => ih⟩
      | some content =>
          simp only
          cases parseExtraction crates gateway content with
          | error panic => rfl
          | ok parsed =>
              cases parsed with
              | none => exact ⟨trivial, fun _ => ih⟩
              | some txn => exact ⟨trivial, fun _ => rfl⟩

theorem uses_parse (gateway : Gateway) (rawBody rawSha256 : String) :
    (parse crates replies gateway rawBody rawSha256).run.Uses isAiParse
      (· = parsed crates replies gateway rawBody) := by
  unfold parse parsed
  cases gateway.parseSms crates rawBody with
  | ok parsed => rfl
  | error regexError =>
      have adapted : ((extract crates gateway rawBody rawSha256 replies).adapt
          fun _ => IngestError.panicked).run.Uses isAiParse
            (· = (extracted crates gateway replies).mapError fun _ => .panicked) := by
        refine uses_adapt ((uses_extract crates replies gateway rawBody rawSha256).mono
          (fun _ allowed => allowed) ?_)
        rintro _ rfl
        rfl
      refine uses_bind adapted ?_ ?_
      · intro found ended
        cases outcome : extracted crates gateway replies with
        | error panic => simp [outcome, Except.mapError] at ended
        | ok extraction =>
            simp only [outcome, Except.mapError, Except.ok.injEq] at ended
            subst ended
            cases found <;> rfl
      · intro failure ended
        cases outcome : extracted crates gateway replies with
        | error panic => simpa [outcome, Except.mapError] using ended
        | ok extraction => simp [outcome, Except.mapError] at ended

def conclude (txnId : String) : Option String → Program signature (Except IngestError Ingested)
  | none => .done (.ok { smsEventId := "sms_" ++ uuids.event, txnId, matchedCharge := none })
  | some chargeId =>
      (Charge.markPaid crates uuids.settlement chargeId).run >>= fun outcome =>
        .done ((outcome.mapError IngestError.charge).map fun _ =>
          { smsEventId := "sms_" ++ uuids.event, txnId, matchedCharge := some chargeId })

def refusal : SqlError → IngestError
  | .uniqueViolation => .duplicate
  | error => .db error

theorem run_record (rawSha256 : String) (parsed : ParsedTxn) (source : ParseSource) :
    (record crates uuids rawSha256 parsed source).run =
      .issue (.pendingByAmount parsed.amountMinor) (.error ∘ .db) fun candidates =>
        .issue (.insertSmsEvent (newSmsEvent uuids rawSha256 parsed source
            (pick parsed.senderMsisdn candidates))) (.error ∘ refusal) fun _ =>
          conclude crates uuids parsed.txnId (pick parsed.senderMsisdn candidates) := by
  refine Program.stmt_congr fun found => ?_
  cases found with
  | error error => rfl
  | ok candidates =>
      refine Program.stmt_congr fun recorded => ?_
      cases recorded with
      | error error => cases error <;> rfl
      | ok _ =>
          cases pick parsed.senderMsisdn candidates with
          | none => rfl
          | some chargeId =>
              refine (Program.bind_assoc (Charge.markPaid crates uuids.settlement chargeId).run
                _ _).trans (Program.bind_congr fun outcome => ?_)
              cases outcome <;> rfl

theorem run_ingest (gw rawBody : String) : (ingest crates replies uuids gw rawBody).run =
    match resolve gw with
    | none => .done (.error .unknownGateway)
    | some gateway =>
        (parse crates replies gateway rawBody (crates.sign "sms-audit" rawBody)).run >>= fun
        | .ok (parsed, source) =>
            (record crates uuids (crates.sign "sms-audit" rawBody) parsed source).run
        | .error error => .done (.error error) := by
  unfold ingest
  cases resolve gw with
  | none => rfl
  | some gateway =>
      refine Program.bind_congr fun outcome => ?_
      cases outcome <;> rfl

end Sms

end SpritexPay
