import SpritexPay.ApiProperties
import SpritexPay.Resumption.Invariant

/-! The statements of the checkouts that the engine opens for itself, in order.
They carry no URLs, so the host whitelist is not looked at. -/

set_option autoImplicit false

namespace SpritexPay

open Binary64 Resumption

namespace Checkout

def opened (baseUrl : String) (uuids : CheckoutUuids) : CheckoutCreated where
  sapId := "pay_" ++ uuids.payRef
  sapUrl := trimEndSlashes baseUrl ++ "/pay/" ++ ("pay_" ++ uuids.payRef)

def chargeable (amount : F64) : Bool := amount.isFinite && !amount.nonPositive

/-- A checkout without URLs inserts one charge. -/
theorem run_createCheckout {baseUrl : String} {uuids : CheckoutUuids} {req : CreateCheckout}
    (returnUrl : req.returnUrl = none) (webhookUrl : req.webhookUrl = none) :
    (createCheckout baseUrl uuids req).run =
      if chargeable req.amount then
        .issue (.insertCharge (newCharge uuids req)) (.error ∘ .db) fun _ =>
          .done (.ok (opened baseUrl uuids))
      else .done (.error .invalidAmount) := by
  have unlisted : urlsAllowed req = (do
      if ← (pure true : Query SqlError Bool) then pure true else return false) := by
    simp only [urlsAllowed, returnUrl, webhookUrl, Domain.isAllowed]
  cases accepted : chargeable req.amount with
  | false =>
      have refused : (!req.amount.isFinite || req.amount.nonPositive) = true := by
        simpa [chargeable, or_iff_not_imp_left] using accepted
      unfold createCheckout
      rw [if_pos refused]
      rfl
  | true =>
      have fine : (!req.amount.isFinite || req.amount.nonPositive) = false := by
        simpa [chargeable] using accepted
      unfold createCheckout
      rw [fine, unlisted]
      refine Program.stmt_congr fun inserted => ?_
      cases inserted <;> rfl

end Checkout

namespace Invoice

def collect (baseUrl : String) (uuids : CheckoutUuids) (id : String) (invoice : Invoice) :
    Program signature (Except InvoiceError CheckoutCreated) :=
  if Checkout.chargeable (checkoutRequest invoice).amount then
    .issue (.insertCharge (Checkout.newCharge uuids (checkoutRequest invoice)))
      (.error ∘ .db) fun _ =>
      .issue (.chargeIdByPayRef ("pay_" ++ uuids.payRef)) (.error ∘ .db) fun chargeId =>
        .issue (.linkInvoice id ("pay_" ++ uuids.payRef) chargeId) (.error ∘ .db) fun _ =>
          .done (.ok (Checkout.opened baseUrl uuids))
  else .done (.error .invalidAmount)

theorem run_issuePayment (baseUrl : String) (uuids : CheckoutUuids) (id : String) :
    (issuePayment baseUrl uuids id).run =
      .issue (.invoiceById id) (.error ∘ .db) fun found =>
        found.elim (.done (.error .notFound)) (collect baseUrl uuids id) := by
  refine Program.stmt_congr fun found => ?_
  rcases found with error | found
  · rfl
  cases found with
  | none => rfl
  | some invoice =>
      refine (run_adapt_bind _ _ _).trans ?_
      change _ = collect baseUrl uuids id invoice
      rw [Checkout.run_createCheckout rfl rfl, collect]
      split
      · refine Program.stmt_congr fun inserted => ?_
        rcases inserted with error | _
        · rfl
        · refine Program.stmt_congr fun chargeId => ?_
          rcases chargeId with error | chargeId
          · rfl
          · refine Program.stmt_congr fun linked => ?_
            cases linked <;> rfl
      · rfl

end Invoice

namespace PaymentLink

def mint (baseUrl : String) (uuids : CheckoutUuids) (link : PaymentLink) (amountMinor : Int64) :
    Program signature (Except LinkError CheckoutCreated) :=
  if Checkout.chargeable (checkoutRequest link amountMinor).amount then
    .issue (.insertCharge (Checkout.newCharge uuids (checkoutRequest link amountMinor)))
      (fun _ => .error .amountRequired) fun _ => .done (.ok (Checkout.opened baseUrl uuids))
  else .done (.error .amountRequired)

def limited (link : PaymentLink) : Bool := link.quantity.any (0 < ·)

def take (baseUrl : String) (uuids : CheckoutUuids) (ref : String) (link : PaymentLink)
    (amountMinor : Int64) : Program signature (Except LinkError CheckoutCreated) :=
  if limited link then
    .issue (.takeLinkUse ref) (.error ∘ .db) fun _ => mint baseUrl uuids link amountMinor
  else mint baseUrl uuids link amountMinor

/-- What opening does with the link it has loaded. -/
def useLink (baseUrl : String) (uuids : CheckoutUuids) (ref : String)
    (amountOverride : Option Int64) (link : PaymentLink) :
    Program signature (Except LinkError CheckoutCreated) :=
  if link.status ≠ .active then .done (.error .inactive)
  else (link.amountMinor.or amountOverride).elim (.done (.error .amountRequired))
    (take baseUrl uuids ref link)

theorem run_mint (baseUrl : String) (uuids : CheckoutUuids) (link : PaymentLink)
    (amountMinor : Int64) :
    ((Checkout.createCheckout baseUrl uuids (checkoutRequest link amountMinor)).adapt
      fun _ => LinkError.amountRequired).run = mint baseUrl uuids link amountMinor := by
  rw [run_adapt, Checkout.run_createCheckout rfl rfl, mint]
  split
  · refine Program.stmt_congr fun inserted => ?_
    cases inserted <;> rfl
  · rfl

theorem run_consumeUse_bind {Value : Type} (ref : String) (quantity : Option Int)
    (rest : Query LinkError Value) :
    (consumeUse ref quantity >>= fun _ => rest).run =
      if quantity.any (0 < ·) then
        .issue (.takeLinkUse ref) (.error ∘ .db) fun _ => rest.run
      else rest.run := by
  cases quantity with
  | none => rfl
  | some quantity =>
      by_cases limited : 0 < quantity
      · simp only [consumeUse, limited, if_true, Option.any_some, decide_true]
        refine Program.stmt_congr fun taken => ?_
        cases taken <;> rfl
      · simp only [consumeUse, limited, if_false, Option.any_some, decide_false, Bool.false_eq_true]
        rfl

theorem run_openLink (baseUrl : String) (uuids : CheckoutUuids) (ref : String)
    (amountOverride : Option Int64) : (openLink baseUrl uuids ref amountOverride).run =
      .issue (.linkByRef ref) (.error ∘ .db) fun found =>
        found.elim (.done (.error .notFound)) (useLink baseUrl uuids ref amountOverride) := by
  refine Program.stmt_congr fun found => ?_
  rcases found with error | found
  · rfl
  cases found with
  | none => rfl
  | some link =>
      change _ = useLink baseUrl uuids ref amountOverride link
      rw [useLink]
      by_cases inactive : link.status ≠ .active
      · rw [if_pos inactive]
        exact congrArg ExceptT.run (if_pos inactive)
      · rw [if_neg inactive]
        refine (congrArg ExceptT.run (if_neg inactive)).trans ?_
        cases link.amountMinor.or amountOverride with
        | none => rfl
        | some amountMinor =>
            refine (run_consumeUse_bind ref link.quantity _).trans ?_
            rw [run_mint]
            rfl

end PaymentLink

end SpritexPay
