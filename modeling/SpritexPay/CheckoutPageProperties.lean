import SpritexPay.Api
import SpritexPay.EscapeProperties

/-! Where the markup of a checkout page comes from. The template opens a fixed
number of tags for each receiver; all the others were stored by somebody. -/

set_option autoImplicit false

namespace SpritexPay.CheckoutPage

open Binary64 Relational Textual

/-- Where a tag or the end of a script element may start. -/
def tags (text : String) : Nat := occurrences '<' text

/-! ## The template -/

def chromeTags : Nat := literal '<' (chrome "" "")

def buttonTags : Nat := literal '<' (buttonPieces ⟨"", none, none⟩)

def bodyTags : Nat :=
  literal '<' (bodyPieces ⟨fun _ => false, fun _ => false⟩ ⟨"", 0, "", "", none, none, []⟩)

def optionTags (receivers : Nat) : Nat :=
  if receivers = 0 then tags unconfigured else receivers * buttonTags

/-- What the template has of its own on a page with so many receivers. -/
def templateTags (receivers : Nat) : Nat := chromeTags + (bodyTags + optionTags receivers)

/-! ## The arguments -/

theorem tags_esc (text : String) : tags (esc text) = 0 :=
  occurrences_eq_zero.mpr (escaped_not_mem_esc (.tail _ (.head _)) (by decide) text)

theorem not_mem_toString (number : Nat) : '<' ∉ (toString number).toList := by
  intro member
  rw [Nat.toString_eq_repr, Nat.toList_repr] at member
  have digit := Nat.isDigit_of_mem_toDigits (by decide) (by decide) member
  exact absurd digit (by decide)

theorem not_mem_toFixed2 (value : F64) : '<' ∉ value.toFixed2.toList := by
  cases value with
  | nan => decide
  | infinity negative => cases negative <;> decide
  | finite value representable =>
      have sign : ∀ negative : Prop, [Decidable negative] →
          '<' ∉ (if negative then "-" else "").toList := fun negative _ => by
        split <;> decide
      have zero : ∀ small : Prop, [Decidable small] →
          '<' ∉ (if small then "0" else "").toList := fun small _ => by
        split <;> decide
      have point : '<' ∉ ".".toList := by decide
      simp only [F64.toFixed2, String.toList_append, List.mem_append, not_or]
      exact ⟨⟨⟨⟨sign _, not_mem_toString _⟩, point⟩, zero _⟩, not_mem_toString _⟩

theorem tags_amount (view : PublicCharge) : tags (amount view) = 0 :=
  occurrences_eq_zero.mpr (not_mem_toFixed2 _)

theorem tags_symbol (view : PublicCharge) : tags (symbol view) = 0 := by
  unfold symbol
  split <;> rfl

theorem tags_debug (unicode : UnicodeTables) (text : String) :
    tags (debug unicode text) = tags text :=
  Plain.occurrences_debug (by decide) text

/-- The two names that are written differently have no tag in either spelling. -/
theorem tags_gatewayName (gateway : String) : tags (gatewayName gateway) = tags gateway := by
  have known : ∀ chars : List Char, chars.count '<' = 0 → tags (.ofList chars) = 0 :=
    fun chars none => (occurrences_ofList chars).trans none
  unfold gatewayName
  split
  · rename_i bkash
    rw [bkash]
    exact (known _ (by decide)).trans (known _ (by decide)).symm
  · split
    · rename_i nagad
      rw [nagad]
      exact (known _ (by decide)).trans (known _ (by decide)).symm
    · rfl

/-! ## The page -/

theorem tags_wrap (title inner : String) : tags (wrap title inner) = chromeTags + tags inner := by
  have own : literal '<' (chrome title inner) = chromeTags := by
    have same : template (chrome title inner) = template (chrome "" "") := by
      simp only [template, chrome, List.map_cons, List.map_nil]
    exact literal_congr same '<'
  have others : displayed '<' (chrome title inner) = tags (esc title) + tags inner := by
    simp only [chrome, displayed, tags, Nat.add_zero]
  rw [tags, wrap, occurrences_format, own, others, tags_esc, Nat.zero_add]

theorem tags_button (receiver : Receiver) :
    tags (button receiver) = buttonTags + tags receiver.gateway := by
  have own : literal '<' (buttonPieces receiver) = buttonTags := by
    have same : template (buttonPieces receiver) = template (buttonPieces ⟨"", none, none⟩) := by
      simp only [template, buttonPieces, List.map_cons, List.map_nil]
    exact literal_congr same '<'
  have others : displayed '<' (buttonPieces receiver) =
      tags (esc receiver.gateway) + (tags (esc (receiver.accountMsisdn.getD "")) +
        (tags (gatewayName receiver.gateway) + tags (esc (receiver.accountMsisdn.getD "")))) := by
    simp only [buttonPieces, displayed, tags, Nat.add_zero]
  rw [tags, button, occurrences_format, own, others, tags_esc, tags_esc, tags_gatewayName,
    Nat.zero_add, Nat.zero_add, Nat.add_zero]

theorem buttonTags_pos : 0 < buttonTags := by
  have opens : occurrences '<' "<button class=\"gw\" data-gateway=\"" = 1 :=
    (occurrences_ofList _).trans (by decide)
  simp only [buttonTags, buttonPieces, literal, opens]
  omega

theorem tags_buttons (receivers : List Receiver) :
    tags (.join (receivers.map button)) = receivers.length * buttonTags +
      (receivers.map fun receiver => tags receiver.gateway).sum := by
  have each : ∀ receivers : List Receiver, ((receivers.map button).map tags).sum =
      receivers.length * buttonTags +
        (receivers.map fun receiver => tags receiver.gateway).sum := by
    intro receivers
    induction receivers with
    | nil => simp
    | cons receiver rest ih =>
        simp only [List.map_cons, List.sum_cons, List.length_cons, Nat.add_mul, Nat.one_mul,
          ih, tags_button]
        omega
  rw [← each, tags, occurrences_join]
  rfl

theorem tags_options (receivers : List Receiver) :
    tags (options receivers) = optionTags receivers.length +
      (receivers.map fun receiver => tags receiver.gateway).sum := by
  have counted := tags_buttons receivers
  cases receivers with
  | nil => simp [options, optionTags]
  | cons receiver rest =>
      have shown : ¬(String.join ((receiver :: rest).map button)).isEmpty = true := by
        intro empty
        have positive := buttonTags_pos
        rw [String.isEmpty_iff.mp empty] at counted
        simp only [tags, occurrences_empty, List.length_cons, Nat.add_mul] at counted
        omega
      rw [options, if_neg shown, counted, optionTags, if_neg (by simp)]

/-- The stored texts that reach the page without being escaped. -/
def storedTags (view : PublicCharge) : Nat :=
  (view.receivers.map fun receiver => tags receiver.gateway).sum +
    (tags view.payRef + tags (view.returnUrl.getD ""))

theorem tags_body (unicode : UnicodeTables) (view : PublicCharge) :
    tags (body unicode view) =
      bodyTags + (optionTags view.receivers.length + storedTags view) := by
  have own : literal '<' (bodyPieces unicode view) = bodyTags := by
    refine literal_congr ?_ '<'
    simp only [template, bodyPieces, List.map_cons, List.map_nil]
  have others : displayed '<' (bodyPieces unicode view) =
      tags (symbol view) + (tags (amount view) + (tags (options view.receivers) +
        (tags (symbol view) + (tags (amount view) + (tags (debug unicode view.payRef) +
          tags (debug unicode (view.returnUrl.getD ""))))))) := by
    simp only [bodyPieces, displayed, tags, Nat.add_zero]
  rw [tags, body, occurrences_format, own, others, tags_symbol, tags_amount, tags_options,
    tags_debug, tags_debug, storedTags]
  omega

/-- Every `<` of a page is one of the template's or was stored. -/
theorem tags_render (unicode : UnicodeTables) (view : PublicCharge) :
    tags (render unicode view) = templateTags view.receivers.length + storedTags view := by
  rw [render, tags_wrap, tags_body, templateTags]
  omega

/-- No text that is shown as it was stored contains a `<`. -/
structure Untagged (view : PublicCharge) : Prop where
  gateways : ∀ receiver ∈ view.receivers, '<' ∉ receiver.gateway.toList
  payRef : '<' ∉ view.payRef.toList
  returnUrl : ∀ url, view.returnUrl = some url → '<' ∉ url.toList

theorem storedTags_eq_zero {view : PublicCharge} : storedTags view = 0 ↔ Untagged view := by
  have gateways : (view.receivers.map fun receiver => tags receiver.gateway).sum = 0 ↔
      ∀ receiver ∈ view.receivers, '<' ∉ receiver.gateway.toList := by
    simp [List.sum_eq_zero_iff, tags, occurrences_eq_zero]
  have returnUrl : tags (view.returnUrl.getD "") = 0 ↔
      ∀ url, view.returnUrl = some url → '<' ∉ url.toList := by
    cases view.returnUrl with
    | none => simp [tags]
    | some url => simp [tags, occurrences_eq_zero]
  rw [storedTags, Nat.add_eq_zero_iff, Nat.add_eq_zero_iff, gateways, returnUrl, tags,
    occurrences_eq_zero]
  exact ⟨fun ⟨first, second, third⟩ => ⟨first, second, third⟩,
    fun untagged => ⟨untagged.gateways, untagged.payRef, untagged.returnUrl⟩⟩

/-- The page has the tags of the template and no other exactly when none of the
texts that it shows unescaped contains one. -/
theorem injection_free_iff (unicode : UnicodeTables) (view : PublicCharge) :
    tags (render unicode view) = templateTags view.receivers.length ↔ Untagged view := by
  rw [tags_render, Nat.add_eq_left, storedTags_eq_zero]

/-! ## A stored script -/

def sampleUnicode : UnicodeTables := ⟨fun _ => false, fun _ => true⟩

/-- A checkout that returns to `url`, its page asked for by the public reference. -/
def returningTo (url : String) : Db :=
  sampleService.serve [.createCheckout ⟨"1", "1"⟩
    ⟨none, none, none, .ofRat 500, "BDT", some url, none, .null⟩] Db.empty

def registered (gateway : String) : Table GatewayConfig :=
  match GatewayConfig.register "1" ⟨gateway, none, none⟩ 1000 ∅ with
  | .ok (_, gateways) => gateways
  | .error _ => ∅

def sampleView (url gateway : String) : PublicCharge :=
  ⟨"pay_1", 50000, "BDT", "pending", none, some url, [⟨gateway, none, none⟩]⟩

def shopUrl : String := "https://shop.example/"

def scriptUrl : String := "https://shop.example/</script><script>alert(1)</script>"

def scriptGateway : String := "<img src=x onerror=alert(1)>"

theorem stored_script_served :
    (Http.checkoutPage sampleUnicode "pay_1" (returningTo scriptUrl).charges
        (registered "bkash") = (200, render sampleUnicode (sampleView scriptUrl "bkash")) ∧
      tags (render sampleUnicode (sampleView scriptUrl "bkash")) ≠ templateTags 1) ∧
    (Http.checkoutPage sampleUnicode "pay_1" (returningTo shopUrl).charges
        (registered scriptGateway) =
          (200, render sampleUnicode (sampleView shopUrl scriptGateway)) ∧
      tags (render sampleUnicode (sampleView shopUrl scriptGateway)) ≠ templateTags 1) := by
  have found : ∀ url gateway, Checkout.getPublicCharge "pay_1" (returningTo url).charges
      (registered gateway) = .ok (sampleView url gateway) → Http.checkoutPage sampleUnicode "pay_1"
        (returningTo url).charges (registered gateway) =
          (200, render sampleUnicode (sampleView url gateway)) :=
    fun url gateway found => by rw [Http.checkoutPage, found]
  have tagged : ∀ view, ¬Untagged view →
      tags (render sampleUnicode view) ≠ templateTags view.receivers.length := by
    intro view stored same
    rw [tags_render, Nat.add_eq_left] at same
    exact stored (storedTags_eq_zero.mp same)
  constructor
  · exact ⟨found _ _ (by decide +kernel),
      tagged _ fun untagged => untagged.returnUrl scriptUrl rfl (by decide)⟩
  · exact ⟨found _ _ (by decide +kernel),
      tagged _ fun untagged => untagged.gateways _ (List.mem_singleton.mpr rfl) (by decide)⟩

end SpritexPay.CheckoutPage
