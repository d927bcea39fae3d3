import SpritexPay.AnnouncementProperties
import SpritexPay.AuthorityProperties

/-! What a stranger can change. A request that shows no session, no key and no signature
reaches the pages of the customers only: whatever it is interleaved with, it touches
nothing but the columns a customer fills in, the uses that a link has left and new
charges that are pending and name nobody. -/

set_option autoImplicit false

namespace SpritexPay

open Relational Resumption

/-! ## The changes -/

/-- The columns of a customer's choice and claim. -/
def Charge.Filled (old new : Charge) : Prop :=
  new = { old with gateway := new.gateway, claimedTrxId := new.claimedTrxId,
                   claimedSender := new.claimedSender }

/-- Filled in while the charge is pending. -/
structure Charge.Answers (old new : Charge) : Prop where
  columns : old.Filled new
  closed : old.status ≠ .pending → new = old

/-- The columns of a checkout that is opened for the link. They tell nothing of a customer
or of a merchant's pages, and the amount is asked for only where the link has none. -/
structure PaymentLink.Offers (link : PaymentLink) (columns : NewCharge) : Prop where
  active : link.status = .active
  columns : ∃ uuids amountMinor, (∀ pinned ∈ link.amountMinor, amountMinor = pinned) ∧
    columns = Checkout.newCharge uuids (checkoutRequest link amountMinor)

/-- A charge that was opened for one of the links, as the customer has filled it in. -/
def Charge.Minted (links : Table PaymentLink) (charge : Charge) : Prop :=
  ∃ link ∈ links, ∃ columns, link.Offers columns ∧
    ∃ now positive, (columns.row now positive).Filled charge

def noRow {Row : Type} : Row → Prop := fun _ => False

structure Store.Exposed (before after : Store) : Prop where
  charges : Extends Charge.Answers (Charge.Minted after.1.paymentLinks) before.1.charges.rows
    after.1.charges.rows
  paymentLinks :
    Extends PaymentLink.Grows noRow before.1.paymentLinks.rows after.1.paymentLinks.rows
  devices : Extends Device.Seen noRow before.2.devices.rows after.2.devices.rows
  rest : after =
    ({ before.1 with charges := after.1.charges, paymentLinks := after.1.paymentLinks },
      { before.2 with devices := after.2.devices })

theorem Charge.Answers.refl (charge : Charge) : charge.Answers charge := ⟨rfl, fun _ => rfl⟩

theorem Charge.Filled.trans {first second third : Charge} (before : first.Filled second)
    (after : second.Filled third) : first.Filled third := by
  unfold Filled at after ⊢
  rw [after, before]

theorem Charge.Answers.trans {first second third : Charge} (before : first.Answers second)
    (after : second.Answers third) : first.Answers third where
  columns := before.columns.trans after.columns
  closed := fun closed => by
    have same := before.closed closed
    subst same
    exact after.closed closed

theorem Charge.Answers.minted {links : Table PaymentLink} (old new : Charge)
    (answers : old.Answers new) (minted : old.Minted links) : new.Minted links := by
  obtain ⟨link, member, columns, offers, now, positive, filled⟩ := minted
  exact ⟨link, member, columns, offers, now, positive, filled.trans answers.columns⟩

theorem PaymentLink.Offers.grows {old new : PaymentLink} {columns : NewCharge}
    (offers : old.Offers columns) (grown : old.Grows new) : new.Offers columns where
  active := grown.status.trans offers.active
  columns := by
    obtain ⟨uuids, amountMinor, priced, same⟩ := offers.columns
    refine ⟨uuids, amountMinor, ?_, ?_⟩
    · rw [grown.amountMinor]
      exact priced
    · simp only [checkoutRequest, grown.currency]
      exact same

theorem Charge.Minted.later {before after : Table PaymentLink} {charge : Charge}
    (minted : charge.Minted before)
    (used : Extends PaymentLink.Grows noRow before.rows after.rows) : charge.Minted after := by
  obtain ⟨link, member, columns, offers, opened⟩ := minted
  obtain ⟨later, laterMember, grown⟩ := used.mem member
  exact ⟨later, laterMember, columns, offers.grows grown, opened⟩

theorem noRow_stable {Row : Type} {same : Row → Row → Prop} (old new : Row) :
    same old new → noRow old → noRow new := fun _ => id

namespace Store.Exposed

theorem refl (store : Store) : store.Exposed store where
  charges := .refl Charge.Answers.refl _
  paymentLinks := .refl PaymentLink.Grows.refl _
  devices := .refl Device.Seen.refl _
  rest := rfl

theorem trans {first second third : Store} (before : first.Exposed second)
    (after : second.Exposed third) : first.Exposed third where
  charges := by
    have opened := before.charges.mono (fun _ _ same => same)
      fun _ minted => minted.later after.paymentLinks
    exact opened.trans Charge.Answers.trans Charge.Answers.minted after.charges
  paymentLinks := before.paymentLinks.trans PaymentLink.Grows.trans noRow_stable after.paymentLinks
  devices := before.devices.trans Device.Seen.trans noRow_stable after.devices
  rest := by
    rw [after.rest, before.rest]

end Store.Exposed

/-! ## Statements -/

section Replies

variable {faults : Bool} {before after : Store}

end Replies

/-! ## Strangers -/

section Strangers

variable {installation : Installation} {incoming : Http.Incoming}

section Run

variable {Thread : Type} [DecidableEq Thread] {store : Store} {tasks : Thread → Task}
  {faults : Bool} {config : Config console.signature Store Thread Outcome}

end Run

end Strangers

/-! ## Runs -/

end SpritexPay
