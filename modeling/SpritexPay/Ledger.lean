import SpritexPay.Statement

/-! The double-entry ledger. Debits are positive and credits negative, and a
transaction is posted only when its entries sum to zero. -/

set_option autoImplicit false

namespace SpritexPay

open Resumption

namespace Entry

def debit (account : String) (amountMinor : Int64) (currency : String) : Entry :=
  { account, amountMinor, currency }

def credit (account : String) (amountMinor : Int64) (currency : String) : Entry :=
  { account, amountMinor := -amountMinor, currency }

end Entry

inductive LedgerError where
  | unbalanced (sum : Int64)
  | tooFewEntries
  | db (error : SqlError)
  deriving DecidableEq

instance : FromError SqlError LedgerError := ⟨.db⟩

namespace Ledger

/-- Post a balanced transaction. The rows are written in one database
transaction, so a partial write can never leave the ledger unbalanced. -/
def post (txnId reference memo : String) (entries : List Entry) : Query LedgerError Unit :=
  if entries.length < 2 then throw .tooFewEntries
  else
    let sum := entries.foldl (fun total entry => total + entry.amountMinor) 0
    if sum ≠ 0 then throw (.unbalanced sum)
    else
      sql (.ledgerTransaction
        (.insertTransaction txnId reference memo :: entries.map (.insertEntry txnId)))

def accountBalance (account : String) : Query SqlError Int64 := sql (.accountBalance account)

end Ledger

end SpritexPay
