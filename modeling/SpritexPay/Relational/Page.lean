import Mathlib.Data.List.Basic
import Mathlib.Order.Lattice

/-! Pages of a table: its rows by a time, the newest first, up to a limit. Which of
two rows of one time comes first makes no difference to what is said here. -/

set_option autoImplicit false

namespace SpritexPay.Relational

variable {Row Time : Type} [LinearOrder Time]

/-- `LIMIT`. A negative limit is none to SQLite. -/
def limited (limit : Int) (rows : List Row) : List Row :=
  if limit < 0 then rows else rows.take limit.toNat

/-- `ORDER BY time DESC` -/
def newestFirst (time : Row → Time) (rows : List Row) : List Row :=
  rows.mergeSort fun left right => decide (time right ≤ time left)

section Sorted

variable {time : Row → Time} {rows sorted : List Row}

end Sorted

end SpritexPay.Relational
