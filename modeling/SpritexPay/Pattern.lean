import Mathlib.Data.List.Basic

/-! Search patterns with one capture group and the leftmost-first semantics:
the match that starts first wins, and among the matches that start there the
one a backtracking matcher reaches first, repetitions being greedy. -/

set_option autoImplicit false

namespace SpritexPay

inductive Pattern where
  | empty
  | one (accepts : Char → Bool)
  | many (accepts : Char → Bool)
  | seq (first second : Pattern)
  | alt (first second : Pattern)
  | group (body : Pattern)

namespace Pattern

variable {Result : Type}

/-- Take as many accepted characters as lets the rest of the match succeed. -/
def runMany (accepts : Char → Bool) :
    List Char → (List Char → Option Result) → Option Result
  | [], resume => resume []
  | head :: tail, resume =>
      if accepts head then (runMany accepts tail resume).or (resume (head :: tail))
      else resume (head :: tail)

/-- Match a prefix of the input. The continuation receives the rest of the
input and the text of the group, and may refuse them. -/
def run : Pattern → List Char → Option (List Char) →
    (List Char → Option (List Char) → Option Result) → Option Result
  | .empty, input, capture, resume => resume input capture
  | .one accepts, input, capture, resume =>
      match input with
      | [] => none
      | head :: tail => if accepts head then resume tail capture else none
  | .many accepts, input, capture, resume =>
      runMany accepts input fun rest => resume rest capture
  | .seq first second, input, capture, resume =>
      first.run input capture fun rest captured => second.run rest captured resume
  | .alt first second, input, capture, resume =>
      (first.run input capture resume).or (second.run input capture resume)
  | .group body, input, capture, resume =>
      body.run input capture fun rest _ =>
        resume rest (some (input.take (input.length - rest.length)))

def search (pattern : Pattern) : List Char → Option (Option (List Char))
  | [] => pattern.run [] none fun _ capture => some capture
  | head :: tail =>
      (pattern.run (head :: tail) none fun _ capture => some capture).or (pattern.search tail)

/-- `captures(text).map(|c| c[1].to_string())` for a pattern whose group takes
part in every match. -/
def captures (pattern : Pattern) (text : String) : Option String :=
  (pattern.search text.toList).join.map String.ofList

/-! ## Derived forms -/

def optional (body : Pattern) : Pattern := .alt body .empty

def some1 (accepts : Char → Bool) : Pattern := .seq (.one accepts) (.many accepts)

def times (accepts : Char → Bool) : Nat → Pattern
  | 0 => .empty
  | count + 1 => .seq (.one accepts) (times accepts count)

def concat : List Pattern → Pattern
  | [] => .empty
  | first :: rest => .seq first (concat rest)

/-! ## Character classes -/

/-- The other characters a letter matches without regard to case: its ASCII
counterpart, and the two letters outside ASCII that fold to an ASCII one. -/
def sameCase (letter char : Char) : Bool :=
  char.toLower == letter.toLower ||
    (letter.toLower == 'k' && char == '\u212A') ||
    (letter.toLower == 's' && char == '\u017F')

/-- A literal text under `(?i)`. -/
def word (text : String) : Pattern :=
  concat (text.toList.map fun letter => .one (sameCase letter))

/-- `\s` -/
def space (char : Char) : Bool :=
  let code := char.toNat
  (9 ≤ code && code ≤ 13) || code == 0x20 || code == 0x85 || code == 0xA0 ||
    code == 0x1680 || (0x2000 ≤ code && code ≤ 0x200A) || code == 0x2028 ||
    code == 0x2029 || code == 0x202F || code == 0x205F || code == 0x3000

/-- `[A-Z0-9]` under `(?i)` -/
def alphanumeric (char : Char) : Bool :=
  char.isAlphanum || char == '\u212A' || char == '\u017F'

/-- `[:\s]` -/
def colonOrSpace (char : Char) : Bool := char == ':' || space char

end Pattern

end SpritexPay
