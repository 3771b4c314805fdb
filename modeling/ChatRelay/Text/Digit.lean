/-!
# Numbers in text

- `digit?`: the value of a digit in a base up to 16.
- `number?`: the value of a non-empty text of digits.
- `numberUpTo?`: the same with a limit, which keeps reading a long text cheap.
-/

namespace ChatRelay.Text

/-- The value of a hexadecimal digit. -/
def hexDigit? (c : Char) : Option Nat :=
  if c.isDigit then some (c.toNat - '0'.toNat)
  else if 'a' ≤ c ∧ c ≤ 'f' then some (c.toNat - 'a'.toNat + 10)
  else if 'A' ≤ c ∧ c ≤ 'F' then some (c.toNat - 'A'.toNat + 10)
  else none

/-- The value of a digit in a base up to 16. -/
def digit? (base : Nat) (c : Char) : Option Nat := (hexDigit? c).filter (· < base)

/-- The value of a non-empty text of digits in a base up to 16. -/
def number? (base : Nat) (text : List Char) : Option Nat :=
  if text.isEmpty then none
  else text.foldlM (fun n c => (digit? base c).map (n * base + ·)) 0

/-- The value of a non-empty text of digits in a base up to 16, if it is at most `limit`. More digits make
no number smaller, so reading ends where the limit is passed. -/
def numberUpTo? (limit base : Nat) (text : List Char) : Option Nat :=
  if text.isEmpty then none
  else text.foldlM (fun n c => ((digit? base c).map (n * base + ·)).filter (· ≤ limit)) 0

end ChatRelay.Text
