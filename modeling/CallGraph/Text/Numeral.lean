/-!
# Numerals

Numbers as digits write them, in any base up to sixteen.
-/

namespace CallGraph.Text

/-- The value of a digit, in either case. -/
def digitValue? (c : Char) : Option Nat :=
  if '0' ≤ c ∧ c ≤ '9' then some (c.toNat - 0x30)
  else if 'a' ≤ c ∧ c ≤ 'f' then some (c.toNat - 0x57)
  else if 'A' ≤ c ∧ c ≤ 'F' then some (c.toNat - 0x37)
  else none

/-- The number that digits of a base write; no digits write zero. -/
def number? (base : Nat) (digits : List Char) : Option Nat :=
  digits.foldlM (fun n c =>
    match digitValue? c with
    | some d => if d < base then some (n * base + d) else none
    | none => none) 0

/-- All characters are decimal digits, and there is one. -/
def isDecimal (cs : List Char) : Bool := !cs.isEmpty && cs.all Char.isDigit

end CallGraph.Text
