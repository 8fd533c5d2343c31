import CallGraph.Text.Affix
import CallGraph.Text.Numeral

/-!
# Tables of characters

What is known of each character is written down as a table: rows in ascending order, each for a
range of characters that are treated alike. As a text, a row is a character or a range in
hexadecimal digits, and what follows tells of its characters: `300-314>E6`, `C0>41,300`, `AD!`.

* `Table.ofText` reads a table, and `Table.find?` finds the row of a character.
-/

namespace CallGraph.Text

/-- What is told of the characters between `first` and `last`: a mark, if there is one, and
numbers. -/
structure Row where
  first : Nat
  last : Nat
  mark : Option Char := none
  values : List Nat := []
deriving DecidableEq, Repr

/-- Rows in ascending order. -/
abbrev Table := Array Row

/-! ## Reading -/

/-- Reads a row. -/
def Row.read? (s : String) : Option Row := do
  let (first, rest) := s.toList.span fun c => (digitValue? c).isSome
  let first ← number? 16 first
  let (last, rest) :=
    match rest with
    | '-' :: more => more.span fun c => (digitValue? c).isSome
    | more => ([], more)
  let last ← if last.isEmpty then some first else number? 16 last
  match rest with
  | [] => return { first, last }
  | mark :: [] => return { first, last, mark }
  | mark :: more =>
    let values ← (splitAt ',' (String.ofList more)).mapM fun value => number? 16 value.toList
    return { first, last, mark, values }

/-- Reads the rows of a table, which stand between blanks and line ends. -/
def Table.ofText (s : String) : Table :=
  ((splitAt ' ' (replace '\n' ' ' s)).filter (· ≠ "")).filterMap Row.read? |>.toArray

/-! ## Finding -/

/-- The row for a character among those from `low` up to `high`. Half of them are left at each
step. -/
def Table.findBetween? (table : Table) (c : Char) (low high : Nat) : Option Row :=
  if low < high then
    let middle := (low + high) / 2
    match table[middle]? with
    | none => none
    | some row =>
      if c.toNat < row.first then table.findBetween? c low middle
      else if row.last < c.toNat then table.findBetween? c (middle + 1) high
      else some row
  else none
termination_by high - low

/-- The row for a character. -/
def Table.find? (table : Table) (c : Char) : Option Row := table.findBetween? c 0 table.size

/-- There is a row for the character. -/
def Table.contains (table : Table) (c : Char) : Bool := (table.find? c).isSome

end CallGraph.Text
