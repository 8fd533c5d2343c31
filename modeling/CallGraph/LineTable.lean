/-!
# Line number tables

A table lists the first code offset of each source line. `lineAt?` looks an offset up in a table
ordered by offset; `ofEntries` orders one.
-/

namespace CallGraph

/-- An entry of a line number table: the first offset of the code and its source line. -/
structure LineEntry where
  start : Nat
  line : Nat
deriving DecidableEq, Repr

namespace LineTable

/-- Orders entries by offset; entries of one offset keep their order. -/
def ofEntries (entries : List LineEntry) : List LineEntry :=
  entries.mergeSort fun a b => decide (a.start ≤ b.start)

/-- The line of an offset: that of the last entry before the first one that starts later. -/
def lineAt? (table : List LineEntry) (offset : Nat) : Option Nat :=
  ((table.takeWhile fun entry => decide (entry.start ≤ offset)).getLast?).map LineEntry.line

end LineTable

end CallGraph
