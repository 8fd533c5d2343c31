import CallGraph.Text.CombiningClass
import CallGraph.Text.Composite

/-!
# Composed texts

The same text can be written with composites or with their parts, and with marks in different
orders. `compose` chooses one way: everything is taken apart, marks are brought into the order of
their classes, and what can be put together again is.
-/

namespace CallGraph.Text

/-! ## Taking apart -/

/-- Composites are nested no deeper than this. -/
def compositeDepth : Nat := 4

/-- Takes a character apart; its first part may be a composite again. -/
def decompose : (depth : Nat) → Char → List Char
  | 0, c => [c]
  | depth + 1, c =>
    match parts? c with
    | none => [c]
    | some (a, b) => decompose depth a ++ [b]

/-! ## Order of marks -/

/-- Puts a character in front of a text, behind the marks of lower classes that it begins with. -/
def place (c : Char) : List Char → List Char
  | [] => [c]
  | d :: cs =>
    if 0 < combiningClass d ∧ combiningClass d < combiningClass c then d :: place c cs
    else c :: d :: cs

/-- Brings the marks after each letter into the order of their classes. -/
def orderMarks (cs : List Char) : List Char := cs.foldr place []

/-! ## Putting together -/

/-- A text that is being composed. -/
structure Composing where
  /-- What is done, the last character first. -/
  done : List Char := []
  /-- The last character of class 0, with what was composed into it. -/
  base : Option Char := none
  /-- The marks after it that were not composed, the last one first. -/
  marks : List Char := []

namespace Composing

/-- All characters, the last one first. -/
def all (s : Composing) : List Char := s.marks ++ s.base.toList ++ s.done

/-- No mark stands between the base and a character that keeps them apart. -/
def reaches (s : Composing) (c : Char) : Bool :=
  match s.marks with
  | [] => true
  | last :: _ => decide (combiningClass last < combiningClass c)

/-- Adds a character: to the base if they compose, else after it. -/
def push (s : Composing) (c : Char) : Composing :=
  match s.base.bind fun base => if s.reaches c then composite? base c else none with
  | some composed => { s with base := some composed }
  | none =>
    if combiningClass c = 0 then { done := s.all, base := some c }
    else { s with marks := c :: s.marks }

end Composing

/-- The composed form of a text. -/
def compose (cs : List Char) : List Char :=
  let ordered := orderMarks (cs.flatMap (decompose compositeDepth))
  (ordered.foldl Composing.push {}).all.reverse

/-- The text is composed. -/
def isComposed (cs : List Char) : Bool := compose cs = cs

end CallGraph.Text
