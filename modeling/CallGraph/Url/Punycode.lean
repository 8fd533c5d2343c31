/-!
# Labels outside ASCII

A label of a domain name that is not ASCII is written as its ASCII characters and a list of
insertions: the other characters in ascending order, each as the number of steps that a search for
its place takes. The numbers have digits of base 36 with thresholds that adapt to their size.

Every loop has a measure: `adaptLoop` and `digits` make their number smaller, `insertions` uses up
the list of characters to insert, and reading uses up what is read.

* `encode` writes a label and `decode?` reads it.
-/

namespace CallGraph.Url.Punycode

/-- A digit below 36: letters first. -/
def digit (d : Nat) : Char := Char.ofNat (if d < 26 then 0x61 + d else 0x16 + d)

/-- The threshold of the digit at position `k`. -/
def threshold (k bias : Nat) : Nat :=
  if k ≤ bias then 1 else if bias + 26 ≤ k then 26 else k - bias

theorem threshold_pos (k bias : Nat) : 1 ≤ threshold k bias := by
  unfold threshold
  split
  · omega
  · split <;> omega

/-- Scales a number of steps down, counting the scalings in steps of 36. -/
def adaptLoop (delta k : Nat) : Nat × Nat :=
  if 455 < delta then adaptLoop (delta / 35) (k + 36) else (delta, k)
termination_by delta
decreasing_by exact Nat.div_lt_self (by omega) (by omega)

/-- The bias after an insertion that took `delta` steps; `count` characters are written by then. -/
def adapt (delta count : Nat) (isFirst : Bool) : Nat :=
  let scaled := if isFirst then delta / 700 else delta / 2
  let (rest, k) := adaptLoop (scaled + scaled / count) 0
  k + 36 * rest / (rest + 38)

/-- The digits of a number, the lowest first. -/
def digits (bias k q : Nat) : List Char :=
  let t := threshold k bias
  if q < t then [digit q]
  else digit (t + (q - t) % (36 - t)) :: digits bias (k + 36) ((q - t) / (36 - t))
termination_by q
decreasing_by
  have hpos := threshold_pos k bias
  have hle := Nat.div_le_self (q - threshold k bias) (36 - threshold k bias)
  omega

/-- The state of writing: the text so far, the steps since the last insertion, the bias, and how
many characters are written. -/
structure State where
  text : List Char
  delta : Nat
  bias : Nat
  count : Nat

/-- Looks at one character of the label while `m` is inserted; `basic` characters are ASCII. -/
def scan (basic m : Nat) (s : State) (c : Char) : State :=
  if c.toNat < m then { s with delta := s.delta + 1 }
  else if c.toNat = m then
    { text := s.text ++ digits s.bias 36 s.delta
      delta := 0
      bias := adapt s.delta (s.count + 1) (s.count = basic)
      count := s.count + 1 }
  else s

/-- Writes the insertions of the characters in a list; `n` is the next one that could occur. -/
def insertions (label : List Char) (basic : Nat) : List Nat → Nat → State → State
  | [], _, s => s
  | m :: rest, n, s =>
    let s := { s with delta := s.delta + (m - n) * (s.count + 1) }
    let s := label.foldl (scan basic m) s
    insertions label basic rest (m + 1) { s with delta := s.delta + 1 }

/-- The characters of a label outside ASCII, in ascending order. -/
def others (label : List Char) : List Nat :=
  ((label.map Char.toNat).filter (0x80 ≤ ·)).mergeSort.eraseDups

/-- Writes a label. -/
def encode (label : List Char) : List Char :=
  let basic := label.filter (·.toNat < 0x80)
  let head := if basic.isEmpty then [] else basic ++ ['-']
  (insertions label basic.length (others label) 0x80 ⟨head, 0, 72, basic.length⟩).text

/-! ## Reading -/

/-- The value of a digit, in either case. -/
def digitValue? (c : Char) : Option Nat :=
  if c.isLower then some (c.toNat - 0x61)
  else if c.isUpper then some (c.toNat - 0x41)
  else if c.isDigit then some (c.toNat - 0x16)
  else none

/-- Reads a number, whose digit at position `k` counts `weight` times, and adds it to `sum`. -/
def readNumber? (bias : Nat) : List Char → (k weight sum : Nat) → Option (Nat × List Char)
  | [], _, _, _ => none
  | c :: cs, k, weight, sum =>
    match digitValue? c with
    | none => none
    | some d =>
      let t := threshold k bias
      if d < t then some (sum + d * weight, cs)
      else readNumber? bias cs (k + 36) (weight * (36 - t)) (sum + d * weight)

/-- A number takes at least one digit. -/
theorem length_lt_of_readNumber? {bias : Nat} {cs rest : List Char} {k weight sum n : Nat}
    (h : readNumber? bias cs k weight sum = some (n, rest)) : rest.length < cs.length := by
  fun_induction readNumber? bias cs k weight sum with
  | case1 => cases h
  | case2 => cases h
  | case3 =>
    cases h
    exact Nat.lt_succ_self _
  | case4 _ _ _ _ _ _ _ _ _ ih => exact Nat.lt_succ_of_lt (ih h)

/-- The character is one: its code is in range and no surrogate. -/
def isCharacter (code : Nat) : Bool :=
  decide (code < 0xD800 ∨ (0xDFFF < code ∧ code < 0x110000))

/-- Inserts characters into a text: `steps` were taken up to here, and `code` is the next character
that could occur. -/
def insert? (bias code steps : Nat) (text : List Char) (cs : List Char) : Option (List Char) :=
  if cs.isEmpty then some text
  else
    match _h : readNumber? bias cs 36 1 steps with
    | none => none
    | some (sum, rest) =>
      let count := text.length + 1
      let code := code + sum / count
      let place := sum % count
      if isCharacter code then
        insert? (adapt (sum - steps) count (steps = 0)) code (place + 1)
          (text.insertIdx place (Char.ofNat code)) rest
      else none
termination_by cs.length
decreasing_by exact length_lt_of_readNumber? _h

/-- The text before the last hyphen and that after it. A hyphen at the beginning does not count. -/
def splitBasic (cs : List Char) : List Char × List Char :=
  match cs.reverse.span (· ≠ '-') with
  | (after, _ :: first :: before) => ((first :: before).reverse, after.reverse)
  | _ => ([], cs)

/-- Reads a label. -/
def decode? (cs : List Char) : Option (List Char) :=
  let (basic, insertions) := splitBasic cs
  insert? 72 0x80 0 basic insertions

end CallGraph.Url.Punycode
