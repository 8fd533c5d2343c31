/-!
# Texts in class files

A text is stored as UTF-8 or in a modified form in which NUL takes two bytes and a supplementary
character is a surrogate pair of two groups of three bytes. Bytes that are UTF-8 are read as such;
all others are read in the modified form, leniently: overlong groups stand for their code point,
and what is no character at all becomes a question mark.
-/

namespace CallGraph.ClassFile.Text

/-- A byte that continues a group. -/
def isContinuation (b : UInt8) : Bool := 0x80 ≤ b && b ≤ 0xBF

/-- The six bits that a continuation byte carries. -/
def bits (b : UInt8) : Nat := b.toNat % 0x40

/-- The character of a code point, or a question mark for a surrogate. -/
def character (code : Nat) : Char :=
  if 0xD800 ≤ code && code ≤ 0xDFFF then '?' else Char.ofNat code

/-- The character of a surrogate pair, from the last two bytes of its first group and of its
second one. -/
def supplementary (b c e f : UInt8) : Char :=
  let high := b.toNat % 0x10 * 0x40 + bits c
  let low := e.toNat % 0x10 * 0x40 + bits f
  Char.ofNat (0x10000 + high * 0x400 + low)

/-- Six bytes that are a surrogate pair. -/
def isPair (a b c d e f : UInt8) : Bool :=
  a == 0xED && 0xA0 ≤ b && b ≤ 0xAF && isContinuation c &&
    d == 0xED && 0xB0 ≤ e && e ≤ 0xBF && isContinuation f

/-- A byte that begins a group of three. -/
def leadsThree (b : UInt8) : Bool := 0xE0 ≤ b && b ≤ 0xEF

/-- A byte that begins a group of two. -/
def leadsTwo (b : UInt8) : Bool := 0xC0 ≤ b && b ≤ 0xDF

/-- One character of the modified form and the number of bytes it takes after the first. -/
def next (a : UInt8) (rest : List UInt8) : Char × Nat :=
  match rest with
  | b :: c :: d :: e :: f :: _ =>
    if isPair a b c d e f then (supplementary b c e f, 5) else group a rest
  | _ => group a rest
where
  /-- A group of at most three bytes. -/
  group (a : UInt8) : List UInt8 → Char × Nat
    | b :: c :: _ =>
      if leadsThree a && isContinuation b && isContinuation c then
        (character (a.toNat % 0x10 * 0x1000 + bits b * 0x40 + bits c), 2)
      else short a (some b)
    | [b] => short a (some b)
    | [] => short a none
  /-- A group of at most two bytes. -/
  short (a : UInt8) (b : Option UInt8) : Char × Nat :=
    match b.filter isContinuation with
    | some b =>
      if leadsThree a then ('?', 1)
      else if leadsTwo a then (Char.ofNat (a.toNat % 0x20 * 0x40 + bits b), 1)
      else single a
    | none => single a
  /-- A byte on its own. -/
  single (a : UInt8) : Char × Nat :=
    if a < 0x80 then (Char.ofNat a.toNat, 0) else ('?', 0)

/-- Reads the modified form. -/
def lenient : List UInt8 → List Char
  | [] => []
  | a :: rest =>
    let (c, n) := next a rest
    c :: lenient (rest.drop n)
termination_by bs => bs.length
decreasing_by
  rw [List.length_drop, List.length_cons]
  omega

/-- The text that the bytes stand for. -/
def decode (bs : List UInt8) : String :=
  match String.fromUTF8? ⟨bs.toArray⟩ with
  | some s => s
  | none => String.ofList (lenient bs)

end CallGraph.ClassFile.Text
