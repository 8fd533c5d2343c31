/-!
# Bits and prefix codes

A compressed stream is a list of bits, the lowest bit of each byte first. A prefix code is given by
the length of the code word of each symbol: shorter words come first, and words of one length are
numbered in the order of their symbols.

Reading stops because the bits end or because they make no sense. Reading a symbol takes at least
one bit (`Code.length_lt_of_decode`).
-/

namespace CallGraph.Zip

/-- Why reading stops. -/
inductive Stop
  /-- There are no more bits. -/
  | ended
  /-- The bits make no sense. -/
  | corrupt
deriving DecidableEq, Repr

/-- Takes a value from the front of a list of bits. -/
structure BitReader (α : Type) where
  run : List Bool → Except Stop (α × List Bool)
  length_le : ∀ {bits : List Bool} {a : α} {rest : List Bool},
    run bits = .ok (a, rest) → rest.length ≤ bits.length

namespace BitReader

variable {α β : Type}

/-- Takes nothing. -/
def pure (a : α) : BitReader α where
  run bits := .ok (a, bits)
  length_le h := by simp at h; simp [h]

/-- Stops. -/
def stop (s : Stop) : BitReader α where
  run _ := .error s
  length_le h := by cases h

/-- Reads on according to the value read. -/
def bind (r : BitReader α) (f : α → BitReader β) : BitReader β where
  run bits :=
    match r.run bits with
    | .error s => .error s
    | .ok (a, rest) => (f a).run rest
  length_le h := by
    split at h
    · cases h
    · next hr => exact Nat.le_trans ((f _).length_le h) (r.length_le hr)

instance : Monad BitReader where
  pure := BitReader.pure
  bind := BitReader.bind

/-- One bit. -/
def bit : BitReader Bool where
  run
    | [] => .error .ended
    | b :: rest => .ok (b, rest)
  length_le {bits a rest} h := by
    cases bits with
    | nil => cases h
    | cons b bits => simp at h; simp [← h.2]

/-- What begins with a bit takes at least that. -/
theorem length_lt_of_bit_bind {f : Bool → BitReader β} {bits rest : List Bool} {b : β}
    (h : (bit.bind f).run bits = .ok (b, rest)) : rest.length < bits.length := by
  cases bits with
  | nil => cases h
  | cons first bits => exact Nat.lt_succ_of_le ((f first).length_le h)

/-- What begins with a reader that takes something takes something. -/
theorem length_lt_of_bind {r : BitReader α} {f : α → BitReader β} {bits rest : List Bool} {b : β}
    (hr : ∀ {a : α} {rest : List Bool}, r.run bits = .ok (a, rest) → rest.length < bits.length)
    (h : (r.bind f).run bits = .ok (b, rest)) : rest.length < bits.length := by
  simp only [bind] at h
  split at h
  · cases h
  · next ha => exact Nat.lt_of_le_of_lt ((f _).length_le h) (hr ha)

/-- A number of `n` bits, the lowest first. -/
def number : (n : Nat) → BitReader Nat
  | 0 => return 0
  | n + 1 => do
    let low ← bit
    let high ← number n
    return low.toNat + 2 * high

/-- Passes over the bits up to the next byte of the stream, which is a whole number of bytes. -/
def align : BitReader Unit where
  run bits := .ok ((), bits.drop (bits.length % 8))
  length_le h := by
    cases h
    simp

end BitReader

/-- The bits of bytes. -/
def bitsOf (bytes : List UInt8) : List Bool :=
  bytes.flatMap fun b => (List.range 8).map fun i => b.toNat.testBit i

/-- The longest code word. -/
def maxWord : Nat := 15

/-- A prefix code: the number of words of each length, and the symbols in the order of their
words. -/
structure Code where
  counts : Array Nat
  symbols : Array Nat
deriving Repr

namespace Code

/-- The code with the given word lengths; length 0 marks a symbol without a word. -/
def ofLengths (lengths : List Nat) : Code where
  counts := ((List.range (maxWord + 1)).map fun n => lengths.count n).toArray
  symbols := ((List.range maxWord).flatMap fun n =>
    (lengths.zipIdx.filter (·.1 = n + 1)).map Prod.snd).toArray

/-- The share of all words of the greatest length that the words of the code begin. -/
def weight (lengths : List Nat) : Nat :=
  lengths.foldl (fun sum n => if n = 0 then sum else sum + 1 <<< (maxWord - n)) 0

/-- The words leave no gap and do not overlap. -/
def isComplete (lengths : List Nat) : Bool := weight lengths = 1 <<< maxWord

/-- A complete code, or one with at most one word, of one bit. -/
def isUsable (lengths : List Nat) : Bool :=
  isComplete lengths || (lengths.all (· ≤ 1) && decide (weight lengths ≤ 1 <<< maxWord))

/-- The code in which every bit is a word for symbol 0. -/
def constant : Code := ⟨#[0, 2], #[0, 0]⟩

/-- Reads on in a word: `left` more bits are allowed, `word` is what has been read of it, and
`first` the first word of the length `length`, whose symbol stands at `index`. Reading stops as
soon as no longer word is left. -/
def decodeFrom (code : Code) : (left length word first index : Nat) → BitReader Nat
  | 0, _, _, _, _ => .stop .corrupt
  | left + 1, length, word, first, index => do
    let b ← BitReader.bit
    let word := 2 * word + b.toNat
    let count := code.counts[length]?.getD 0
    if word < first + count then
      match code.symbols[index + (word - first)]? with
      | some symbol => return symbol
      | none => .stop .corrupt
    else if code.symbols.size ≤ index + count then .stop .corrupt
    else code.decodeFrom left (length + 1) word (2 * (first + count)) (index + count)

/-- Reads a symbol. -/
def decode (code : Code) : BitReader Nat := code.decodeFrom maxWord 1 0 0 0

/-- A symbol takes at least one bit. -/
theorem length_lt_of_decode {code : Code} {bits rest : List Bool} {symbol : Nat}
    (h : code.decode.run bits = .ok (symbol, rest)) : rest.length < bits.length :=
  BitReader.length_lt_of_bit_bind h

end Code

end CallGraph.Zip
