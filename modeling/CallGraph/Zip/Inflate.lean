import CallGraph.Zip.Huffman

/-!
# Inflating compressed data

A compressed stream is a sequence of blocks, each stored as it is or written in a prefix code for
bytes and for copies of earlier output. `inflate` gives the output of a stream up to its last block.
What follows that block does not matter, and a stream that ends before it has no output.

Each block takes at least three bits and each symbol at least one, so the loops over them end.
-/

namespace CallGraph.Zip

/-- The shortest copy of each length symbol and the number of bits that add to it. -/
def lengthTable : Array (Nat × Nat) :=
  #[(3, 0), (4, 0), (5, 0), (6, 0), (7, 0), (8, 0), (9, 0), (10, 0), (11, 1), (13, 1), (15, 1),
    (17, 1), (19, 2), (23, 2), (27, 2), (31, 2), (35, 3), (43, 3), (51, 3), (59, 3), (67, 4),
    (83, 4), (99, 4), (115, 4), (131, 5), (163, 5), (195, 5), (227, 5), (258, 0)]

/-- The shortest distance of each distance symbol and the number of bits that add to it. -/
def distanceTable : Array (Nat × Nat) :=
  #[(1, 0), (2, 0), (3, 0), (4, 0), (5, 1), (7, 1), (9, 2), (13, 2), (17, 3), (25, 3), (33, 4),
    (49, 4), (65, 5), (97, 5), (129, 6), (193, 6), (257, 7), (385, 7), (513, 8), (769, 8),
    (1025, 9), (1537, 9), (2049, 10), (3073, 10), (4097, 11), (6145, 11), (8193, 12), (12289, 12),
    (16385, 13), (24577, 13)]

/-- The value of a symbol in a table of starts and additional bits. -/
def tableValue (table : Array (Nat × Nat)) (symbol : Nat) : BitReader Nat :=
  match table[symbol]? with
  | none => .stop .corrupt
  | some (start, n) => do
    let more ← BitReader.number n
    return start + more

/-- The codes for bytes and lengths and for distances. -/
structure Codes where
  literals : Code
  distances : Code

/-! ## Codes of blocks -/

/-- The codes that need not be written down. -/
def fixedCodes : Codes where
  literals := .ofLengths
    (List.replicate 144 8 ++ List.replicate 112 9 ++ List.replicate 24 7 ++ List.replicate 8 8)
  distances := .ofLengths (List.replicate 32 5)

/-- The order in which the lengths of the code for lengths are written. -/
def lengthOrder : List Nat := [16, 17, 18, 0, 8, 7, 9, 6, 10, 5, 11, 4, 12, 3, 13, 2, 14, 1, 15]

/-- Lengths of three bits each. -/
def shortLengths : Nat → BitReader (List Nat)
  | 0 => return []
  | n + 1 => do
    let length ← BitReader.number 3
    return length :: (← shortLengths n)

/-- The lengths of the code for lengths, by symbol. -/
def orderedLengths (lengths : List Nat) : List Nat :=
  (List.range 19).map fun symbol =>
    ((lengthOrder.zip lengths).find? (·.1 = symbol)).elim 0 Prod.snd

/-- The lengths that a symbol of the code for lengths adds to those read before, which are held
with the last one first. -/
def lengthsOf (before : List Nat) (symbol : Nat) : BitReader (List Nat) :=
  match symbol with
  | 16 => do
    let more ← BitReader.number 2
    match before with
    | [] => .stop .corrupt
    | last :: _ => return List.replicate (3 + more) last
  | 17 => return List.replicate (3 + (← BitReader.number 3)) 0
  | 18 => return List.replicate (11 + (← BitReader.number 7)) 0
  | length => return [length]

/-- Reads lengths in the code for lengths until there are `total` of them; `before` holds those
read so far, the last one first. Each symbol adds at least one, so `total` symbols are enough. -/
def codedLengths (code : Code) (total : Nat) : (symbols : Nat) → (before : List Nat) →
    BitReader (List Nat)
  | 0, before => if before.length = total then return before.reverse else .stop .corrupt
  | symbols + 1, before =>
    if before.length < total then do
      let symbol ← code.decode
      let lengths ← lengthsOf before symbol
      codedLengths code total symbols (lengths ++ before)
    else codedLengths code total 0 before

/-- The code with the given word lengths, if it is one. -/
def usableCode (lengths : List Nat) : BitReader Code :=
  if Code.isUsable lengths then return .ofLengths lengths else .stop .corrupt

/-- The code for lengths, which has no gap; if it has no words at all, all lengths are 0. -/
def codeForLengths (lengths : List Nat) : BitReader Code :=
  if lengths.all (· = 0) then return .constant
  else if Code.isComplete lengths then return .ofLengths lengths
  else .stop .corrupt

/-- The symbol that ends a block. -/
def endOfBlock : Nat := 256

/-- The codes written at the start of a block. -/
def writtenCodes : BitReader Codes := do
  let literals := 257 + (← BitReader.number 5)
  let distances := 1 + (← BitReader.number 5)
  let short := 4 + (← BitReader.number 4)
  if 286 < literals ∨ 30 < distances then .stop .corrupt
  else do
    let forLengths ← codeForLengths (orderedLengths (← shortLengths short))
    let total := literals + distances
    let lengths ← codedLengths forLengths total total []
    if lengths[endOfBlock]?.getD 0 = 0 then .stop .corrupt
    else do
      let literals ← usableCode (lengths.take literals)
      let distances ← usableCode (lengths.drop (total - distances))
      return ⟨literals, distances⟩

/-! ## Content of blocks -/

/-- What a symbol of a block stands for. -/
inductive Item
  | byte (b : UInt8)
  /-- `length` bytes of the output from `distance` bytes before its end. -/
  | copy (length distance : Nat)
  | finish
deriving DecidableEq, Repr

/-- The item that begins with a symbol for bytes and lengths. -/
def itemOf (codes : Codes) (symbol : Nat) : BitReader Item :=
  if symbol < endOfBlock then return .byte symbol.toUInt8
  else if symbol = endOfBlock then return .finish
  else do
    let length ← tableValue lengthTable (symbol - (endOfBlock + 1))
    let symbol ← codes.distances.decode
    let distance ← tableValue distanceTable symbol
    return .copy length distance

/-- Reads an item. -/
def item (codes : Codes) : BitReader Item := codes.literals.decode.bind (itemOf codes)

theorem length_lt_of_item {codes : Codes} {bits rest : List Bool} {i : Item}
    (h : (item codes).run bits = .ok (i, rest)) : rest.length < bits.length :=
  BitReader.length_lt_of_bind Code.length_lt_of_decode h

/-- Repeats `n` bytes from `distance` bytes before the end of the output. -/
def copy (out : Array UInt8) (distance : Nat) : Nat → Array UInt8
  | 0 => out
  | n + 1 => copy (out.push (out[out.size - distance]?.getD 0)) distance n

/-- Adds the items of a block to the output. -/
def items (codes : Codes) (out : Array UInt8) (bits : List Bool) :
    Except Stop (Array UInt8 × List Bool) :=
  match _h : (item codes).run bits with
  | .error s => .error s
  | .ok (.finish, rest) => .ok (out, rest)
  | .ok (.byte b, rest) => items codes (out.push b) rest
  | .ok (.copy length distance, rest) =>
    if out.size < distance then .error .corrupt
    else items codes (copy out distance length) rest
termination_by bits.length
decreasing_by all_goals exact length_lt_of_item _h

theorem length_le_of_items {codes : Codes} {out out' : Array UInt8} {bits rest : List Bool}
    (h : items codes out bits = .ok (out', rest)) : rest.length ≤ bits.length := by
  fun_induction items codes out bits with
  | case1 => cases h
  | case2 out bits rest' hi =>
    cases h
    exact Nat.le_of_lt (length_lt_of_item hi)
  | case3 out bits b rest' hi ih => exact Nat.le_trans (ih h) (Nat.le_of_lt (length_lt_of_item hi))
  | case4 => cases h
  | case5 out bits length distance rest' hi _ ih =>
    exact Nat.le_trans (ih h) (Nat.le_of_lt (length_lt_of_item hi))

/-- `n` bytes. -/
def bytes : (n : Nat) → BitReader (List UInt8)
  | 0 => return []
  | n + 1 => do
    let b ← BitReader.number 8
    return b.toUInt8 :: (← bytes n)

/-- The bytes of a block that is not compressed. -/
def storedBytes : BitReader (List UInt8) := do
  BitReader.align
  let n ← BitReader.number 16
  let complement ← BitReader.number 16
  if n + complement = 0xFFFF then bytes n else .stop .corrupt

/-! ## Streams -/

/-- Adds a block of the given kind to the output. -/
def block (kind : Nat) (out : Array UInt8) (bits : List Bool) :
    Except Stop (Array UInt8 × List Bool) :=
  match kind with
  | 0 =>
    match storedBytes.run bits with
    | .error s => .error s
    | .ok (bytes, rest) => .ok (out ++ bytes, rest)
  | 1 => items fixedCodes out bits
  | 2 =>
    match writtenCodes.run bits with
    | .error s => .error s
    | .ok (codes, rest) => items codes out rest
  | _ => .error .corrupt

theorem length_le_of_block {kind : Nat} {out out' : Array UInt8} {bits rest : List Bool}
    (h : block kind out bits = .ok (out', rest)) : rest.length ≤ bits.length := by
  unfold block at h
  split at h
  · split at h
    · cases h
    · next hr =>
      cases h
      exact storedBytes.length_le hr
  · exact length_le_of_items h
  · split at h
    · cases h
    · next hr => exact Nat.le_trans (length_le_of_items h) (writtenCodes.length_le hr)
  · cases h

/-- Adds blocks to the output, up to the last one. -/
def blocks (out : Array UInt8) (bits : List Bool) : Except Stop (Array UInt8) :=
  match _hn : (BitReader.number 3).run bits with
  | .error s => .error s
  | .ok (header, rest) =>
    match _hb : block (header / 2) out rest with
    | .error s => .error s
    | .ok (out, rest') => if header % 2 = 1 then .ok out else blocks out rest'
termination_by bits.length
decreasing_by
  exact Nat.lt_of_le_of_lt (length_le_of_block _hb) (BitReader.length_lt_of_bit_bind _hn)

/-- The output of a compressed stream. -/
def inflate (stream : List UInt8) : Except Stop (Array UInt8) := blocks #[] (bitsOf stream)

end CallGraph.Zip
