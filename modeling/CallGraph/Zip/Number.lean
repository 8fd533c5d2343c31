/-!
# Numbers in a file

Zip archives write numbers with the least significant byte first. Each of these functions reads a
number at a position; there is none where the file is too short.
-/

namespace CallGraph.Zip

/-- The byte at a position. -/
def byteAt? (file : ByteArray) (position : Nat) : Option Nat :=
  (file.data[position]?).map UInt8.toNat

/-- The number of two bytes at a position. -/
def u2At? (file : ByteArray) (position : Nat) : Option Nat := do
  let low ← byteAt? file position
  let high ← byteAt? file (position + 1)
  return low + 256 * high

/-- The number of four bytes at a position. -/
def u4At? (file : ByteArray) (position : Nat) : Option Nat := do
  let low ← u2At? file position
  let high ← u2At? file (position + 2)
  return low + 0x10000 * high

/-- The number of eight bytes at a position. -/
def u8At? (file : ByteArray) (position : Nat) : Option Nat := do
  let low ← u4At? file position
  let high ← u4At? file (position + 4)
  return low + 0x100000000 * high

/-- The bytes between two positions, if the file reaches so far. -/
def slice? (file : ByteArray) (first last : Nat) : Option ByteArray :=
  if last ≤ file.size then some (file.extract first last) else none

end CallGraph.Zip
