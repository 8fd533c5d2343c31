/-!
# Reading from the front of a list of bytes

A `Reader` takes a value from the front of a list of bytes and leaves the rest, which is never
longer than what it was given. That bound travels with every reader, so a recursive reader can
appeal to it for its termination.

* `u1`, `u2`, `u4` read unsigned numbers, the most significant byte first.
* `take`, `skip` and `times` read a number of bytes or of values known beforehand.
-/

namespace CallGraph

/-- Takes a value from the front of a list of bytes; `none` if the bytes do not begin with one. -/
structure Reader (α : Type) where
  run : List UInt8 → Option (α × List UInt8)
  length_le : ∀ {bs : List UInt8} {a : α} {rest : List UInt8},
    run bs = some (a, rest) → rest.length ≤ bs.length

namespace Reader

variable {α β : Type}

/-- Takes nothing. -/
def pure (a : α) : Reader α where
  run bs := some (a, bs)
  length_le h := by simp at h; simp [h]

/-- Never succeeds. -/
def fail : Reader α where
  run _ := none
  length_le h := by cases h

/-- Reads on according to the value read. -/
def bind (r : Reader α) (f : α → Reader β) : Reader β where
  run bs :=
    match r.run bs with
    | none => none
    | some (a, rest) => (f a).run rest
  length_le h := by
    split at h
    · cases h
    · next hr => exact Nat.le_trans ((f _).length_le h) (r.length_le hr)

instance : Monad Reader where
  pure := Reader.pure
  bind := Reader.bind

/-- One byte. -/
def u1 : Reader UInt8 where
  run
    | [] => none
    | b :: rest => some (b, rest)
  length_le {bs a rest} h := by
    cases bs with
    | nil => cases h
    | cons b bs => simp at h; simp [← h.2]

/-- The number written by two bytes. -/
def word (a b : UInt8) : UInt16 := UInt16.ofNat (a.toNat * 256 + b.toNat)

/-- The number written by four bytes. -/
def doubleWord (a b c d : UInt8) : UInt32 :=
  UInt32.ofNat (((a.toNat * 256 + b.toNat) * 256 + c.toNat) * 256 + d.toNat)

/-- A number of two bytes. -/
def u2 : Reader UInt16 := do
  let a ← u1
  let b ← u1
  return word a b

/-- A number of four bytes. -/
def u4 : Reader UInt32 := do
  let a ← u1
  let b ← u1
  let c ← u1
  let d ← u1
  return doubleWord a b c d

/-- The next `n` bytes. -/
def take (n : Nat) : Reader (List UInt8) where
  run bs :=
    match bs.splitAt n with
    | (taken, rest) => if taken.length = n then some (taken, rest) else none
  length_le {bs a rest} h := by
    simp only [List.splitAt_eq] at h
    split at h
    · cases h
      simp
    · cases h

/-- Passes over the next `n` bytes. -/
def skip (n : Nat) : Reader Unit := do
  let _ ← take n
  return ()

/-- Succeeds without taking anything if at least `n` bytes are left. -/
def atLeast (n : Nat) : Reader Unit where
  run bs := if (bs.take n).length = n then some ((), bs) else none
  length_le h := by
    split at h
    · cases h
      simp
    · cases h

/-- `n` values, one after the other. -/
def times (n : Nat) (r : Reader α) : Reader (List α) :=
  match n with
  | 0 => return []
  | n + 1 => do
    let a ← r
    let as ← times n r
    return a :: as

/-- A count of two bytes and that many values. -/
def counted (r : Reader α) : Reader (List α) := do
  let n ← u2
  times n.toNat r

/-- A count of two bytes and that many rows of `width` bytes, passed over. -/
def skipRows (width : Nat) : Reader Unit := do
  let n ← u2
  skip (n.toNat * width)

end Reader

end CallGraph
