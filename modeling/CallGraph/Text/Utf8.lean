/-!
# Reading UTF-8 leniently

`Utf8.lenient` reads bytes that need not be UTF-8: where no character can be read, the longest
stretch of bytes that begins like one becomes a single replacement character.
-/

namespace CallGraph.Text.Utf8

/-- What stands for bytes that are no character. -/
def replacement : Char := '\uFFFD'

/-- What the first byte of a character tells: how many bytes follow, the bounds of the next one,
and the bits that the first one carries. -/
structure Lead where
  following : Nat
  low : UInt8
  high : UInt8
  bits : Nat

/-- The first byte of a character. -/
def lead? (b : UInt8) : Option Lead :=
  if b ≤ 0x7F then some ⟨0, 0x80, 0xBF, b.toNat⟩
  else if b < 0xC2 then none
  else if b ≤ 0xDF then some ⟨1, 0x80, 0xBF, b.toNat % 0x20⟩
  else if b = 0xE0 then some ⟨2, 0xA0, 0xBF, 0⟩
  else if b = 0xED then some ⟨2, 0x80, 0x9F, 0xD⟩
  else if b ≤ 0xEF then some ⟨2, 0x80, 0xBF, b.toNat % 0x10⟩
  else if b = 0xF0 then some ⟨3, 0x90, 0xBF, 0⟩
  else if b ≤ 0xF3 then some ⟨3, 0x80, 0xBF, b.toNat % 8⟩
  else if b = 0xF4 then some ⟨3, 0x80, 0x8F, 4⟩
  else none

/-- Reads the bytes that follow the first one; stops before the first that cannot. -/
def following : (n : Nat) → (low high : UInt8) → (code : Nat) → List UInt8 → Char × List UInt8
  | 0, _, _, code, rest => (Char.ofNat code, rest)
  | _ + 1, _, _, _, [] => (replacement, [])
  | n + 1, low, high, code, b :: rest =>
    if low ≤ b ∧ b ≤ high then following n 0x80 0xBF (code * 0x40 + b.toNat % 0x40) rest
    else (replacement, b :: rest)

/-- What follows the first byte is taken from the front. -/
theorem length_following_le (n : Nat) (low high : UInt8) (code : Nat) (bs : List UInt8) :
    (following n low high code bs).2.length ≤ bs.length := by
  fun_induction following n low high code bs with
  | case1 => exact Nat.le_refl _
  | case2 => exact Nat.le_refl _
  | case3 n low high code b rest _ ih => exact Nat.le_succ_of_le ih
  | case4 => exact Nat.le_refl _

/-- Reads one character that begins with a byte. -/
def next (b : UInt8) (rest : List UInt8) : Char × List UInt8 :=
  match lead? b with
  | none => (replacement, rest)
  | some l => following l.following l.low l.high l.bits rest

theorem length_next_le (b : UInt8) (rest : List UInt8) : (next b rest).2.length ≤ rest.length := by
  unfold next
  split
  · exact Nat.le_refl _
  · exact length_following_le _ _ _ _ _

/-- The characters that bytes stand for. -/
def lenient : List UInt8 → List Char
  | [] => []
  | b :: rest => (next b rest).1 :: lenient (next b rest).2
termination_by bs => bs.length
decreasing_by exact Nat.lt_succ_of_le (length_next_le b rest)

end CallGraph.Text.Utf8
