/-!
# Percent encoding

A character that a part of a URL cannot hold is written as its bytes, each as a percent sign and
two digits. Which characters those are depends on the part.

* `encode` writes characters, `decode` reads bytes.
-/

namespace CallGraph.Url.Percent

/-- A set of characters that must be encoded. -/
abbrev CharSet := Char → Bool

/-! ## Sets -/

/-- Control characters and all that is not ASCII; must be encoded everywhere. -/
def control : CharSet := fun c => decide (c.toNat < 0x20 ∨ 0x7f ≤ c.toNat)

/-- What must be encoded in a fragment. -/
def fragment : CharSet := fun c => control c || [' ', '\x22', '<', '>', '\x60'].contains c

/-- What must be encoded in a query; in that of a scheme with servers also the apostrophe. -/
def query (special : Bool) : CharSet := fun c =>
  control c || [' ', '\x22', '#', '<', '>'].contains c || (special && c = '\x27')

/-- What must be encoded in a segment of a path. -/
def path : CharSet := fun c =>
  control c || [' ', '\x22', '#', '<', '>', '?', '\x60', '\x7b', '\x7d'].contains c

/-- What must be encoded in the name of a user and in a password. -/
def userinfo : CharSet := fun c =>
  path c || ['/', ':', ';', '=', '@', '[', '\\', ']', '^', '|'].contains c

/-! ## Writing -/

/-- A digit below sixteen, as it is written. -/
def digit (n : Nat) : Char := Char.ofNat (if n < 10 then 0x30 + n else 0x37 + n)

/-- A byte as it is written. -/
def encodeByte (b : UInt8) : List Char := ['%', digit (b.toNat / 16), digit (b.toNat % 16)]

/-- A character as it is written. -/
def encodeChar (set : CharSet) (c : Char) : List Char :=
  if set c then (String.utf8EncodeChar c).flatMap encodeByte else [c]

/-- Characters as they are written. -/
def encode (set : CharSet) (cs : List Char) : List Char := cs.flatMap (encodeChar set)

/-! ## Reading -/

/-- The value of a digit, in either case. -/
def digitValue? (b : UInt8) : Option UInt8 :=
  if 0x30 ≤ b ∧ b ≤ 0x39 then some (b - 0x30)
  else if 0x41 ≤ b ∧ b ≤ 0x46 then some (b - 0x37)
  else if 0x61 ≤ b ∧ b ≤ 0x66 then some (b - 0x57)
  else none

/-- The bytes that written bytes stand for; a percent sign without two digits stands for itself. -/
def decode : List UInt8 → List UInt8
  | b :: high :: low :: rest =>
    match decide (b = 0x25), digitValue? high, digitValue? low with
    | true, some h, some l => (h * 16 + l) :: decode rest
    | _, _, _ => b :: decode (high :: low :: rest)
  | b :: rest => b :: decode rest
  | [] => []

end CallGraph.Url.Percent
