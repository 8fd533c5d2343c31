import CallGraph.Text.Affix
import CallGraph.Text.Numeral
import CallGraph.Url.Domain
import CallGraph.Url.Percent

/-!
# Hosts

A host is an address of four bytes, an address of eight words in brackets, or a name. Schemes with
servers have domain names: these are brought into ASCII, and one whose last label is a number is an
address. Any other scheme keeps a host name as it stands.

* `Host.parse?` reads the host of a scheme with servers, `Host.parseName?` that of any other.
-/

namespace CallGraph.Url

open Text (isDecimal number?)

/-- A host. -/
inductive Host
  | name (text : String)
  /-- The address as one number. -/
  | bytes (address : Nat)
  /-- The words of the address. -/
  | words (words : List Nat)
deriving DecidableEq, Repr

namespace Host

/-! ## Addresses of four bytes -/

/-- A part of an address: hexadecimal after `0x`, octal after `0`, else decimal. -/
def part? : List Char → Option Nat
  | [] => none
  | '0' :: 'x' :: digits | '0' :: 'X' :: digits => number? 16 digits
  | '0' :: digit :: digits => number? 8 (digit :: digits)
  | digits => number? 10 digits

/-- The labels of a name; a dot at its end adds none. -/
def labels (name : String) : List String :=
  match (Text.splitAt '.' name).reverse with
  | "" :: last :: rest => (last :: rest).reverse
  | parts => parts.reverse

/-- The last label is a number. -/
def endsInNumber (name : String) : Bool :=
  match (labels name).getLast? with
  | none => false
  | some label => isDecimal label.toList || (part? label.toList).isSome

/-- The last part of an address fills all bytes that the parts before it leave. -/
def address? (name : String) : Option Nat := do
  let parts ← (labels name).mapM fun label => part? label.toList
  let last ← parts.getLast?
  let leading := parts.dropLast
  let room := 1 <<< (8 * (4 - leading.length))
  if 3 < leading.length ∨ leading.any (255 < ·) ∨ room ≤ last then none
  else return leading.foldl (fun n part => n * 256 + part) 0 * room + last

/-! ## Addresses of eight words -/

/-- A word: one to four hexadecimal digits. -/
def word? (text : String) : Option Nat :=
  if text = "" ∨ 4 < text.length then none else number? 16 text.toList

/-- A byte in decimal digits, without a leading zero. -/
def byte? (text : String) : Option Nat :=
  match text.toList with
  | ['0'] => some 0
  | '0' :: _ | [] => none
  | digits => (number? 10 digits).bind fun n => if n < 256 then some n else none

/-- Four bytes with dots between them, as two words. -/
def dotted? (text : String) : Option (List Nat) := do
  match ← (Text.splitAt '.' text).mapM byte? with
  | [a, b, c, d] => return [a * 256 + b, c * 256 + d]
  | _ => none

/-- Words with colons between them; the last two may be four bytes with dots between them. -/
def wordList? (mayEndDotted : Bool) : List String → Option (List Nat)
  | [] => some []
  | [last] =>
    if mayEndDotted ∧ '.' ∈ last.toList then dotted? last else (word? last).map ([·])
  | first :: rest => do
    let word ← word? first
    let words ← wordList? mayEndDotted rest
    return word :: words

/-- The words on one side of a gap. -/
def side? (mayEndDotted : Bool) (cs : List Char) : Option (List Nat) :=
  if cs.isEmpty then some []
  else wordList? mayEndDotted (Text.splitAt ':' (String.ofList cs))

/-- The text before and after the first two colons in a row. -/
def splitGap? : List Char → Option (List Char × List Char)
  | ':' :: ':' :: rest => some ([], rest)
  | c :: rest => (splitGap? rest).map fun (before, after) => (c :: before, after)
  | [] => none

/-- Reads eight words; two colons in a row stand for zeros, at least one. -/
def words? (cs : List Char) : Option (List Nat) := do
  match splitGap? cs with
  | none =>
    let words ← wordList? true (Text.splitAt ':' (String.ofList cs))
    if words.length = 8 then return words else none
  | some (before, after) =>
    let head ← side? false before
    let tail ← side? true after
    let filled := head.length + tail.length
    if filled < 8 then return head ++ List.replicate (8 - filled) 0 ++ tail else none

/-- A host in brackets. -/
def bracketed? (cs : List Char) : Option Host :=
  match cs.reverse with
  | ']' :: inner => (words? inner.reverse).map words
  | _ => none

/-! ## Names -/

/-- A domain name in ASCII. -/
def domain? (cs : List Char) : Option String := do
  let written := (String.ofList cs).toUTF8.toList
  let text ← String.fromUTF8? ⟨(Percent.decode written).toArray⟩
  let name ← Domain.ascii? text.toList
  if name = "" then none else return name

/-- The host of a scheme with servers. -/
def parse? : List Char → Option Host
  | '[' :: cs => bracketed? cs
  | cs => do
    let name ← domain? cs
    if endsInNumber name then (address? name).map bytes else return .name name

/-- Characters that no host name has. -/
def isForbiddenInName (c : Char) : Bool :=
  "\x00\t\n\r #/:<>?@[\\]^|".toList.contains c

/-- The host of a scheme without servers. -/
def parseName? : List Char → Option Host
  | '[' :: cs => bracketed? cs
  | cs =>
    if cs.any isForbiddenInName then none
    else some (.name (String.ofList (Percent.encode Percent.control cs)))

/-! ## Writing -/

/-- A word in hexadecimal digits. -/
def wordText (word : Nat) : String := String.ofList (Nat.toDigits 16 word)

/-- How many zeros each rest of the words begins with. -/
def zeroRuns : List Nat → List Nat
  | [] => []
  | word :: rest =>
    let runs := zeroRuns rest
    (if word = 0 then runs.headD 0 + 1 else 0) :: runs

/-- Where the longest run of zeros begins and how long it is; of equal ones the first. -/
def longestRun (words : List Nat) : Nat × Nat :=
  let runs := zeroRuns words
  let longest := runs.foldl max 0
  (runs.findIdx (· = longest), longest)

/-- Words with colons between them. -/
def joinWords (words : List Nat) : String := String.intercalate ":" (words.map wordText)

/-- Eight words; the longest run of two or more zeros is written as two colons. -/
def wordsText (words : List Nat) : String :=
  let (start, length) := longestRun words
  if length < 2 then joinWords words
  else joinWords (words.take start) ++ "::" ++ joinWords (words.drop (start + length))

/-- The four bytes of an address. -/
def bytesText (address : Nat) : String :=
  let units := [0x1000000, 0x10000, 0x100, 1]
  String.intercalate "." (units.map fun unit => toString (address / unit % 256))

/-- The host as it is written. -/
def text : Host → String
  | name text => text
  | bytes address => bytesText address
  | words ws => "[" ++ wordsText ws ++ "]"

/-- There is no host. -/
def isEmpty (host : Host) : Bool := host = name ""

end Host

end CallGraph.Url
