import CallGraph.Text.Utf8
import CallGraph.Zip.Checksum
import CallGraph.Zip.Number

/-!
# Entries of an archive

An entry is what the directory of an archive tells about one of its files. A record of the
directory has fixed fields and may carry extra fields of several kinds, which correct the fixed
ones: sizes that need more room, a name or a comment in UTF-8, a cipher. Kinds that are not known
are passed over.

* `Entry.withExtras?` applies the extra fields of a record; malformed ones make the record
  unreadable.
-/

namespace CallGraph.Zip

/-- An entry of the directory. -/
structure Entry where
  name : String
  /-- The bytes of the name, which tell entries apart. -/
  key : List UInt8
  comment : String
  flags : Nat
  method : Nat
  checksum : UInt32
  /-- The number of stored bytes. -/
  size : Nat
  /-- The number of bytes of the content. -/
  fullSize : Nat
  /-- Where the entry itself stands in the file. -/
  start : Nat
  /-- The stored bytes are enciphered by the cipher of an extra field. -/
  isCiphered : Bool := false
deriving Repr

/-! ## Texts -/

/-- The characters that the upper half of bytes stands for in texts that are not UTF-8. -/
def upperHalf : Array Char :=
  ("ÇüéâäàåçêëèïîìÄÅÉæÆôöòûùÿÖÜ¢£¥₧ƒáíóúñÑªº¿⌐¬½¼¡«»░▒▓│┤╡╢╖╕╣║╗╝╜╛┐" ++
    "└┴┬├─┼╞╟╚╔╩╦╠═╬╧╨╤╥╙╘╒╓╫╪┘┌█▄▌▐▀αßΓπΣσµτΦΘΩδ∞φε∩≡±≥≤⌠⌡÷≈°∙·√ⁿ²■\xa0").toList.toArray

/-- A text of which the directory does not say that it is UTF-8. -/
def plainText (bytes : List UInt8) : String :=
  String.ofList (bytes.map fun b =>
    if b < 0x80 then Char.ofNat b.toNat else upperHalf[b.toNat - 0x80]?.getD '?')

/-- The flag of names and comments in UTF-8. -/
def utf8Flag : Nat := 0x800

/-- The flag of encrypted entries. -/
def encryptedFlag : Nat := 1

/-- The text of a name or of a comment. -/
def textOf (flags : Nat) (bytes : List UInt8) : String :=
  if flags &&& utf8Flag = 0 then plainText bytes else String.ofList (Text.Utf8.lenient bytes)

/-! ## Extra fields -/

/-- An extra field of a record. -/
structure Extra where
  kind : Nat
  content : ByteArray

/-- The extra fields of a record. Fewer bytes at the end than a kind and a size take are passed
over; a field that is cut short is not. -/
def extras? : List UInt8 → Option (List Extra)
  | a :: b :: c :: d :: rest =>
    let size := c.toNat + 256 * d.toNat
    if rest.length < size then none
    else do
      let more ← extras? (rest.drop size)
      return ⟨a.toNat + 256 * b.toNat, ⟨(rest.take size).toArray⟩⟩ :: more
  | _ => some []
termination_by bytes => bytes.length
decreasing_by
  rw [List.length_drop]
  simp only [List.length_cons]
  omega

/-- The number that says that a field of four bytes has no room for its value. -/
def noRoom : Nat := 0xFFFFFFFF

/-- The value of a field that may have no room, and the position after it in the extra field with
the wide values; `always` if that field has all values. -/
def wide? (content : ByteArray) (always : Bool) (value position : Nat) : Option (Nat × Nat) :=
  if always || value = noRoom then do
    let wide ← u8At? content position
    return (wide, position + 8)
  else some (value, position)

/-- The text of an extra field that repeats a field in UTF-8; it holds the checksum of what it
repeats. -/
def repeated? (content : ByteArray) (old : List UInt8) : Option (ByteArray × String) := do
  let sum ← u4At? content 1
  let bytes := content.extract 5 content.size
  let text ← String.fromUTF8? bytes
  if sum.toUInt32 = checksum old.toArray then return (bytes, text) else none

namespace Entry

/-- Sizes and positions of eight bytes each. -/
def withWideNumbers? (entry : Entry) (content : ByteArray) : Option Entry := do
  let always := decide (24 ≤ content.size)
  let (fullSize, position) ← wide? content always entry.fullSize 0
  let (size, position) ← wide? content always entry.size position
  let (start, _) ← wide? content always entry.start position
  return { entry with fullSize, size, start }

/-- A name in UTF-8. -/
def withName? (entry : Entry) (content : ByteArray) : Option Entry := do
  let (bytes, name) ← repeated? content entry.key
  return { entry with name, key := bytes.data.toList }

/-- A comment in UTF-8. -/
def withComment? (entry : Entry) (content : ByteArray) : Option Entry := do
  let (_, comment) ← repeated? content entry.comment.toUTF8.data.toList
  return { entry with comment }

/-- A cipher, and the method under it. -/
def withCipher? (entry : Entry) (content : ByteArray) : Option Entry := do
  let version ← u2At? content 0
  let vendor ← u2At? content 2
  let strength ← byteAt? content 4
  let method ← u2At? content 5
  if content.size = 7 ∧ (version = 1 ∨ version = 2) ∧ vendor = 0x4541 ∧
      (1 ≤ strength ∧ strength ≤ 3) then
    return { entry with method, isCiphered := true }
  else none

/-- How many times a field of times has, by its flags. -/
def timeCount (flags : Nat) : Nat := ((List.range 8).filter flags.testBit).length

/-- Times, which do not matter here, have a flag for each; one time may stand for all. -/
def withTimes? (entry : Entry) (content : ByteArray) : Option Entry := do
  let flags ← byteAt? content 0
  if content.size = 5 ∨ content.size = 1 + 4 * timeCount flags then return entry else none

/-- Times of another file system, which do not matter here, are one attribute of 24 bytes. -/
def withFineTimes? (entry : Entry) (content : ByteArray) : Option Entry := do
  let tag ← u2At? content 4
  let size ← u2At? content 6
  if content.size = 32 ∧ tag = 1 ∧ size = 24 then return entry else none

/-- Applies an extra field. -/
def withExtra? (entry : Entry) (extra : Extra) : Option Entry :=
  match extra.kind with
  | 0x0001 => entry.withWideNumbers? extra.content
  | 0x000A => entry.withFineTimes? extra.content
  | 0x5455 => entry.withTimes? extra.content
  | 0x6375 => entry.withComment? extra.content
  | 0x7075 => entry.withName? extra.content
  | 0x9901 => entry.withCipher? extra.content
  | _ => some entry

/-- Applies the extra fields of a record. -/
def withExtras? (entry : Entry) (bytes : List UInt8) : Option Entry := do
  let extras ← extras? bytes
  extras.foldlM withExtra? entry

end Entry

end CallGraph.Zip
