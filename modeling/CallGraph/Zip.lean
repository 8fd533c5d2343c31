import CallGraph.Explanation
import CallGraph.Zip.Directory
import CallGraph.Zip.Inflate
import Std.Data.ExtTreeMap
import Std.Data.ExtTreeSet

/-!
# Zip archives

A zip archive has a directory, and the directory tells where each entry stands. An entry has a
header of its own, which is only looked at when the entry is opened.

* `Zip.entries?` lists the entries.
* `Zip.opened?` finds the stored bytes of an entry, `Zip.content` turns them into its content.
-/

namespace CallGraph.Zip

open Std (ExtTreeMap ExtTreeSet)

/-- The entries of an archive, each name once: the last entry of a name, in the place of the
first. -/
def distinct (entries : List Entry) : List Entry :=
  go (entries.foldl (fun last e => last.insert e.key e) ∅) ∅ entries
where
  /-- `last` holds the last entry of each name, and `seen` the names met before. -/
  go (last : ExtTreeMap (List UInt8) Entry) (seen : ExtTreeSet (List UInt8)) :
      List Entry → List Entry
    | [] => []
    | e :: rest =>
      if seen.contains e.key then go last seen rest
      else last[e.key]?.getD e :: go last (seen.insert e.key) rest

/-- The entries of an archive. -/
def entries? (file : ByteArray) : Option (List Entry) :=
  (lastDirectory? file (file.size + 1)).map distinct

/-! ## Opening entries -/

/-- How an entry is stored. -/
inductive Method
  | stored
  | deflated
  /-- In one of the forms that can be opened but are not read here. -/
  | packed
deriving DecidableEq, Repr

/-- The method with a number. -/
def Method.ofNumber? : Nat → Option Method
  | 0 => some .stored
  | 8 => some .deflated
  | 9 | 12 | 14 | 93 | 95 | 98 => some .packed
  | _ => none

/-- The number that marks an entry. -/
def entryMark : Nat := 0x04034B50

/-- Where the stored bytes of an entry begin. -/
def Entry.dataStart? (file : ByteArray) (entry : Entry) : Option Nat := do
  let mark ← u4At? file entry.start
  if mark ≠ entryMark then none
  else do
    let name ← u2At? file (entry.start + 26)
    let extras ← u2At? file (entry.start + 28)
    return entry.start + 30 + name + extras

/-- The stored bytes of an entry and how to read them; encrypted entries and those of unknown
methods cannot be opened. Stored bytes end with the file at the latest. -/
def opened? (file : ByteArray) (entry : Entry) : Option (Method × ByteArray) := do
  let start ← entry.dataStart? file
  let method ← Method.ofNumber? entry.method
  if entry.flags &&& encryptedFlag = 0 ∧ ¬entry.isCiphered then
    return (method, file.extract start (min (start + entry.size) file.size))
  else none

/-- The content of an entry, which must have the checksum of the directory. -/
def content (entry : Entry) (method : Method) (raw : ByteArray) : Except FileError ByteArray := do
  let bytes ←
    match method with
    | .stored => pure raw.data
    | .deflated =>
      match inflate raw.data.toList with
      | .ok bytes => pure bytes
      | .error .ended => .error .unexpectedEnd
      | .error .corrupt => .error .invalidInput
    | .packed => .error .invalidInput
  if checksum bytes = entry.checksum then return ⟨bytes⟩ else .error .invalidData

end CallGraph.Zip
