import CallGraph.Zip.Entry

/-!
# The directory of an archive

An archive ends in a record that tells where its directory stands. Bytes may precede the archive,
which moves everything in it by the same distance, and bytes that look like an end record may
follow it: the last end record that leads to a directory counts. A large archive has a wide end
record before the plain one, and a locator between them that tells where the wide one stands.

* `EndRecord.directory?` tells where the directory of an end record stands.
* `lastDirectory?` reads the directory that counts.
-/

namespace CallGraph.Zip

/-- The number that marks an end record. -/
def endMark : Nat := 0x06054B50

/-- The number that marks a wide end record. -/
def wideEndMark : Nat := 0x06064B50

/-- The number that marks the locator of a wide end record. -/
def locatorMark : Nat := 0x07064B50

/-- The number that marks a record of the directory. -/
def recordMark : Nat := 0x02014B50

/-- Where a directory stands, how many records it has, and how far the archive is moved. -/
structure Directory where
  start : Nat
  count : Nat
  shift : Nat
deriving Repr

/-! ## Records -/

/-- The number of a method that stands for a cipher. -/
def cipherMethod : Nat := 99

/-- No position is as large as this. -/
def positionBound : Nat := 0x10000000000000000

/-- Reads the record of a directory at `position`, and gives the position after it. Entries are
moved by `shift`. -/
def record? (file : ByteArray) (shift position : Nat) : Option (Entry × Nat) := do
  let mark ← u4At? file position
  if mark ≠ recordMark then none
  else do
    let flags ← u2At? file (position + 8)
    let method ← u2At? file (position + 10)
    let checksum ← u4At? file (position + 16)
    let size ← u4At? file (position + 20)
    let fullSize ← u4At? file (position + 24)
    let extrasStart := position + 46 + (← u2At? file (position + 28))
    let commentStart := extrasStart + (← u2At? file (position + 30))
    let next := commentStart + (← u2At? file (position + 32))
    let start ← u4At? file (position + 42)
    let name ← slice? file (position + 46) extrasStart
    let extras ← slice? file extrasStart commentStart
    let comment ← slice? file commentStart next
    let plain : Entry :=
      { name := textOf flags name.data.toList, key := name.data.toList
        comment := textOf flags comment.data.toList
        flags, method, checksum := checksum.toUInt32, size, fullSize, start }
    let entry ← plain.withExtras? extras.data.toList
    if (entry.method = cipherMethod ∧ ¬entry.isCiphered) ∨ positionBound ≤ entry.start + shift then
      none
    else return ({ entry with start := entry.start + shift }, next)

/-- Reads `n` records of a directory from a position on. -/
def records? (file : ByteArray) (shift : Nat) : (n position : Nat) → Option (List Entry)
  | 0, _ => some []
  | n + 1, position => do
    let (entry, next) ← record? file shift position
    let entries ← records? file shift n next
    return entry :: entries

/-- The entries of a directory. -/
def Directory.entries? (file : ByteArray) (directory : Directory) : Option (List Entry) :=
  records? file directory.shift directory.count directory.start

/-! ## End records -/

/-- The positions from `position` on that hold a mark, of `n` positions. -/
def marks (file : ByteArray) (mark : Nat) (n position : Nat) : List Nat :=
  ((List.range n).map (position + ·)).filter fun p => u4At? file p = some mark

/-- The first position from `position` on that holds a mark, of `n` positions. -/
def findMark? (file : ByteArray) (mark : Nat) : (n position : Nat) → Option Nat
  | 0, _ => none
  | n + 1, position =>
    if u4At? file position = some mark then some position
    else findMark? file mark n (position + 1)

/-- The plain end record of an archive. -/
structure EndRecord where
  /-- Where the record stands. -/
  position : Nat
  disk : Nat
  directoryDisk : Nat
  /-- The number of records on this disk. -/
  here : Nat
  /-- The number of records on all disks. -/
  all : Nat
  /-- Where the directory stands in an archive that is not moved. -/
  offset : Nat
deriving Repr

/-- Reads the end record at a position; its comment must end with the file or before. -/
def EndRecord.read? (file : ByteArray) (position : Nat) : Option EndRecord := do
  let mark ← u4At? file position
  if mark ≠ endMark then none
  else do
    let disk ← u2At? file (position + 4)
    let directoryDisk ← u2At? file (position + 6)
    let here ← u2At? file (position + 8)
    let all ← u2At? file (position + 10)
    let offset ← u4At? file (position + 16)
    let comment ← u2At? file (position + 20)
    if file.size < position + 22 + comment then none
    else return { position, disk, directoryDisk, here, all, offset }

/-- The directory of a plain end record. The archive is moved so that its directory begins with the
first record mark that stands where the record says or later. -/
def EndRecord.plainDirectory? (file : ByteArray) (e : EndRecord) : Option Directory :=
  if e.disk ≠ e.directoryDisk then none
  else if e.all = 0 then
    let shift := e.position - e.offset
    some { start := e.offset + shift, count := e.here, shift }
  else do
    let start ← findMark? file recordMark (e.position - e.offset) e.offset
    return { start, count := e.here, shift := start - e.offset }

/-! ## Large archives -/

/-- The locator of a wide end record. -/
structure Locator where
  position : Nat
  directoryDisk : Nat
  /-- Where the wide end record stands in an archive that is not moved. -/
  offset : Nat
  disks : Nat
deriving Repr

/-- The locator right before an end record. -/
def EndRecord.locator? (file : ByteArray) (e : EndRecord) : Option Locator :=
  if e.position < 20 then none
  else do
    let position := e.position - 20
    let mark ← u4At? file position
    if mark ≠ locatorMark then none
    else do
      let directoryDisk ← u4At? file (position + 4)
      let offset ← u8At? file (position + 8)
      let disks ← u4At? file (position + 16)
      return { position, directoryDisk, offset, disks }

/-- What a wide end record tells. -/
structure WideEndRecord where
  disk : Nat
  directoryDisk : Nat
  here : Nat
  all : Nat
  offset : Nat
deriving Repr

/-- The wide end record at a position. It must reach exactly to its locator, and its directory must
have room before it. -/
def Locator.wideEndRecord? (file : ByteArray) (locator : Locator) (position : Nat) :
    Option WideEndRecord := do
  let mark ← u4At? file position
  let size ← u8At? file (position + 4)
  let disk ← u4At? file (position + 16)
  let directoryDisk ← u4At? file (position + 20)
  let here ← u8At? file (position + 24)
  let all ← u8At? file (position + 32)
  let offset ← u8At? file (position + 48)
  if mark = wideEndMark ∧ 44 ≤ size ∧ position + size + 12 = locator.position ∧
      directoryDisk = locator.directoryDisk ∧ all * 46 + offset ≤ position then
    return { disk, directoryDisk, here, all, offset }
  else none

/-- The directory of a wide end record, the first one that stands where its locator says or
later. -/
def Locator.directory? (file : ByteArray) (locator : Locator) : Option Directory := do
  if locator.position ≤ locator.offset ∨ 1 < locator.disks then none
  else do
    let candidates := marks file wideEndMark (locator.position - locator.offset) locator.offset
    let (position, e) ← candidates.findSome? fun p =>
      (locator.wideEndRecord? file p).map fun e => (p, e)
    let shift := position - locator.offset
    if e.all < e.here ∨ e.disk ≠ e.directoryDisk then none
    else return { start := e.offset + shift, count := e.all, shift }

/-- The directory that an end record leads to; one that has no room for its numbers may have a
locator of a wide one. -/
def EndRecord.directory? (file : ByteArray) (e : EndRecord) : Option Directory :=
  if e.all = 0xFFFF ∨ e.offset = noRoom then
    match e.locator? file with
    | some locator => locator.directory? file
    | none => e.plainDirectory? file
  else e.plainDirectory? file

/-! ## The directory that counts -/

/-- The entries of the directory that an end record at a position leads to. -/
def entriesAt? (file : ByteArray) (position : Nat) : Option (List Entry) := do
  let record ← EndRecord.read? file position
  let directory ← record.directory? file
  directory.entries? file

/-- The entries of the last directory that an end record before `position` leads to. -/
def lastDirectory? (file : ByteArray) : (position : Nat) → Option (List Entry)
  | 0 => none
  | position + 1 =>
    match entriesAt? file position with
    | some entries => some entries
    | none => lastDirectory? file position

end CallGraph.Zip
