/-!
# Checksums

The cyclic redundancy check over 32 bits that zip archives store with each entry.
-/

namespace CallGraph.Zip

/-- One step of the check: a bit leaves at the low end. -/
def checksumStep (c : UInt32) : UInt32 :=
  if c &&& 1 = 1 then (c >>> 1) ^^^ 0xEDB88320 else c >>> 1

/-- What the check makes of each byte. -/
def checksumTable : Array UInt32 :=
  List.toArray <| (List.range 256).map fun n =>
    (List.range 8).foldl (fun c _ => checksumStep c) n.toUInt32

/-- Takes one byte into a running check. -/
def checksumByte (c : UInt32) (b : UInt8) : UInt32 :=
  (checksumTable[((c ^^^ b.toUInt32) &&& 0xFF).toNat]?.getD 0) ^^^ (c >>> 8)

/-- The checksum of bytes. -/
def checksum (bytes : Array UInt8) : UInt32 := bytes.foldl checksumByte 0xFFFFFFFF ^^^ 0xFFFFFFFF

end CallGraph.Zip
