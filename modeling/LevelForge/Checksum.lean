/-!
# Checksums

The cyclic redundancy check of 32 bits (reflected polynomial `0xEDB88320`) of a text in UTF-8. A
level that configures no seed is played with the checksum of its id.
-/

namespace LevelForge.Checksum

/-- One bit of the division by the reflected polynomial. -/
def shiftBit (register : UInt32) : UInt32 :=
  if register &&& 1 = 1 then (register >>> 1) ^^^ 0xEDB88320 else register >>> 1

/-- The register after one more byte. -/
def addByte (register : UInt32) (byte : UInt8) : UInt32 :=
  Nat.repeat shiftBit 8 (register ^^^ byte.toUInt32)

/-- The checksum of a sequence of bytes. -/
def ofBytes (bytes : List UInt8) : UInt32 :=
  bytes.foldl addByte 0xFFFFFFFF ^^^ 0xFFFFFFFF

/-- The checksum of a text. -/
def ofText (text : String) : UInt32 :=
  ofBytes text.toUTF8.toList

end LevelForge.Checksum
