/-!
Contract: the checksum of archived data.

Owns: `checksum`, the 32 bit cyclic redundancy check with the reflected
polynomial `0xEDB88320`, started and finished with all bits set.
-/

namespace Findings.Zip

/-- One bit of the division. -/
def checksumBit (remainder : UInt32) : UInt32 :=
  if remainder &&& 1 = 1 then (remainder >>> 1) ^^^ 0xEDB88320 else remainder >>> 1

def checksumOctet (remainder : UInt32) (octet : UInt8) : UInt32 :=
  Nat.repeat checksumBit 8 (remainder ^^^ octet.toUInt32)

def checksum (octets : ByteArray) : UInt32 :=
  octets.foldl checksumOctet 0xFFFFFFFF ^^^ 0xFFFFFFFF

end Findings.Zip
