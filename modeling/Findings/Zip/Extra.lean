import Findings.Text.Utf8
import Findings.Zip.Checksum

/-!
Contract: what the extra fields of a directory entry add to it.

Owns:
- `Draft`, what an entry says before its extra fields are read;
- the fields that change it: sizes and places of eight octets, encryption with
  the method behind it, and a name in UTF-8 with the checksum of the name that
  it replaces;
- the fields that only have to be well formed: times and comments.

A field that ends too early ends the reading, and what was read before it
counts; any other mistake makes the entry bad.
-/

namespace Findings.Zip

/-- What a directory entry says before its extra fields are read. -/
structure Draft where
  rawName : List UInt8
  name : String
  /-- The octets of the comment in UTF-8. -/
  comment : List UInt8
  method : Nat
  size : Nat
  packedSize : Nat
  /-- Where the header of the data stands in the archive. -/
  header : Nat
  /-- Whether a field says that the data are encrypted. -/
  isSealed : Bool
deriving Repr

/-- Why no more extra fields are read. -/
inductive ExtraStop where
  | tooShort
  | invalid
deriving DecidableEq, Repr

abbrev ExtraReader (α : Type) := ExceptT ExtraStop (StateM (Draft × List UInt8)) α

namespace ExtraReader

def octets (count : Nat) : ExtraReader (List UInt8) := do
  let (draft, rest) ← get
  if rest.length < count then
    throw .tooShort
  else
    set (draft, rest.drop count)
    return rest.take count

def number (count : Nat) : ExtraReader Nat :=
  return (← octets count).foldr (fun octet higher => octet.toNat + 256 * higher) 0

/-- Refuses the entry unless something holds. -/
def require (condition : Bool) : ExtraReader Unit :=
  if condition then return else throw .invalid

def change (update : Draft → Draft) : ExtraReader Unit :=
  modify fun (draft, rest) => (update draft, rest)

def draft : ExtraReader Draft :=
  return (← get).1

end ExtraReader

/-! ## Fields -/

/-- The value that says that a number is in a field of large numbers. -/
def largeMark : Nat := 0xFFFFFFFF

/-- Reads the numbers of eight octets that stand for marked ones, or for all if
the field has room for them. -/
def readLargeNumbers (length : Nat) : ExtraReader Unit := do
  let hasAll := 24 ≤ length
  let mut used := 0
  if hasAll || (← ExtraReader.draft).size = largeMark then
    let size ← ExtraReader.number 8
    ExtraReader.change fun draft => { draft with size := size }
    used := used + 8
  if hasAll || (← ExtraReader.draft).packedSize = largeMark then
    let size ← ExtraReader.number 8
    ExtraReader.change fun draft => { draft with packedSize := size }
    used := used + 8
  if hasAll || (← ExtraReader.draft).header = largeMark then
    let place ← ExtraReader.number 8
    ExtraReader.change fun draft => { draft with header := place }
    used := used + 8
  ExtraReader.require (used ≤ length)
  let _ ← ExtraReader.octets (length - used)

def readFineTimes (length : Nat) : ExtraReader Unit := do
  ExtraReader.require (length = 32)
  let _ ← ExtraReader.number 4
  ExtraReader.require ((← ExtraReader.number 2) = 1)
  ExtraReader.require ((← ExtraReader.number 2) = 24)
  let _ ← ExtraReader.octets 24

/-- The vendor of the encryption that is known. -/
def knownVendor : Nat := 0x4541

def readEncryption (length : Nat) : ExtraReader Unit := do
  ExtraReader.require (length = 7)
  let version ← ExtraReader.number 2
  let vendor ← ExtraReader.number 2
  let strength ← ExtraReader.number 1
  let method ← ExtraReader.number 2
  ExtraReader.require (vendor = knownVendor)
  ExtraReader.require (version = 1 || version = 2)
  ExtraReader.require (1 ≤ strength && strength ≤ 3)
  ExtraReader.change fun draft => { draft with method := method, isSealed := true }

/-- Reads times of four octets each, one for each flag; a field with room for
one holds the first of them. -/
def readTimes (length : Nat) : ExtraReader Unit := do
  let flags ← ExtraReader.number 1
  let isSet (bit : Nat) : Bool := flags.testBit bit
  let count := ((List.range 8).filter isSet).length
  ExtraReader.require (length = 5 || length = 1 + 4 * count)
  ExtraReader.require (flags < 8)
  if isSet 0 || length = 5 then
    let _ ← ExtraReader.number 4
  if isSet 1 && 5 < length then
    let _ ← ExtraReader.number 4
  if isSet 2 && 5 < length then
    let _ ← ExtraReader.number 4

/-- Reads a text in UTF-8 that replaces another one, of which it has the
checksum. -/
def readReplacement (length : Nat) (replaced : List UInt8) :
    ExtraReader (List UInt8 × List Char) := do
  let _ ← ExtraReader.number 1
  let sum ← ExtraReader.number 4
  ExtraReader.require (5 ≤ length)
  let content ← ExtraReader.octets (length - 5)
  ExtraReader.require (sum.toUInt32 = checksum (ByteArray.mk replaced.toArray))
  match Text.decode? content with
  | some text => return (content, text)
  | none => throw .invalid

def readExtra (kind length : Nat) : ExtraReader Unit := do
  match kind with
  | 0x0001 => readLargeNumbers length
  | 0x000a => readFineTimes length
  | 0x9901 => readEncryption length
  | 0x5455 => readTimes length
  | 0x6375 =>
    let (content, _) ← readReplacement length (← ExtraReader.draft).comment
    ExtraReader.change fun draft => { draft with comment := content }
  | 0x7075 =>
    let (content, text) ← readReplacement length (← ExtraReader.draft).rawName
    ExtraReader.change fun draft =>
      { draft with rawName := content, name := String.ofList text }
  | _ =>
    let _ ← ExtraReader.octets length

def readExtras : Nat → ExtraReader Unit
  | 0 => return
  | bound + 1 => do
    let kind ← ExtraReader.number 2
    let length ← ExtraReader.number 2
    readExtra kind length
    readExtras bound

/-- A draft after its extra fields, unless they make it bad. -/
def Draft.withExtras? (draft : Draft) (extras : List UInt8) : Option Draft :=
  match (readExtras extras.length).run (draft, extras) with
  | (.error .invalid, _) => none
  | (_, (draft, _)) => some draft

end Findings.Zip
