import Findings.Text.Utf8
import Findings.Zip.Checksum
import Findings.Zip.CodePage
import Findings.Zip.Extra
import Findings.Zip.Fault
import Findings.Zip.Inflate

/-!
Contract: archives of named data.

Owns:
- finding the directory of an archive, from its end; other data may stand
  before the archive and after it;
- the larger record at the end, which is looked for where the smaller one has
  no room for a number;
- `Entry`, what the directory says about the data of one name;
- `Archive.entry?`, the entry of a name, which is compared as it is; of several
  entries of a name the last counts;
- `Archive.content`, the data of an entry, checked against their checksum.

What the directory says counts: of the header in front of the data only the
lengths of its name and of its extra field are read.
-/

namespace Findings.Zip

/-! ## Numbers -/

/-- A number of octets at a place, the lowest first; octets beyond the end are
zero. -/
def number (octets : ByteArray) (place : Nat) : Nat → Nat
  | 0 => 0
  | count + 1 =>
    (octets[place]?.getD 0).toNat + 256 * number octets (place + 1) count

def short (octets : ByteArray) (place : Nat) : Nat :=
  number octets place 2

def long (octets : ByteArray) (place : Nat) : Nat :=
  number octets place 4

def dataMark : Nat := 0x04034b50

def entryMark : Nat := 0x02014b50

def endMark : Nat := 0x06054b50

/-- The mark of the larger record at the end. -/
def largeEndMark : Nat := 0x06064b50

/-- The mark of the record that says where the larger one is. -/
def locatorMark : Nat := 0x07064b50

/-! ## Entries -/

/-- What the directory says about the data of one name. -/
structure Entry where
  name : String
  encrypted : Bool
  method : Nat
  checksum : UInt32
  /-- The number of octets that the data take in the archive. -/
  packedSize : Nat
  /-- Where the header of the data stands. -/
  header : Nat
deriving DecidableEq, Repr

/-- A text of an entry, in UTF-8 if a flag says so. -/
def entryText (flags : Nat) (octets : List UInt8) : List Char :=
  if flags.testBit 11 then Text.decodeLossy octets else octets.map codePageChar

structure Directory where
  /-- The number of octets that stand before the archive. -/
  before : Nat
  start : Nat
  count : Nat
deriving DecidableEq, Repr

/-- The method of data whose true method is in an extra field. -/
def sealedMethod : Nat := 99

/-- The entry at a place of a directory, with the place after it.  Its data
have to start before the directory. -/
def entryAt? (octets : ByteArray) (directory : Directory) (place : Nat) :
    Option (Entry × Nat) := do
  let nameEnd := place + 46 + short octets (place + 28)
  let extraEnd := nameEnd + short octets (place + 30)
  let next := extraEnd + short octets (place + 32)
  if place + 46 ≤ octets.size ∧ next ≤ octets.size ∧ long octets place = entryMark then
    let flags := short octets (place + 8)
    let rawName := (octets.extract (place + 46) nameEnd).toList
    let draft : Draft :=
      { rawName := rawName
        name := String.ofList (entryText flags rawName)
        comment := Text.utf8 (entryText flags (octets.extract extraEnd next).toList)
        method := short octets (place + 10)
        size := long octets (place + 24)
        packedSize := long octets (place + 20)
        header := long octets (place + 42)
        isSealed := false }
    let draft ← draft.withExtras? (octets.extract nameEnd extraEnd).toList
    let header := directory.before + draft.header
    if draft.method = sealedMethod ∧ !draft.isSealed ∨ directory.start ≤ header then
      none
    else
      some (
        { name := draft.name
          encrypted := flags.testBit 0 || draft.isSealed
          method := draft.method
          checksum := (long octets (place + 16)).toUInt32
          packedSize := draft.packedSize
          header := header },
        next)
  else
    none

def entriesAt? (octets : ByteArray) (directory : Directory) : Nat → Nat → Option (List Entry)
  | 0, _ => some []
  | count + 1, place => do
    let (entry, next) ← entryAt? octets directory place
    return entry :: (← entriesAt? octets directory count next)

/-! ## Directories -/

def marked (octets : ByteArray) (mark start stop : Nat) : List Nat :=
  ((List.range (stop - start)).map (start + ·)).filter fun place =>
    place + 4 ≤ stop && long octets place == mark

def firstMarked? (octets : ByteArray) (mark start stop : Nat) : Option Nat :=
  ((List.range (stop - start)).find? fun distance =>
    start + distance + 4 ≤ stop && long octets (start + distance) == mark).map (start + ·)

/-- The directory of a record at the end.  Data before the archive move its
first entry away from where the record says it is. -/
def smallDirectory? (octets : ByteArray) (place : Nat) : Option Directory := do
  let recorded := long octets (place + 16)
  if short octets (place + 4) ≠ short octets (place + 6) then
    none
  else if short octets (place + 10) = 0 then
    let before := place - recorded
    some ⟨before, recorded + before, short octets (place + 8)⟩
  else
    let start ← if recorded < place then firstMarked? octets entryMark recorded place else none
    some ⟨start - recorded, start, short octets (place + 8)⟩

def locatorSize : Nat := 20

/-- The directory of a larger record at a place, given where its locator says
that it is and where the locator stands.  The second answer says whether the
record is the one that the locator means. -/
def largeDirectoryAt? (octets : ByteArray) (recorded locator place : Nat) :
    Option (Option Directory) :=
  let eight (offset : Nat) : Nat := number octets (place + offset) 8
  let start := eight 48
  let count := eight 32
  if eight 4 < 44 ∨ eight 4 + 12 ≠ locator - place
      ∨ long octets (place + 20) ≠ long octets (locator + 4)
      ∨ place < start + 46 * count then
    none
  else if count < eight 24 ∨ short octets (place + 12) < short octets (place + 14)
      ∨ long octets (place + 16) ≠ long octets (place + 20) then
    some none
  else
    let before := place - recorded
    some (some ⟨before, start + before, count⟩)

def largeDirectory? (octets : ByteArray) (locator : Nat) : Option Directory := do
  let recorded := number octets (locator + 8) 8
  if locator ≤ recorded ∨ 1 < long octets (locator + 16) then
    none
  else
    ((marked octets largeEndMark recorded locator).findSome?
      (largeDirectoryAt? octets recorded locator)).join

/-- The entries of the directory whose record stands at a place. -/
def directoryAt? (octets : ByteArray) (place : Nat) : Option (List Entry) := do
  if long octets place ≠ endMark ∨ octets.size < place + 22 + short octets (place + 20) then
    none
  else
    let mayBeLarge := short octets (place + 10) = 0xFFFF ∨ long octets (place + 16) = largeMark
    let hasLocator := locatorSize ≤ place ∧ long octets (place - locatorSize) = locatorMark
    let directory ←
      if mayBeLarge ∧ hasLocator then largeDirectory? octets (place - locatorSize)
      else smallDirectory? octets place
    entriesAt? octets directory directory.count directory.start

/-- The entries of the last directory whose record stands before a place. -/
def lastDirectory? (octets : ByteArray) : Nat → Option (List Entry)
  | 0 => none
  | place + 1 =>
    match directoryAt? octets place with
    | some entries => some entries
    | none => lastDirectory? octets place

structure Archive where
  octets : ByteArray
  entries : List Entry

namespace Archive

def ofOctets? (octets : List UInt8) : Option Archive :=
  let octets := ByteArray.mk octets.toArray
  (lastDirectory? octets (octets.size - 21)).map fun entries => ⟨octets, entries⟩

def entry? (archive : Archive) (name : String) : Option Entry :=
  archive.entries.reverse.find? (·.name = name)

/-! ## Data -/

inductive Method where
  | stored
  | deflated
deriving DecidableEq, Repr

def packed (archive : Archive) (entry : Entry) : Except Fault (Method × ByteArray) := do
  let octets := archive.octets
  let place := entry.header
  if octets.size < place + 30 ∨ long octets place ≠ dataMark then
    .error .badEntry
  else if entry.encrypted then
    .error .encrypted
  else
    let method ←
      if entry.method = 0 then .ok .stored
      else if entry.method = 8 then .ok .deflated
      else .error .unknownMethod
    let start := place + 30 + short octets (place + 26) + short octets (place + 28)
    return (method, octets.extract start (start + entry.packedSize))

/-- The data of an entry, if they are sound. -/
def unpack? (entry : Entry) (method : Method) (data : ByteArray) : Option (List UInt8) := do
  let content ← match method with
    | .stored => some data
    | .deflated => inflate data
  if checksum content = entry.checksum then some content.toList else none

end Archive

end Findings.Zip
