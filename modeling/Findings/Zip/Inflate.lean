/-!
Contract: data compressed by deflation.

Owns:
- reading bits, the lowest bit of an octet first;
- canonical prefix codes, which must be complete unless they have no word or a
  single one of one bit;
- the three kinds of blocks;
- `inflate`, which needs the end of the last block and takes no notice of what
  follows it.

A copy may reach back by up to 32768 octets, but not beyond the first one.

Does not own: checksums and sizes.
-/

namespace Findings.Zip

/-! ## Bits -/

/-- Compressed data with the number of bits that were read. -/
structure BitSource where
  octets : ByteArray
  position : Nat

abbrev Inflater (α : Type) := StateT BitSource Option α

namespace Inflater

def bit : Inflater Nat := do
  let ⟨octets, position⟩ ← get
  match octets[position / 8]? with
  | none => failure
  | some octet =>
    set (BitSource.mk octets (position + 1))
    return octet.toNat / Nat.pow 2 (position % 8) % 2

/-- Reads a number, its lowest bit first. -/
def bits : Nat → Inflater Nat
  | 0 => return 0
  | count + 1 => do
    let low ← bit
    return low + 2 * (← bits count)

def alignToOctet : Inflater Unit :=
  modify fun source => { source with position := (source.position + 7) / 8 * 8 }

end Inflater

/-! ## Prefix codes -/

def maxWordLength : Nat := 15

/-- A canonical prefix code: the number of words of each length, and the
symbols in the order of their words. -/
structure PrefixCode where
  counts : Array Nat
  symbols : Array Nat

namespace PrefixCode

/-- The code in which each symbol has a word of the given length; none if the
length is zero. -/
def ofLengths (lengths : List Nat) : PrefixCode where
  counts := (Array.range (maxWordLength + 1)).map fun length =>
    if length = 0 then 0 else lengths.countP (· = length)
  symbols :=
    ((List.range (maxWordLength + 1)).tail.flatMap fun length =>
      (lengths.zipIdx.filter (·.1 = length)).map Prod.snd).toArray

def size (code : PrefixCode) : Nat :=
  code.symbols.size

/-- Whether every long enough sequence of bits begins with exactly one
word. -/
def isComplete (code : PrefixCode) : Bool :=
  ((List.range (maxWordLength + 1)).map fun length =>
    (code.counts[length]?.getD 0) * Nat.pow 2 (maxWordLength - length)).foldl (· + ·) 0
    == Nat.pow 2 maxWordLength

/-- Reads the rest of a word, the words of at least one length being tried.
`word` holds the bits so far and `first` the first word of their length, whose
symbol has the number `index`. -/
def readWord (code : PrefixCode) :
    Nat → (length word first index : Nat) → Inflater Nat
  | 0, _, _, _, _ => failure
  | bound + 1, length, word, first, index => do
    let word := 2 * word + (← Inflater.bit)
    let first := 2 * first
    let count := code.counts[length]?.getD 0
    if word < first + count then
      match code.symbols[index + (word - first)]? with
      | some symbol => return symbol
      | none => failure
    else
      readWord code bound (length + 1) word (first + count) (index + count)

def read (code : PrefixCode) : Inflater Nat :=
  code.readWord maxWordLength 1 0 0 0

end PrefixCode

/-! ## Copies -/

/-- The least length that each length symbol stands for, with the number of
bits that are added to it. -/
def lengthSymbols : Array (Nat × Nat) := #[
  (3, 0), (4, 0), (5, 0), (6, 0), (7, 0), (8, 0), (9, 0), (10, 0), (11, 1), (13, 1),
  (15, 1), (17, 1), (19, 2), (23, 2), (27, 2), (31, 2), (35, 3), (43, 3), (51, 3),
  (59, 3), (67, 4), (83, 4), (99, 4), (115, 4), (131, 5), (163, 5), (195, 5), (227, 5),
  (258, 0)]

/-- The least distance that each distance symbol stands for, with the number of
bits that are added to it. -/
def distanceSymbols : Array (Nat × Nat) := #[
  (1, 0), (2, 0), (3, 0), (4, 0), (5, 1), (7, 1), (9, 2), (13, 2), (17, 3), (25, 3),
  (33, 4), (49, 4), (65, 5), (97, 5), (129, 6), (193, 6), (257, 7), (385, 7), (513, 8),
  (769, 8), (1025, 9), (1537, 9), (2049, 10), (3073, 10), (4097, 11), (6145, 11),
  (8193, 12), (12289, 12), (16385, 13), (24577, 13)]

/-- Reads the number that a symbol of a table stands for. -/
def extended (table : Array (Nat × Nat)) (symbol : Nat) : Inflater Nat := do
  match table[symbol]? with
  | none => failure
  | some (least, added) => return least + (← Inflater.bits added)

/-- Repeats octets that stand at a distance from the end. -/
def repeatFrom (distance : Nat) : Nat → ByteArray → ByteArray
  | 0, written => written
  | count + 1, written =>
    repeatFrom distance count (written.push (written[written.size - distance]?.getD 0))

/-! ## Blocks -/

structure BlockCodes where
  literals : PrefixCode
  distances : PrefixCode

def blockEnd : Nat := 256

def symbols (codes : BlockCodes) : Nat → ByteArray → Inflater ByteArray
  | 0, _ => failure
  | bound + 1, written => do
    let symbol ← codes.literals.read
    if symbol < 256 then
      symbols codes bound (written.push symbol.toUInt8)
    else if symbol = blockEnd then
      return written
    else
      let length ← extended lengthSymbols (symbol - 257)
      let distance ← extended distanceSymbols (← codes.distances.read)
      if written.size < distance then failure
      symbols codes bound (repeatFrom distance length written)

/-- The codes that need not be sent. -/
def fixedCodes : BlockCodes where
  literals := .ofLengths
    (List.replicate 144 8 ++ List.replicate 112 9 ++ List.replicate 24 7 ++ List.replicate 8 8)
  distances := .ofLengths (List.replicate 32 5)

/-- The order in which the lengths of the code for lengths are sent. -/
def lengthOrder : List Nat :=
  [16, 17, 18, 0, 8, 7, 9, 6, 10, 5, 11, 4, 12, 3, 13, 2, 14, 1, 15]

/-- Reads lengths of words until there are `total`, those already read being
given last first. -/
def wordLengths (code : PrefixCode) (total : Nat) : Nat → List Nat → Inflater (List Nat)
  | 0, _ => failure
  | bound + 1, read => do
    if total < read.length then failure
    else if read.length = total then return read.reverse
    else
      let symbol ← code.read
      if symbol < 16 then
        wordLengths code total bound (symbol :: read)
      else if symbol = 16 then
        match read with
        | [] => failure
        | last :: _ =>
          let count := 3 + (← Inflater.bits 2)
          wordLengths code total bound (List.replicate count last ++ read)
      else
        let count ← if symbol = 17 then (3 + ·) <$> Inflater.bits 3
          else (11 + ·) <$> Inflater.bits 7
        wordLengths code total bound (List.replicate count 0 ++ read)

/-- A code that is complete, or has no word, or a single one of one bit. -/
def usableCode (lengths : List Nat) : Inflater PrefixCode :=
  let code := PrefixCode.ofLengths lengths
  let isTiny := lengths.foldl (· + ·) 0 = 1 || code.size = 0
  if code.isComplete || isTiny then return code else failure

def sentCodes : Inflater BlockCodes := do
  let literalCount := 257 + (← Inflater.bits 5)
  let distanceCount := 1 + (← Inflater.bits 5)
  let lengthCount := 4 + (← Inflater.bits 4)
  if 286 < literalCount ∨ 30 < distanceCount then failure
  let sent ← (List.range lengthCount).mapM fun _ => Inflater.bits 3
  let named := lengthOrder.zip sent
  let code := PrefixCode.ofLengths ((List.range 19).map fun symbol =>
    (named.lookup symbol).getD 0)
  if !code.isComplete then failure
  let total := literalCount + distanceCount
  let lengths ← wordLengths code total (total + 1) []
  if lengths[blockEnd]? = some 0 then failure
  return ⟨← usableCode (lengths.take literalCount), ← usableCode (lengths.drop literalCount)⟩

def storedBlock (written : ByteArray) : Inflater ByteArray := do
  Inflater.alignToOctet
  let length ← Inflater.bits 16
  let complement ← Inflater.bits 16
  if length + complement ≠ 0xFFFF then failure
  let ⟨octets, position⟩ ← get
  let start := position / 8
  if octets.size < start + length then failure
  set (BitSource.mk octets (position + 8 * length))
  return written ++ octets.extract start (start + length)

/-- Reads blocks up to the last one; `size` limits the symbols of a block. -/
def blocks (size : Nat) : Nat → ByteArray → Inflater ByteArray
  | 0, _ => failure
  | bound + 1, written => do
    let last ← Inflater.bit
    let kind ← Inflater.bits 2
    let written ←
      if kind = 0 then storedBlock written
      else if kind = 1 then symbols fixedCodes size written
      else if kind = 2 then do symbols (← sentCodes) size written
      else failure
    if last = 1 then return written else blocks size bound written

def inflate (octets : ByteArray) : Option ByteArray :=
  let size := 8 * octets.size + 1
  ((blocks size size .empty).run ⟨octets, 0⟩).map Prod.fst

end Findings.Zip
