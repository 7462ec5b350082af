/-!
Contract: UTF-8 as a machine that takes one octet at a time.

Owns:
- the octets of a character and of a text;
- `decodeLossy`, which puts U+FFFD for every maximal part that is not UTF-8;
- `decode?`, which refuses a sequence that is not UTF-8.

Both decoders run the same machine, so they agree on every sequence that the
second accepts.  The machine never restarts inside a character: an octet that
cannot continue the pending character is read again from between characters.
-/

namespace Findings.Text

/-! ## Encoding -/

def utf8Octets (c : Char) : List UInt8 :=
  let code := c.toNat
  if code < 0x80 then
    [code.toUInt8]
  else if code < 0x800 then
    [(0xC0 + code / 0x40).toUInt8, (0x80 + code % 0x40).toUInt8]
  else if code < 0x10000 then
    [(0xE0 + code / 0x1000).toUInt8, (0x80 + code / 0x40 % 0x40).toUInt8,
      (0x80 + code % 0x40).toUInt8]
  else
    [(0xF0 + code / 0x40000).toUInt8, (0x80 + code / 0x1000 % 0x40).toUInt8,
      (0x80 + code / 0x40 % 0x40).toUInt8, (0x80 + code % 0x40).toUInt8]

def utf8 (text : List Char) : List UInt8 :=
  text.flatMap utf8Octets

def utf8Length (text : List Char) : Nat :=
  text.foldl (fun count c => count + c.utf8Size) 0

/-! ## The machine -/

/-- A character of which some octets were read: how many are owed, the least
and the greatest octet that may come next, and the code point read so far. -/
structure Partial where
  owed : Nat
  least : Nat
  greatest : Nat
  code : Nat
deriving DecidableEq, Repr

/-- What one octet does to the machine. -/
inductive Utf8Step where
  /-- The octet completes a character. -/
  | complete (c : Char)
  /-- The octet starts or continues a character. -/
  | more (pending : Partial)
  /-- No character has the octet at this place. -/
  | refuse
deriving DecidableEq, Repr

def firstOctet (octet : Nat) : Utf8Step :=
  if octet ≤ 0x7F then .complete (Char.ofNat octet)
  else if 0xC2 ≤ octet ∧ octet ≤ 0xDF then .more ⟨1, 0x80, 0xBF, octet - 0xC0⟩
  else if octet = 0xE0 then .more ⟨2, 0xA0, 0xBF, 0⟩
  else if 0xE1 ≤ octet ∧ octet ≤ 0xEC then .more ⟨2, 0x80, 0xBF, octet - 0xE0⟩
  else if octet = 0xED then .more ⟨2, 0x80, 0x9F, 0xD⟩
  else if 0xEE ≤ octet ∧ octet ≤ 0xEF then .more ⟨2, 0x80, 0xBF, octet - 0xE0⟩
  else if octet = 0xF0 then .more ⟨3, 0x90, 0xBF, 0⟩
  else if 0xF1 ≤ octet ∧ octet ≤ 0xF3 then .more ⟨3, 0x80, 0xBF, octet - 0xF0⟩
  else if octet = 0xF4 then .more ⟨3, 0x80, 0x8F, 4⟩
  else .refuse

def nextOctet (pending : Partial) (octet : Nat) : Utf8Step :=
  if pending.least ≤ octet ∧ octet ≤ pending.greatest then
    let code := pending.code * 0x40 + (octet - 0x80)
    if pending.owed ≤ 1 then .complete (Char.ofNat code)
    else .more ⟨pending.owed - 1, 0x80, 0xBF, code⟩
  else
    .refuse

/-! ## Lossy decoding -/

/-- The character that stands for a part that is not UTF-8. -/
def replacement : Char := '\ufffd'

/-- The state of lossy decoding: the pending character, if any, and the text
read so far, last character first. -/
structure LossyState where
  pending : Option Partial
  written : List Char
deriving DecidableEq, Repr

namespace LossyState

def start : LossyState := ⟨none, []⟩

/-- Reads an octet from between characters. -/
def fresh (written : List Char) (octet : UInt8) : LossyState :=
  match firstOctet octet.toNat with
  | .complete c => ⟨none, c :: written⟩
  | .more pending => ⟨some pending, written⟩
  | .refuse => ⟨none, replacement :: written⟩

/-- Reads one octet.  One that cannot continue the pending character ends it
as a part that is not UTF-8 and is read again from between characters. -/
def step (state : LossyState) (octet : UInt8) : LossyState :=
  match state.pending with
  | none => fresh state.written octet
  | some pending =>
    match nextOctet pending octet.toNat with
    | .complete c => ⟨none, c :: state.written⟩
    | .more pending => ⟨some pending, state.written⟩
    | .refuse => fresh (replacement :: state.written) octet

/-- The text read; a character still pending is a part that is not UTF-8. -/
def finish (state : LossyState) : List Char :=
  match state.pending with
  | none => state.written.reverse
  | some _ => (replacement :: state.written).reverse

end LossyState

/-- The text of an octet sequence, with U+FFFD for every maximal part that is
not UTF-8. -/
def decodeLossy (octets : List UInt8) : List Char :=
  (octets.foldl LossyState.step .start).finish

/-! ## Exact decoding -/

def exactStep (state : Option LossyState) (octet : UInt8) : Option LossyState := do
  let ⟨pending, written⟩ ← state
  let result := match pending with
    | none => firstOctet octet.toNat
    | some pending => nextOctet pending octet.toNat
  match result with
  | .complete c => some ⟨none, c :: written⟩
  | .more pending => some ⟨some pending, written⟩
  | .refuse => none

/-- The text of an octet sequence, if the sequence is UTF-8. -/
def decode? (octets : List UInt8) : Option (List Char) := do
  let state ← octets.foldl exactStep (some .start)
  match state.pending with
  | none => some state.written.reverse
  | some _ => none

/-- A surrogate is three parts; a cut-off character is one. -/
example :
    decodeLossy [0xED, 0xA0, 0x80, 0xF0, 0x9F, 0x78] =
      [replacement, replacement, replacement, replacement, 'x'] := by
  decide

end Findings.Text
