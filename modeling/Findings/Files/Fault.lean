import Findings.Text.Quoted

/-!
Contract: what can go wrong with files and programs.

Owns:
- `SystemFault`, the causes why something cannot be done with a path or a
  program, with their numbers and their wording;
- `IoFault`, a system fault or a fault of the data itself.

A text with an octet of zero never reaches the system, so its fault has no
number.
-/

namespace Findings

/-- Why the system refuses to do something. -/
inductive SystemFault where
  | missing
  | noProcess
  | noDevice
  | tooManyArguments
  | notExecutable
  | badDescriptor
  | denied
  | busy
  | present
  | notFolder
  | isFolder
  | invalid
  | noSpace
  | brokenPipe
  | nameTooLong
  | notEmpty
  | tooManyLinks
  /-- A text that is given to the system has an octet of zero. -/
  | zeroOctet
deriving DecidableEq, Repr

namespace SystemFault

/-- The number of a fault, if the system gives it. -/
def code? : SystemFault → Option Nat
  | missing => some 2
  | noProcess => some 3
  | noDevice => some 6
  | tooManyArguments => some 7
  | notExecutable => some 8
  | badDescriptor => some 9
  | denied => some 13
  | busy => some 16
  | present => some 17
  | notFolder => some 20
  | isFolder => some 21
  | invalid => some 22
  | noSpace => some 28
  | brokenPipe => some 32
  | nameTooLong => some 36
  | notEmpty => some 39
  | tooManyLinks => some 40
  | zeroOctet => none

/-- The wording of a fault without its number. -/
def wording : SystemFault → String
  | missing => "No such file or directory"
  | noProcess => "No such process"
  | noDevice => "No such device or address"
  | tooManyArguments => "Argument list too long"
  | notExecutable => "Exec format error"
  | badDescriptor => "Bad file descriptor"
  | denied => "Permission denied"
  | busy => "Device or resource busy"
  | present => "File exists"
  | notFolder => "Not a directory"
  | isFolder => "Is a directory"
  | invalid => "Invalid argument"
  | noSpace => "No space left on device"
  | brokenPipe => "Broken pipe"
  | nameTooLong => "File name too long"
  | notEmpty => "Directory not empty"
  | tooManyLinks => "Too many levels of symbolic links"
  | zeroOctet => "nul byte found in provided data"

def message (fault : SystemFault) : String :=
  match fault.code? with
  | some code => fault.wording ++ " (os error " ++ toString code ++ ")"
  | none => fault.wording

end SystemFault

/-- Why something could not be read or written. -/
inductive IoFault where
  | system (fault : SystemFault)
  /-- A file could not be made at a path. -/
  | creation (fault : SystemFault) (path : String)
  /-- A text is not UTF-8. -/
  | invalidText
  /-- Packed data are damaged. -/
  | damaged
  | other (wording : String)
deriving DecidableEq, Repr

def IoFault.message : IoFault → String
  | system fault => fault.message
  | creation fault path =>
    fault.message ++ " at path " ++ String.ofList (Text.quoted path.toList)
  | invalidText => "stream did not contain valid UTF-8"
  | damaged => "corrupt deflate stream or checksum"
  | other wording => wording

end Findings
