/-!
Contract: what can be wrong with an archive.

Owns: the causes that are found before any data are unpacked, and their
wording.
-/

namespace Findings.Zip

/-- What is wrong with an archive. -/
inductive Fault where
  /-- There is no directory that can be read. -/
  | noDirectory
  | badEntry
  | encrypted
  | unknownMethod
deriving DecidableEq, Repr

def Fault.message : Fault → String
  | noDirectory => "invalid Zip archive: Could not find central directory end"
  | badEntry => "invalid Zip archive: Invalid local file header"
  | encrypted => "unsupported Zip archive: Password required to decrypt file"
  | unknownMethod => "unsupported Zip archive: Compression method not supported"

end Findings.Zip
