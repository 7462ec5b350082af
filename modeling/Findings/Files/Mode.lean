/-!
Contract: what may be done with a file.

Owns:
- `Mode`, the permission bits of a file, and whether one of them lets it run;
- the modes that files are made with, and the one that lets everybody run a
  file.
-/

namespace Findings

/-- The permission bits of a file: three special ones, then those of the owner,
of the group and of everybody else. -/
abbrev Mode := BitVec 12

namespace Mode

/-- The mode of a file that only its owner may read and write. -/
def ownerOnly : Mode := 0o600

def readable : Mode := 0o644

def program : Mode := 0o755

def isExecutable (mode : Mode) : Bool :=
  mode &&& 0o111 != 0

/-- A mode with which everybody may also read and run the file. -/
def withExecution (mode : Mode) : Mode :=
  mode ||| 0o555

theorem withExecution_ownerOnly : ownerOnly.withExecution = program :=
  rfl

end Mode

end Findings
