import ClarityCheck.Path

/-!
# The compiler's binary

A binary is a path or a bare command, and whether it answered when it was last asked for its
version. A run of the tool remembers at most one binary.
-/

namespace ClarityCheck.Compiler

/-- A compiler's binary. -/
structure Binary where
  path : Path
  verified : Bool
  deriving DecidableEq, Repr

namespace Binary

/-- A binary that has just answered. -/
def answering (path : Path) : Binary := ⟨path, true⟩

/-- The binary as one that has to be asked again. -/
def doubted (b : Binary) : Binary := { b with verified := false }

end Binary

/-- The binary that is remembered, if there is one. -/
abbrev Memory := Option Binary

namespace Memory

/-- Marks the remembered binary as one that has to be asked again, and keeps its path. -/
def invalidate (m : Memory) : Memory := m.map Binary.doubted

/-- Remembers a binary instead of the one that was remembered. -/
def store (_ : Memory) (b : Binary) : Memory := some b

/-- Forgets the remembered binary. -/
def clear (_ : Memory) : Memory := none

end Memory

end ClarityCheck.Compiler
