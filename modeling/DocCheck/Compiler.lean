import DocCheck.Check.Config
import DocCheck.Check.Failure
import DocCheck.Diagnostic
import DocCheck.Machine

/-!
Compilers as a run sees them: something that checks one block at a time, and a way to get it ready.
-/

namespace DocCheck

/-- A compiler that is ready for the blocks of a run. -/
structure Compiler where
  /-- Checks a source that has been written to a path. There is no diagnostic if it is in order. -/
  check : Text → Text → Machine → Option Diagnostic × Machine

/-- How a compiler is got ready for a run; without one there are no results. -/
abbrev Toolchain := Config → Machine → Except Failure Compiler

end DocCheck
