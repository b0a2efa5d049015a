import DocCheck.Machine.FileError

/-!
What ends a run before it has results, the words for it, and a hint at what helps.
-/

namespace DocCheck

/-- The reason why a run has no results. -/
inductive Failure where
  | documentNotFound (path : Text)
  /-- The manifest of the package is missing or of no use. -/
  | manifest (path message : Text)
  /-- The scratch directory can be neither made nor removed. -/
  | scratchDir (path : Text) (error : FileError)
  /-- A document cannot be read, or the like. -/
  | io (error : FileError)
  | toolchain (message : Text)
  deriving Repr, DecidableEq

namespace Failure

def message : Failure → Text
  | documentNotFound path => "document not found: ".toList ++ path
  | manifest path message =>
      "invalid package manifest ".toList ++ path ++ ": ".toList ++ message
  | scratchDir path error => "scratch directory ".toList ++ path ++ ": ".toList ++ error.message
  | io error => "IO error: ".toList ++ error.message
  | toolchain message => "toolchain error: ".toList ++ message

def hint? : Failure → Option Text
  | documentNotFound _ =>
      some "paths are resolved against the project root (see --project)".toList
  | manifest _ _ =>
      some
        "run snipcheck from a directory containing package.json with a \"name\" field".toList
  | scratchDir _ _ => some "check that the project directory is writable".toList
  | io _ => none
  | toolchain _ =>
      some "install typescript (npm install --save-dev typescript) or pass --tsc".toList

/-- The words for a failure with the hint on a line of its own. -/
def report (failure : Failure) : Text :=
  match failure.hint? with
  | some hint => failure.message ++ "\n  hint: ".toList ++ hint
  | none => failure.message

end Failure

end DocCheck
