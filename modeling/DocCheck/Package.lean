import DocCheck.Text.Basic

/-!
The package whose documentation is checked, and the references by which its modules are imported
from a directory beside its sources.
-/

namespace DocCheck

structure Package where
  /-- The name by which it is imported. -/
  name : Text
  /-- The file that an import of the name alone loads, seen from the root of the package. -/
  main : Text
  deriving Repr, DecidableEq

namespace Package

/-! ## References -/

/-- Without the `./` that a path begins with, however often it does. -/
def dropHere : Text → Text
  | '.' :: '/' :: rest => dropHere rest
  | path => path

/-- A path with slashes only, and without `./` at its beginning. -/
def normalise (path : Text) : Text :=
  dropHere (Text.replaceChar '\\' '/' path)

/-- The reference to a path inside the directory that `root` refers to. -/
def refer (root path : Text) : Text :=
  let inner := (normalise path).dropWhile (· == '/')
  if root = [] || root = ['.'] then '.' :: '/' :: inner
  else if inner.isEmpty then root
  else root ++ '/' :: inner

/-! ## The entry module -/

def sourceEndings : List Text :=
  [".tsx".toList, ".mts".toList, ".cts".toList, ".ts".toList]

/-- Endings of the files that compiling a source file yields. -/
def compiledEndings : List Text :=
  [".d.mts".toList, ".d.cts".toList, ".d.ts".toList, ".mjs".toList, ".cjs".toList, ".js".toList]

def withoutEnding? (endings : List Text) (path : Text) : Option Text :=
  endings.findSome? fun ending => List.isSuffixOf? ending path

/-- The path of the module that an import of the package's name loads. -/
def entryModule (package : Package) : Text :=
  let main := normalise package.main
  -- Without an ending the source file is found, and not the compiled one.
  match withoutEnding? compiledEndings main with
  | some stem => stem
  | none => (withoutEnding? sourceEndings main).getD main

end Package

end DocCheck
