import DocCheck.Path
import DocCheck.Snippet
import DocCheck.Diagnostic.Scrub

/-!
What a run is told, and the scratch directory that it writes to: a directory in the project whose
name is part of every block file's path.
-/

namespace DocCheck

/-- What a run is told. -/
structure Config where
  /-- The directory of the package; documents are looked up from there. -/
  projectRoot : Text
  scratchName : Text
  /-- The compiler settings of the project, seen from its root. -/
  tsconfig : Text
  /-- The compiler, if it is not to be looked for. -/
  compiler : Option Text
  /-- The most blocks compiled at once, if there is a limit. -/
  jobs : Option Nat
  languages : List Text
  deriving Repr, DecidableEq

namespace Config

def defaultScratchName : Text := "compiled-docs".toList

/-- The usual configuration of a project. -/
def ofProject (projectRoot : Text) : Config where
  projectRoot := projectRoot
  scratchName := defaultScratchName
  tsconfig := "tsconfig.json".toList
  compiler := none
  jobs := none
  languages := Snippet.defaultLanguages

def tsconfigPath (config : Config) : Text :=
  Path.join config.projectRoot config.tsconfig

end Config

/-- A directory for the files of one run. -/
structure ScratchDir where
  name : Text
  path : Text
  deriving Repr, DecidableEq

namespace ScratchDir

def inProject (projectRoot name : Text) : ScratchDir :=
  ⟨name, Path.join projectRoot name⟩

def ofConfig (config : Config) : ScratchDir :=
  inProject config.projectRoot config.scratchName

/-- The root of the project, seen from the scratch directory. -/
def rootReference : Text := "..".toList

def blockPath (scratch : ScratchDir) (id : Nat) : Text :=
  Path.join scratch.path (BlockPath.fileLead ++ Text.decimal id ++ BlockPath.fileEnding)

/-- Matches the paths of block files. -/
def blockPattern (scratch : ScratchDir) : Text.Pattern Unit :=
  BlockPath.pattern scratch.name

end ScratchDir

/-- What a block is called in place of the path of its file. -/
def blockLabel (document : Text) (index : Nat) : Text :=
  document ++ " → Code Block ".toList ++ Text.decimal index

end DocCheck
