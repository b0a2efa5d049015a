import DocCheck.Check.Config
import DocCheck.Check.Failure
import DocCheck.Diagnostic.Reference
import DocCheck.Machine
import DocCheck.Package.Import
import DocCheck.Package.Manifest

/-!
The blocks of a run: what is read from documents and from the manifest of the package, and what is
known of a block at the end.
-/

namespace DocCheck

/-! ## Reading -/

def Snippet.ofFile (languages : List Text) (path : Text) (machine : Machine) :
    Except Failure (List Snippet) :=
  match machine.readText path with
  | .ok document => .ok (Snippet.ofDocument languages document)
  | .error error =>
      if error = .notFound then .error (.documentNotFound path) else .error (.io error)

def Manifest.fileName : Text := "package.json".toList

def Package.ofProject (projectRoot : Text) (machine : Machine) : Except Failure Package :=
  let path := Path.join projectRoot Manifest.fileName
  match machine.readText path with
  | .error error => .error (.manifest path error.message)
  | .ok text =>
      match Manifest.package text with
      | .ok package => .ok package
      | .error message => .error (.manifest path message)

/-- A block as it is compiled. -/
structure Block where
  /-- The document, as it was asked for. -/
  document : Text
  snippet : Snippet
  /-- The code with its imports of the package led to the files of the project. -/
  source : Text
  deriving Repr, DecidableEq

namespace Block

def ofDocument (config : Config) (localiser : Localiser) (machine : Machine) (document : Text) :
    Except Failure (List Block) :=
  (Snippet.ofFile config.languages (Path.join config.projectRoot document) machine).map
    fun snippets => snippets.map fun snippet =>
      ⟨document, snippet, localiser.localise snippet.text⟩

def ofDocuments (config : Config) (localiser : Localiser) (machine : Machine) :
    List Text → Except Failure (List Block)
  | [] => .ok []
  | document :: documents =>
      match ofDocument config localiser machine document with
      | .error failure => .error failure
      | .ok blocks => (ofDocuments config localiser machine documents).map (blocks ++ ·)

def label (block : Block) : Text :=
  blockLabel block.document block.snippet.index

end Block

/-! ## Results -/

/-- What has become of a block. -/
structure Result where
  document : Text
  snippet : Snippet
  /-- Why the block does not compile, if it does not. -/
  error : Option Diagnostic
  deriving Repr, DecidableEq

namespace Result

def succeeded (result : Result) : Bool :=
  result.error.isNone

def label (result : Result) : Text :=
  blockLabel result.document result.snippet.index

/-- The lines of the snippet that the diagnostic refers to, in ascending order. -/
def linesWithErrors (result : Result) : List Nat :=
  match result.error with
  | none => []
  | some diagnostic => diagnostic.errorLines

end Result

def Block.result (block : Block) (error : Option Diagnostic) : Result :=
  ⟨block.document, block.snippet, error⟩

end DocCheck
