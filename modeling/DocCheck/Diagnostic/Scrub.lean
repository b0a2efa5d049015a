import DocCheck.Diagnostic
import DocCheck.Text.Segment
import DocCheck.Text.Digit
import DocCheck.Text.Word

/-!
Paths of block files in the texts of a diagnostic, and their replacement by the label of the block.
A path is taken with all directories before the scratch directory, as far as no white space, quote
or parenthesis ends it.
-/

namespace DocCheck

namespace BlockPath

def fileLead : Text := "block-".toList

def fileEnding : Text := ".ts".toList

def isSlash (c : Char) : Bool :=
  c = '/' || c = '\\'

/-- A character that no directory before the scratch directory holds. -/
def isDelimiter (c : Char) : Bool :=
  Text.isWhite c || c = '\'' || c = '"' || c = '\x60' || c = '(' || c = ')'

/-- What follows the name of a block file; no word goes on there. -/
def afterFile? (text : Text) : Option Text :=
  match List.isPrefixOf? fileLead text with
  | none => none
  | some rest =>
      if (rest.takeWhile Text.isDigit).isEmpty then none
      else
        match List.isPrefixOf? fileEnding (rest.dropWhile Text.isDigit) with
        | none => none
        | some rest => if Text.endsWord rest.head? then some rest else none

def afterBlock? (scratch text : Text) : Option Text :=
  match List.isPrefixOf? scratch text with
  | some (slash :: rest) => if isSlash slash then afterFile? rest else none
  | _ => none

/-- What follows a block file behind as many directories as possible, and at least one. -/
def afterDirectories? (scratch : Text) : Text → Option Text
  | [] => none
  | c :: rest =>
      if isDelimiter c then none
      else
        match afterDirectories? scratch rest with
        -- A slash further on is preferred.
        | some after => some after
        | none => if isSlash c then afterBlock? scratch rest else none

/-- Matches the path of a block file in a scratch directory of the given name. -/
def pattern (scratch : Text) : Text.Pattern Unit := fun _ text =>
  match afterDirectories? scratch text with
  | some after => some ((), after)
  | none => (afterBlock? scratch text).map fun after => ((), after)

end BlockPath

namespace Diagnostic

def scrub (pattern : Text.Pattern Unit) (label : Text) (diagnostic : Diagnostic) : Diagnostic :=
  diagnostic.mapTexts (Text.replaceAll pattern fun _ _ => label)

end Diagnostic

end DocCheck
