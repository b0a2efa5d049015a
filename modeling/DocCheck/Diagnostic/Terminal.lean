import DocCheck.Diagnostic

/-!
Diagnostics as a terminal shows them: every line of the detail is indented, and a line that reports
an error is broken into its place and its text.
-/

namespace DocCheck.Diagnostic

/-- What stands between the place and the text of an error. -/
def errorMark : Text := ": error ".toList

def terminalLine (line : Text) : Text :=
  match Text.splitOnce? errorMark line with
  | some (location, text) =>
      "  \x1b[1;34m-->\x1b[0m ".toList ++ location ++ "\n      \x1b[1;31merror\x1b[0m ".toList ++
        text ++ ['\n']
  | none => "  ".toList ++ line ++ ['\n']

def terminal (diagnostic : Diagnostic) : Text :=
  (Text.lines diagnostic.detail).flatMap terminalLine

end DocCheck.Diagnostic
