import DocCheck.Compiler
import DocCheck.Diagnostic.Report
import DocCheck.Text.Segment

/-!
A compiler that decides by rules: the first rule whose text occurs in a source says what becomes of
it. It serves to see what a run makes of given diagnostics.
-/

namespace DocCheck.Scripted

/-- A diagnostic whose texts may name the path and the source of the block. -/
inductive Template where
  /-- The diagnostic for what a compiler writes, and the status that it exits with. -/
  | report (stdout stderr : Text) (exitStatus : Option Int)
  | diagnostic (diagnostic : Diagnostic)
  deriving Repr, DecidableEq

/-- What becomes of the sources that a text occurs in. -/
structure Rule where
  part : Text
  fault : Option Template
  deriving Repr, DecidableEq

def Template.instantiate (fill : Text → Text) : Template → Diagnostic
  | .report stdout stderr exitStatus =>
      Diagnostic.ofReport (fill stdout) (fill stderr) exitStatus
  | .diagnostic known => known.mapTexts fill

/-- Puts the path and then the source where a text names them. -/
def fillIn (source path text : Text) : Text :=
  let withPath := Text.replaceAll (Text.literal "\x7bpath\x7d".toList) (fun _ _ => path) text
  Text.replaceAll (Text.literal "\x7bsource\x7d".toList) (fun _ _ => source) withPath

/-- The diagnostic for a source, unless it is in order. -/
def verdict (rules : List Rule) (source path : Text) : Option Diagnostic :=
  match rules.find? fun rule => Text.occursIn rule.part source with
  | none => none
  | some rule => rule.fault.map (Template.instantiate (fillIn source path))

def compiler (rules : List Rule) : Compiler where
  check := fun source path machine => (verdict rules source path, machine)

/-- Gets the compiler ready, unless a reason is given why that fails. -/
def toolchain (rules : List Rule) (refusal : Option Text) : Toolchain := fun _ _ =>
  match refusal with
  | some reason => .error (.toolchain reason)
  | none => .ok (compiler rules)

end DocCheck.Scripted
