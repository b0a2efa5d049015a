import DocCheck.Text.Basic

/-!
Diagnostics: what is known of a failed compilation. Every text in a diagnostic can be changed by
one function, in a fixed order.
-/

namespace DocCheck

/-- A place in a file, lines and columns counted from one. -/
structure Position where
  file : Text
  line : Nat
  column : Nat
  deriving Repr, DecidableEq

inductive DiagnosticKind where
  | typeCheck
  /-- The compiler failed without saying why in a form that is understood. -/
  | crash
  deriving Repr, DecidableEq

/-- A failed compilation. -/
structure Diagnostic where
  kind : DiagnosticKind
  message : Text
  /-- All that the compiler wrote, with the places it refers to. -/
  detail : Text
  positions : List Position
  codes : List Text
  /-- Further fields, by ascending key. -/
  extra : List (Text × Text)
  deriving Repr, DecidableEq

namespace Diagnostic

def plain (kind : DiagnosticKind) (message detail : Text) : Diagnostic :=
  ⟨kind, message, detail, [], [], []⟩

def crash (message : Text) : Diagnostic :=
  plain .crash message message

/-- Puts a field among others that stand in ascending order, in place of one with its key. -/
def insertField (key value : Text) : List (Text × Text) → List (Text × Text)
  | [] => [(key, value)]
  | field :: fields =>
      if key = field.1 then (key, value) :: fields
      else if key < field.1 then (key, value) :: field :: fields
      else field :: insertField key value fields

def withField (key value : Text) (diagnostic : Diagnostic) : Diagnostic :=
  { diagnostic with extra := insertField key value diagnostic.extra }

/-! ## Changing the texts -/

/-- Changes every text, one after the other: the message, the detail, the files of the positions,
the codes and the values of the further fields. -/
def mapTextsM {m : Type → Type} [Monad m] (f : Text → m Text) (diagnostic : Diagnostic) :
    m Diagnostic := do
  let message ← f diagnostic.message
  let detail ← f diagnostic.detail
  let positions ← diagnostic.positions.mapM fun position => do
    let file ← f position.file
    pure { position with file := file }
  let codes ← diagnostic.codes.mapM f
  let extra ← diagnostic.extra.mapM fun field => do
    let value ← f field.2
    pure (field.1, value)
  pure ⟨diagnostic.kind, message, detail, positions, codes, extra⟩

def mapTexts (f : Text → Text) (diagnostic : Diagnostic) : Diagnostic where
  kind := diagnostic.kind
  message := f diagnostic.message
  detail := f diagnostic.detail
  positions := diagnostic.positions.map fun position => { position with file := f position.file }
  codes := diagnostic.codes.map f
  extra := diagnostic.extra.map fun field => (field.1, f field.2)

/-- A change without effects does not depend on the order. -/
theorem mapTextsM_pure (f : Text → Text) (diagnostic : Diagnostic) :
    Id.run (mapTextsM (fun text => pure (f text)) diagnostic) = mapTexts f diagnostic := by
  simp [mapTextsM, mapTexts]

end Diagnostic

end DocCheck
