import DocCheck.Package
import DocCheck.Json.Skip
import DocCheck.Text.Quoted

/-!
Package manifests: the JSON text that names a package and its main file. Only these two fields are
read; every other one is passed over, and so is the order in which they stand. A list of the two is
read as well.
-/

namespace DocCheck

namespace Manifest

open Json

/-- The fields of a manifest that have been met. A field that is `null` counts as met. -/
structure Fields where
  name : Option (Option Text)
  main : Option (Option Text)
  deriving Repr, DecidableEq

/-- How messages call a manifest. -/
def expected : Text := "struct RawManifest".toList

/-- Fails, since the value that follows is not of the type expected. -/
def wrongType {α : Type} (expected text : Text) : Except Misreading α :=
  let shown := fun (found rest : Text) => failHere (α := α) (.wrongType found expected) rest
  match text with
  | [] => failAhead .expectedValue text
  | c :: rest =>
      if c = 'n' then (word "ull".toList rest).bind (shown "null".toList)
      else if c = 't' then (word "rue".toList rest).bind (shown "boolean `true`".toList)
      else if c = 'f' then (word "alse".toList rest).bind (shown "boolean `false`".toList)
      else if c = '-' then (Number.read true rest).bind fun number => shown number.1.shown number.2
      else if Text.isAsciiDigit c then
        (Number.read false text).bind fun number => shown number.1.shown number.2
      else if c = '"' then
        (Json.readString rest).bind fun content =>
          shown ("string ".toList ++ Text.quoted content.1) content.2
      else if c = '[' then shown "sequence".toList text
      else if c = '\x7b' then shown "map".toList text
      else failAhead .expectedValue text

def stringOrNull (text : Text) : Reading (Option Text) :=
  match skipSpace text with
  | [] => failAhead .endInValue []
  | 'n' :: rest => (word "ull".toList rest).map fun rest => (none, rest)
  | '"' :: rest => (Json.readString rest).map fun content => (some content.1, content.2)
  | other => wrongType "a string".toList other

/-! ## Objects -/

def colon (text : Text) : Except Misreading Text :=
  match skipSpace text with
  | [] => failAhead .endInObject []
  | ':' :: rest => .ok rest
  | other => failAhead .expectedColon other

/-- What follows the end of an object, if it stands there. -/
def behindObject (text : Text) : Text :=
  match skipSpace text with
  | '\x7d' :: rest => rest
  | other => other

/-- Goes to the key of the next member, behind its opening quote, unless the object ends. -/
def nextKey? (first : Bool) (text : Text) : Reading Bool :=
  match skipSpace text with
  | [] => failAhead .endInObject []
  | c :: rest =>
      if c = '\x7d' then .ok (false, rest)
      else if first then
        if c = '"' then .ok (true, rest) else failAhead .keyNotString (c :: rest)
      else if c = ',' then
        match skipSpace rest with
        | [] => failAhead .endInValue []
        | '"' :: rest => .ok (true, rest)
        | '\x7d' :: rest => failAhead .trailingComma ('\x7d' :: rest)
        | other => failAhead .keyNotString other
      else failAhead .expectedObjectSeparator (c :: rest)

/-- Reads the value of a member that is met for the first time. -/
def fieldValue (key : Text) (met : Option (Option Text)) (text : Text) :
    Reading (Option Text) :=
  match met with
  | some _ => failHere (.duplicateField key) (behindObject text)
  | none => (colon text).bind stringOrNull

def member (fields : Fields) (key text : Text) : Reading Fields :=
  if key = "name".toList then
    (fieldValue key fields.name text).map fun value =>
      ({ fields with name := some value.1 }, value.2)
  else if key = "main".toList then
    (fieldValue key fields.main text).map fun value =>
      ({ fields with main := some value.1 }, value.2)
  else ((colon text).bind skipValue).map fun rest => (fields, rest)

/-- Reads the members of an object up to its end; `fuel` bounds their number. -/
def members : Nat → Bool → Fields → Text → Reading Fields
  | 0, _, _, text => failHere .endInObject text
  | fuel + 1, first, fields, text =>
      match nextKey? first text with
      | .error failure => .error failure
      | .ok (false, rest) => .ok (fields, rest)
      | .ok (true, rest) =>
          match Json.readString rest with
          | .error failure => .error failure
          | .ok (key, rest) =>
              match member fields key rest with
              | .error failure => .error failure
              | .ok (fields, rest) => members fuel false fields rest

/-! ## Lists -/

/-- What follows the end of a list, if it stands there, or else a comma and white space. -/
def behindList (text : Text) : Text :=
  match skipSpace text with
  | ']' :: rest => rest
  | ',' :: rest => skipSpace rest
  | other => other

/-- Goes to the next element of a list, unless the list ends. -/
def nextElement? (first : Bool) (text : Text) : Reading Bool :=
  match skipSpace text with
  | [] => failAhead .endInList []
  | c :: rest =>
      if c = ']' then .ok (false, c :: rest)
      else if first then .ok (true, c :: rest)
      else if c = ',' then
        match skipSpace rest with
        | [] => failAhead .endInValue []
        | ']' :: rest => failAhead .trailingComma (']' :: rest)
        | other => .ok (true, other)
      else failAhead .expectedListSeparator (c :: rest)

def element (index : Nat) (text : Text) : Reading (Option Text) :=
  match nextElement? (index == 0) text with
  | .error failure => .error failure
  | .ok (false, rest) =>
      failHere (.wrongLength index (expected ++ " with 2 elements".toList)) (behindList rest)
  | .ok (true, rest) => stringOrNull rest

def listEnd (text : Text) : Except Misreading Text :=
  match skipSpace text with
  | [] => failAhead .endInList []
  | ']' :: rest => .ok rest
  | ',' :: rest =>
      match skipSpace rest with
      | ']' :: rest => failAhead .trailingComma (']' :: rest)
      | other => failAhead .trailingCharacters other
  | other => failAhead .trailingCharacters other

/-- Reads the two elements of a list and its end. -/
def elements (text : Text) : Reading Fields :=
  match element 0 text with
  | .error failure => .error failure
  | .ok (name, rest) =>
      match element 1 rest with
      | .error failure => .error failure
      | .ok (main, rest) => (listEnd rest).map fun rest => (⟨some name, some main⟩, rest)

/-! ## Manifests -/

/-- Reads the fields of a manifest, and nothing behind it. -/
def fields (text : Text) : Except Misreading Fields :=
  let read :=
    match skipSpace text with
    | [] => failAhead .endInValue []
    | '[' :: rest => elements rest
    | '\x7b' :: rest => members (rest.length + 1) true ⟨none, none⟩ rest
    | other => wrongType expected other
  match read with
  | .error failure => .error failure
  | .ok (fields, rest) =>
      match skipSpace rest with
      | [] => .ok fields
      | other => failAhead .trailingCharacters other

def defaultMain : Text := "index.js".toList

def missingName : Text := "missing \"name\" field".toList

/-- The package that a manifest describes, or what is wrong with it. The name may not be blank. -/
def package (text : Text) : Except Text Package :=
  match fields text with
  | .error failure => .error (failure.message text)
  | .ok fields =>
      match fields.name with
      | some (some name) =>
          if (Text.trim name).isEmpty then .error missingName
          else .ok ⟨name, (fields.main.getD none).getD defaultMain⟩
      | _ => .error missingName

end Manifest

end DocCheck
