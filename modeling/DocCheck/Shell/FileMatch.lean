import DocCheck.Shell.State

/-!
Fields that are patterns for files. Such a field stands for the paths of all files that it matches,
in ascending order, and for itself if there are none.
-/

namespace DocCheck.Shell

def namesIn (machine : Machine) (path : Text) : List Text :=
  match machine.location path with
  | .error _ => []
  | .ok location =>
      machine.files.entries.filterMap fun stored =>
        match stored.1.getLast? with
        | some name => if stored.1.dropLast = location then some name else none
        | none => none

/-- A field that may match other text than its own. -/
def isPattern (field : Field) : Bool :=
  field.any fun item => !item.2 && (item.1 = '*' || item.1 = '?' || item.1 = '[')

def fieldParts : Field → List Field
  | [] => [[]]
  | item :: rest =>
      if item.1 = '/' then [] :: fieldParts rest
      else
        match fieldParts rest with
        | part :: parts => (item :: part) :: parts
        | [] => [[item]]

/-- The names in the directory that a path ends in which match a part of a field. A dot at the
beginning of a name is only matched by a dot. -/
def matchingNames (machine : Machine) (before : Raw) (part : Field) : List Raw :=
  let names := (namesIn machine (if before.isEmpty then ['.'] else toText before)).map ofText
  (names.filter fun name =>
    Glob.matchesAll (Glob.ofChars part) name &&
      (name.head? != some '.' || part.head?.map Prod.fst == some '.')).mergeSort
    fun left right => !decide (right < left)

/-- The paths that begin with `before` and go on as the parts of a field say. -/
def matchingPaths (machine : Machine) (before : Raw) : List Field → List Raw
  | [] => [before]
  | [part] =>
      if isPattern part then (matchingNames machine before part).map (before ++ ·)
      else
        let path := before ++ part.text
        match machine.findSelf (toText path) with
        | .ok (.present _ _) => [path]
        | _ => []
  | part :: parts =>
      let names := if isPattern part then matchingNames machine before part else [part.text]
      names.flatMap fun name => matchingPaths machine (before ++ name ++ ['/']) parts

/-- The texts that a field stands for. -/
def textsOf (machine : Machine) (field : Field) : List Raw :=
  if isPattern field then
    match matchingPaths machine [] (fieldParts field) with
    | [] => [field.text]
    | paths => paths
  else [field.text]

end DocCheck.Shell
