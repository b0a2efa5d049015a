import DocCheck.Text.Basic

/-!
Paths as text: joining them, making them absolute, and the file that they name. Nothing here looks
at files, and a path keeps the way it is written as far as possible.
-/

namespace DocCheck.Path

def isAbsolute (path : Text) : Bool :=
  path.head? == some '/'

def endsInSlash (path : Text) : Bool :=
  path.getLast? == some '/'

/-- The path `inner` seen from `base`. An absolute path stands for itself, and joining no text adds
a slash. -/
def join (base inner : Text) : Text :=
  if isAbsolute inner || base.isEmpty then inner
  else if endsInSlash base then base ++ inner
  else base ++ '/' :: inner

/-- Whether a part between slashes names nothing. -/
def isHere (part : Text) : Bool :=
  part.isEmpty || part = ['.']

/-- The names in a path, in order; parents (`..`) count as names. -/
def names (path : Text) : List Text :=
  (Text.splitAt '/' path).filter fun part => !isHere part

/-- The path seen from the root, where `here` is the directory it is seen from. Single dots and
repeated slashes go; parents and a slash at the end stay. A path without characters has no absolute
form. -/
def absolute? (here path : Text) : Option Text :=
  if path.isEmpty then none
  else
    let base :=
      if isAbsolute path then
        -- Two slashes at the beginning stay two, but three and more become one.
        if List.isPrefixOf "//".toList path && !List.isPrefixOf "///".toList path then
          "//".toList
        else "/".toList
      else here
    let joined := (names path).foldl join base
    some (if endsInSlash path then join joined [] else joined)

/-! ## The last name -/

/-- Drops the parts at the end that name nothing, but not the first part. -/
def dropHere (parts : List Text) : List Text :=
  match parts with
  | [] => []
  | first :: rest => first :: (rest.reverse.dropWhile isHere).reverse

/-- The parts of a path up to the one that names the file. -/
def significant (path : Text) : List Text :=
  dropHere (Text.splitAt '/' path)

def ofParts (parts : List Text) : Text :=
  match parts with
  | [[]] => ['/']
  | _ => Text.joinWith ['/'] parts

/-- The directory that a path names a file in, unless it names none. -/
def parent? (path : Text) : Option Text :=
  match (significant path).reverse with
  | [] | [[]] => none
  | _ :: before => some (ofParts (dropHere before.reverse))

/-- The name of the file that a path ends in. A path that ends in a parent has none. -/
def fileName? (path : Text) : Option Text :=
  match (significant path).getLast? with
  | none => none
  | some name => if isHere name || name = ['.', '.'] then none else some name

def withFileName (name path : Text) : Text :=
  match fileName? path with
  | some _ => join ((parent? path).getD []) name
  | none => join path name

/-- A file name without its last ending. A dot at its beginning begins no ending. -/
def stem (name : Text) : Text :=
  match name.reverse.dropWhile (· != '.') with
  | [] | ['.'] => name
  | _ :: before => before.reverse

end DocCheck.Path
