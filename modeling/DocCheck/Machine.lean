import DocCheck.Machine.Resolve
import DocCheck.Text.Utf8

/-!
A machine: its files, the directory that relative paths are seen from, and the directories that
programs are looked up in. The operations are those that the system offers on single files, each
with the error that it raises; an operation that fails changes nothing.
-/

namespace DocCheck

/-- A machine, as a program sees it. -/
structure Machine where
  files : FileTree
  /-- The working directory. -/
  here : Location
  /-- The directories in which programs are looked up by name. -/
  searchPath : List Text
  deriving Repr, DecidableEq

/-- What an operation that may change the files comes to. -/
abbrev Operation (α : Type) := Machine → Except FileError α × Machine

namespace Machine

def pathOf (location : Location) : Text :=
  '/' :: Text.joinWith ['/'] location

/-- What a path names, links followed. -/
def find (machine : Machine) (path : Text) : Except FileError Found :=
  machine.files.resolve true machine.here path

/-- What a path names, a link as the last name taken for itself. -/
def findSelf (machine : Machine) (path : Text) : Except FileError Found :=
  machine.files.resolve false machine.here path

def withFiles (machine : Machine) (files : FileTree) : Machine :=
  { machine with files := files }

/-! ## Questions -/

def entry? (machine : Machine) (path : Text) : Option Entry :=
  match machine.find path with
  | .ok (.present _ entry) => some entry
  | _ => none

def isPresent (machine : Machine) (path : Text) : Bool :=
  (machine.entry? path).isSome

def isDirectory (machine : Machine) (path : Text) : Bool :=
  machine.entry? path == some .directory

def isFile (machine : Machine) (path : Text) : Bool :=
  match machine.entry? path with
  | some (.file _ _) => true
  | _ => false

/-- The path names a file that may be run. -/
def isExecutable (machine : Machine) (path : Text) : Bool :=
  match machine.entry? path with
  | some (.file _ executable) => executable
  | _ => false

/-- The location that a path names, all links followed. -/
def location (machine : Machine) (path : Text) : Except FileError Location :=
  match machine.find path with
  | .ok (.present location _) => .ok location
  | .ok (.absent _ _) => .error .notFound
  | .error failure => .error failure

def readFile (machine : Machine) (path : Text) : Except FileError Bytes :=
  match machine.find path with
  | .ok (.present _ (.file content _)) => .ok content
  | .ok (.present _ _) => .error .isDirectory
  | .ok (.absent _ _) => .error .notFound
  | .error failure => .error failure

def readText (machine : Machine) (path : Text) : Except FileError Text :=
  match machine.readFile path with
  | .error failure => .error failure
  | .ok content =>
      match Text.Utf8.decode? content with
      | some text => .ok text
      | none => .error .notText

/-! ## Changes -/

/-- Gives a file its content, and makes it if it is missing. -/
def writeFile (path : Text) (content : Bytes) : Operation Unit := fun machine =>
  if Path.endsInSlash path then (.error .isDirectory, machine)
  else
    match machine.find path with
    | .ok (.present location (.file _ executable)) =>
        (.ok (), machine.withFiles (machine.files.store location (.file content executable)))
    | .ok (.present _ _) => (.error .isDirectory, machine)
    | .ok (.absent directory name) =>
        (.ok (), machine.withFiles
          (machine.files.store (directory ++ [name]) (.file content false)))
    | .error failure => (.error failure, machine)

def allowRunning (path : Text) : Operation Unit := fun machine =>
  match machine.find path with
  | .ok (.present location (.file content _)) =>
      (.ok (), machine.withFiles (machine.files.store location (.file content true)))
  | .ok (.present _ _) => (.ok (), machine)
  | .ok (.absent _ _) => (.error .notFound, machine)
  | .error failure => (.error failure, machine)

def makeLink (target path : Text) : Operation Unit := fun machine =>
  match machine.findSelf path with
  | .ok (.present _ _) => (.error .alreadyExists, machine)
  | .ok (.absent directory name) =>
      (.ok (), machine.withFiles (machine.files.store (directory ++ [name]) (.link target)))
  | .error failure => (.error failure, machine)

/-- A path without the slashes at its end, unless it consists of them. -/
def withoutEndSlashes (path : Text) : Text :=
  match Text.dropEndWhile (· == '/') path with
  | [] => path
  | kept => kept

def makeDirectory (path : Text) : Operation Unit := fun machine =>
  match machine.findSelf (withoutEndSlashes path) with
  | .ok (.present _ _) => (.error .alreadyExists, machine)
  | .ok (.absent directory name) =>
      (.ok (), machine.withFiles (machine.files.store (directory ++ [name]) .directory))
  | .error failure => (.error failure, machine)

/-- Removes a file or a link. -/
def removeFile (path : Text) : Operation Unit := fun machine =>
  match machine.findSelf path with
  | .ok (.present _ .directory) => (.error .isDirectory, machine)
  | .ok (.present location _) => (.ok (), machine.withFiles (machine.files.remove location))
  | .ok (.absent _ _) => (.error .notFound, machine)
  | .error failure => (.error failure, machine)

/-- Removes an empty directory. The path has to end in its name, and not in dots. -/
def removeDirectory (path : Text) : Operation Unit := fun machine =>
  let plain := withoutEndSlashes path
  match machine.findSelf plain with
  | .error failure => (.error failure, machine)
  | .ok (.absent _ _) => (.error .notFound, machine)
  | .ok (.present location .directory) =>
      match (FileTree.steps plain).getLast? with
      | some ['.'] => (.error .invalidArgument, machine)
      | some ['.', '.'] => (.error .notEmpty, machine)
      | _ =>
          if location = [] then (.error .busy, machine)
          else if machine.files.hasChildren location then (.error .notEmpty, machine)
          else (.ok (), machine.withFiles (machine.files.remove location))
  | .ok (.present _ _) => (.error .notDirectory, machine)

/-! ## Directories with all that is in them -/

/-- Makes a directory and the directories that lead to it; `fuel` bounds their number. -/
def makeDirectoriesWithin : Nat → Text → Operation Unit
  | 0, _, machine => (.error .notFound, machine)
  | fuel + 1, path, machine =>
      if path.isEmpty then (.ok (), machine)
      else
        match makeDirectory path machine with
        | (.ok (), made) => (.ok (), made)
        | (.error failure, same) =>
            -- Only a missing parent is made good. A directory that is there already is left alone.
            if failure ≠ .notFound then
              if same.isDirectory path then (.ok (), same) else (.error failure, same)
            else
              match Path.parent? path with
              | none => (.error (.other "failed to create whole tree".toList), same)
              | some parent =>
                  match makeDirectoriesWithin fuel parent same with
                  | (.error failure, stuck) => (.error failure, stuck)
                  | (.ok (), ready) =>
                      match makeDirectory path ready with
                      | (.ok (), made) => (.ok (), made)
                      | (.error failure, same) =>
                          if same.isDirectory path then (.ok (), same) else (.error failure, same)

def makeDirectories (path : Text) : Operation Unit :=
  makeDirectoriesWithin (path.length + 1) path

/-- Removes a directory with all below it. A link is removed itself, and what it leads to stays; a
file is refused. -/
def removeTree (path : Text) : Operation Unit := fun machine =>
  match machine.findSelf path with
  | .error failure => (.error failure, machine)
  | .ok (.absent _ _) => (.error .notFound, machine)
  | .ok (.present _ (.file _ _)) => (.error .notDirectory, machine)
  | .ok (.present location (.link _)) =>
      (.ok (), machine.withFiles (machine.files.remove location))
  | .ok (.present location .directory) =>
      -- A path under which the directory cannot be removed still loses its content.
      let emptied := machine.withFiles (machine.files.clear location)
      match removeDirectory path emptied with
      | (.error .notFound, same) => (.ok (), same)
      | result => result

end Machine

end DocCheck
