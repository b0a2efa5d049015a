import DocCheck.Machine.FileTree
import DocCheck.Machine.FileError
import DocCheck.Path

/-!
Finding what a path names in a file tree. The path is walked name by name; every name before the
last has to be a directory or a link to one. A link is replaced by its target, at most forty times,
unless it is the last name and is asked for itself.
-/

namespace DocCheck

inductive Found where
  | present (location : Location) (entry : Entry)
  /-- Nothing, but it could be made under this name in a directory that exists. -/
  | absent (directory : Location) (name : Text)
  deriving Repr, DecidableEq

namespace FileTree

/-- The longest name, in bytes. -/
def nameLimit : Nat := 255

/-- Paths have fewer bytes than this. -/
def pathLimit : Nat := 4096

/-- The most links on the way to what a path names. -/
def linkLimit : Nat := 40

/-- The names that a path is walked by. A slash at the end asks for a directory. -/
def steps (path : Text) : List Text :=
  let names := (Text.splitAt '/' path).filter fun part => !part.isEmpty
  if Path.endsInSlash path then names ++ [['.']] else names

/-- Walks names from a directory. A link on the way is left to `expand`, with the names of its
target in place of it. -/
def walkSteps (tree : FileTree) (follow : Bool)
    (expand : Location → List Text → Except FileError Found) :
    Location → List Text → Except FileError Found
  | here, [] => .ok (.present here .directory)
  | here, name :: rest =>
      if nameLimit < Text.byteLength name then .error .nameTooLong
      else if name = ['.'] then walkSteps tree follow expand here rest
      else if name = ['.', '.'] then walkSteps tree follow expand here.dropLast rest
      else
        let there := here ++ [name]
        match tree.find? there with
        | none => if rest.isEmpty then .ok (.absent here name) else .error .notFound
        | some .directory => walkSteps tree follow expand there rest
        | some (.file content executable) =>
            if rest.isEmpty then .ok (.present there (.file content executable))
            else .error .notDirectory
        | some (.link target) =>
            if rest.isEmpty && !follow then .ok (.present there (.link target))
            else if target.isEmpty then .error .notFound
            -- The target is walked from the root or from where the link stands.
            else expand (if Path.isAbsolute target then [] else here) (steps target ++ rest)

/-- Walks names from a directory with at most `links` links on the way. -/
def walk (tree : FileTree) (follow : Bool) :
    Nat → Location → List Text → Except FileError Found
  | 0 => tree.walkSteps follow fun _ _ => .error .tooManyLinks
  | links + 1 => tree.walkSteps follow (walk tree follow links)

def resolve (tree : FileTree) (follow : Bool) (here : Location) (path : Text) :
    Except FileError Found :=
  if path.contains '\x00' then .error .nulInPath
  else if path.isEmpty then .error .notFound
  else if pathLimit ≤ Text.byteLength path then .error .nameTooLong
  else tree.walk follow linkLimit (if Path.isAbsolute path then [] else here) (steps path)

end FileTree

end DocCheck
