import DocCheck.Cli.Session
import DocCheck.Compiler.TypeScript

/-!
The program. It works on a copy of the files of the working directory, which it leaves as they are.
-/

namespace DocCheck

/-- Copies a file, or a directory with all that is in it. Every file counts as one that may be
run. -/
partial def copyEntry (location : Location) (files : FileTree) (entry : IO.FS.DirEntry) :
    IO FileTree := do
  let there := location ++ [entry.fileName.toList]
  if ← entry.path.isDir then
    (← entry.path.readDir).foldlM (copyEntry there) (files.store there .directory)
  else
    let content ← IO.FS.readBinFile entry.path
    pure (files.store there (.file content.toList true))

def copyMachine : IO Machine := do
  let directory ← IO.currentDir
  let here := Path.names directory.toString.toList
  let parents := (List.range here.length).foldl
    (fun files depth => files.store (here.take (depth + 1)) .directory) FileTree.empty
  let files ← (← directory.readDir).foldlM (copyEntry here) parents
  pure ⟨files, here, []⟩

end DocCheck

open DocCheck in
def main (arguments : List String) : IO UInt32 := do
  let machine ← copyMachine
  let begun ← IO.monoMsNow
  let session := Cli.Session.ofArguments TypeScript.toolchain (arguments.map String.toList) machine
  let status := session.status.toUInt32
  let ended ← IO.monoMsNow
  IO.print (String.ofList (session.output ((ended - begun) / 10)))
  IO.eprint (String.ofList session.errors)
  pure status
