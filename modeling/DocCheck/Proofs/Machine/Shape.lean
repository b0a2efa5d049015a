import DocCheck.Proofs.Machine.Walk

/-!
Machines up to what stands in their files. Main statement: making and removing directories, and
whether it succeeds, depends only on the shape of the file tree.
-/

namespace DocCheck

def Entry.shape : Entry → Entry
  | .file _ _ => .file [] false
  | .link target => .link target
  | .directory => .directory

def Found.shape : Found → Found
  | .present location entry => .present location entry.shape
  | .absent directory name => .absent directory name

namespace FileTree

/-- The tree with all files emptied. -/
def shape (tree : FileTree) : FileTree :=
  ⟨tree.entries.map fun stored => (stored.1, stored.2.shape)⟩

private theorem find?_shape (tree : FileTree) (location : Location) :
    tree.shape.find? location = (tree.find? location).map Entry.shape := by
  unfold find? shape
  split
  · rfl
  · rw [List.find?_map, Option.map_map, Option.map_map]
    rfl

private theorem shape_store (location : Location) (entry : Entry) (tree : FileTree) :
    (tree.store location entry).shape = tree.shape.store location entry.shape := by
  simp only [shape, store, List.map_cons, List.filter_map]
  rfl

private theorem shape_remove (location : Location) (tree : FileTree) :
    (tree.remove location).shape = tree.shape.remove location := by
  simp only [shape, remove, List.filter_map]
  rfl

private theorem shape_clear (location : Location) (tree : FileTree) :
    (tree.clear location).shape = tree.shape.clear location := by
  simp only [shape, clear, List.filter_map]
  rfl

private theorem hasChildren_shape (tree : FileTree) (location : Location) :
    tree.shape.hasChildren location = tree.hasChildren location := by
  simp only [shape, hasChildren, List.any_map]
  rfl

private theorem walk_shape (tree : FileTree) (follow : Bool) (links : Nat) (here : Location)
    (names : List Text) :
    tree.shape.walk follow links here names =
      (tree.walk follow links here names).map Found.shape := by
  induction names generalizing here with
  | nil =>
      rw [walk_nil, walk_nil]
      rfl
  | cons name rest inductionHypothesis =>
      by_cases noStay : name = ['.']
      · subst noStay
        rw [walk_stay, walk_stay, inductionHypothesis]
      by_cases noParent : name = ['.', '.']
      · subst noParent
        rw [walk_parent, walk_parent, inductionHypothesis]
      by_cases long : nameLimit < Text.byteLength name
      · rw [walk_eq, walk_eq, walkSteps, walkSteps, if_pos long, if_pos long]
        rfl
      have short : Text.byteLength name ≤ nameLimit := Nat.not_lt.mp long
      rw [walk_cons short noStay noParent, walk_cons short noStay noParent, find?_shape]
      cases tree.find? (here ++ [name]) with
      | none =>
          dsimp only [Option.map_none]
          split <;> rfl
      | some entry =>
          cases entry with
          | directory => exact inductionHypothesis _
          | file content executable =>
              dsimp only [Option.map_some, Entry.shape]
              split <;> rfl
          | link target =>
              dsimp only [Option.map_some, Entry.shape]
              split
              · rfl
              · split
                · rfl
                · cases links with
                  | zero => rfl
                  | succ links => exact walk_shape tree follow links _ _
termination_by links

private theorem resolve_shape (tree : FileTree) (follow : Bool) (here : Location) (path : Text) :
    tree.shape.resolve follow here path = (tree.resolve follow here path).map Found.shape := by
  unfold resolve
  split
  · rfl
  · split
    · rfl
    · split
      · rfl
      · exact walk_shape tree follow _ _ _

end FileTree

namespace Machine

def shape (machine : Machine) : Machine :=
  machine.withFiles machine.files.shape

/-- What an operation comes to with the files emptied. -/
def shapeOf {α : Type} (outcome : Except FileError α × Machine) : Except FileError α × Machine :=
  (outcome.1, outcome.2.shape)

private theorem find_shape (machine : Machine) (path : Text) :
    machine.shape.find path = (machine.find path).map Found.shape :=
  machine.files.resolve_shape true machine.here path

private theorem findSelf_shape (machine : Machine) (path : Text) :
    machine.shape.findSelf path = (machine.findSelf path).map Found.shape :=
  machine.files.resolve_shape false machine.here path

private theorem isDirectory_shape (machine : Machine) (path : Text) :
    machine.shape.isDirectory path = machine.isDirectory path := by
  rw [isDirectory, isDirectory, entry?, entry?, find_shape]
  cases machine.find path with
  | error error => rfl
  | ok found =>
      cases found with
      | absent directory name => rfl
      | present location entry => cases entry <;> rfl

private theorem makeDirectory_shape (path : Text) (machine : Machine) :
    makeDirectory path machine.shape = shapeOf (makeDirectory path machine) := by
  unfold makeDirectory
  rw [findSelf_shape]
  cases machine.findSelf (withoutEndSlashes path) with
  | error error => rfl
  | ok found =>
      cases found with
      | present location entry => rfl
      | absent directory name =>
          simp only [Except.map, Found.shape, shapeOf, shape, withFiles, FileTree.shape_store]
          rfl

theorem makeDirectoriesWithin_shape (fuel : Nat) (path : Text) (machine : Machine) :
    makeDirectoriesWithin fuel path machine.shape =
      shapeOf (makeDirectoriesWithin fuel path machine) := by
  induction fuel generalizing path machine with
  | zero => rfl
  | succ fuel inductionHypothesis =>
      -- What has been refused is accepted where the directory is there already.
      have accepted : ∀ (error : FileError) (same : Machine),
          (if same.shape.isDirectory path then ((.ok () : Except FileError Unit), same.shape)
            else (.error error, same.shape)) =
          shapeOf (if same.isDirectory path then (.ok (), same) else (.error error, same)) := by
        intro error same
        rw [isDirectory_shape]
        split <;> rfl
      rw [makeDirectoriesWithin, makeDirectoriesWithin, makeDirectory_shape]
      split
      · rfl
      rcases makeDirectory path machine with ⟨error | _, same⟩
      · dsimp only [shapeOf]
        split
        · exact accepted error same
        · cases Path.parent? path with
          | none => rfl
          | some parent =>
              dsimp only
              rw [inductionHypothesis]
              rcases makeDirectoriesWithin fuel parent same with ⟨error | _, ready⟩
              · rfl
              · dsimp only [shapeOf]
                rw [makeDirectory_shape]
                rcases makeDirectory path ready with ⟨error | _, same⟩
                · exact accepted error same
                · rfl
      · rfl

private theorem removeDirectory_shape (path : Text) (machine : Machine) :
    removeDirectory path machine.shape = shapeOf (removeDirectory path machine) := by
  unfold removeDirectory
  dsimp only
  rw [findSelf_shape]
  cases machine.findSelf (withoutEndSlashes path) with
  | error error => rfl
  | ok found =>
      cases found with
      | absent directory name => rfl
      | present location entry =>
          cases entry with
          | file content executable => rfl
          | link target => rfl
          | directory =>
              dsimp only [Except.map, Found.shape, Entry.shape]
              split
              · rfl
              · rfl
              · have children := machine.files.hasChildren_shape location
                have files : machine.shape.files = machine.files.shape := rfl
                rw [files, children]
                split
                · rfl
                · split
                  · rfl
                  · rw [← FileTree.shape_remove]
                    rfl

theorem removeTree_shape (path : Text) (machine : Machine) :
    removeTree path machine.shape = shapeOf (removeTree path machine) := by
  unfold removeTree
  rw [findSelf_shape]
  cases machine.findSelf path with
  | error error => rfl
  | ok found =>
      cases found with
      | absent directory name => rfl
      | present location entry =>
          cases entry with
          | file content executable => rfl
          | link target =>
              dsimp only [Except.map, Found.shape, Entry.shape]
              have files : machine.shape.files = machine.files.shape := rfl
              rw [files, ← FileTree.shape_remove]
              rfl
          | directory =>
              dsimp only [Except.map, Found.shape, Entry.shape]
              have emptied : machine.shape.withFiles (machine.shape.files.clear location) =
                  (machine.withFiles (machine.files.clear location)).shape := by
                rw [shape, shape, withFiles, withFiles, withFiles, withFiles, FileTree.shape_clear]
              rw [emptied, removeDirectory_shape]
              rcases removeDirectory path (machine.withFiles (machine.files.clear location)) with
                ⟨error | _, after⟩
              · by_cases missing : error = .notFound
                · subst missing
                  rfl
                · dsimp only [shapeOf]
                  split
                  · next equality => exact absurd (by cases equality; rfl) missing
                  · split
                    · next equality => exact absurd (by cases equality; rfl) missing
                    · rfl
              · rfl

end Machine

end DocCheck
