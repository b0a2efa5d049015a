import DocCheck.Text.Basic

/-!
The files of a machine. A tree is a finite map from locations to entries; a location is the list of
names from the root, all links resolved. Main statements: what a location holds after storing or
removing depends only on that location and on what was there before.
-/

namespace DocCheck

abbrev Bytes := List UInt8

/-- A place in a file tree: the names on the way to it from the root. -/
abbrev Location := List Text

inductive Entry where
  | file (content : Bytes) (executable : Bool)
  | link (target : Text)
  | directory
  deriving Repr, DecidableEq

/-- A finite map from locations to entries. -/
structure FileTree where
  entries : List (Location × Entry)
  deriving Repr, DecidableEq

namespace FileTree

def empty : FileTree := ⟨[]⟩

/-- What a location holds; the root is always a directory. -/
def find? (tree : FileTree) (location : Location) : Option Entry :=
  if location = [] then some .directory
  else (tree.entries.find? fun stored => stored.1 == location).map Prod.snd

def store (location : Location) (entry : Entry) (tree : FileTree) : FileTree :=
  ⟨(location, entry) :: tree.entries.filter fun stored => stored.1 != location⟩

/-- Removes what a location holds, with all below it. -/
def remove (location : Location) (tree : FileTree) : FileTree :=
  ⟨tree.entries.filter fun stored => !location.isPrefixOf stored.1⟩

/-- Removes all below a location, but not what it holds itself. -/
def clear (location : Location) (tree : FileTree) : FileTree :=
  ⟨tree.entries.filter fun stored => stored.1 == location || !location.isPrefixOf stored.1⟩

def hasChildren (tree : FileTree) (location : Location) : Bool :=
  tree.entries.any fun stored => location.isPrefixOf stored.1 && stored.1 != location

theorem find?_store_self {location : Location} (entry : Entry) (tree : FileTree)
    (inside : location ≠ []) : (tree.store location entry).find? location = some entry := by
  simp [find?, store, inside]

theorem find?_store_of_ne {location other : Location} (entry : Entry) (tree : FileTree)
    (different : other ≠ location) : (tree.store location entry).find? other = tree.find? other := by
  unfold find? store
  split
  · rfl
  · congr 1
    rw [List.find?_cons_of_neg (by simpa using fun equality => different equality.symm)]
    rw [List.find?_filter]
    congr 1
    funext stored
    by_cases same : stored.1 = other <;> simp [same, different]

theorem find?_remove {location other : Location} (tree : FileTree) (inside : other ≠ []) :
    (tree.remove location).find? other =
      if location.isPrefixOf other then none else tree.find? other := by
  unfold find? remove
  simp only [inside, if_false, List.find?_filter]
  split
  · next below =>
      rw [Option.map_eq_none_iff, List.find?_eq_none]
      intro stored _
      by_cases same : stored.1 = other <;> simp [same, below]
  · next outside =>
      congr 2
      funext stored
      by_cases same : stored.1 = other <;> simp [same, outside]

theorem find?_clear {location other : Location} (tree : FileTree) (inside : other ≠ []) :
    (tree.clear location).find? other =
      if location.isPrefixOf other && other != location then none else tree.find? other := by
  unfold find? clear
  simp only [inside, if_false, List.find?_filter]
  split
  · next below =>
      rw [Option.map_eq_none_iff, List.find?_eq_none]
      intro stored _
      by_cases same : stored.1 = other
      · simp_all
      · simp [same]
  · next outside =>
      congr 2
      funext stored
      by_cases same : stored.1 = other
      · subst same
        simp only [Bool.not_eq_true, Bool.and_eq_false_iff, bne_eq_false_iff_eq] at outside
        rcases outside with apart | equal
        · simp [apart]
        · simp [equal]
      · simp [same]

/-- Nothing appears where a location is cleared, and the location itself stays. -/
theorem find?_clear_cases (tree : FileTree) (location other : Location) :
    (tree.clear location).find? other = tree.find? other ∨
      ((tree.clear location).find? other = none ∧ other ≠ location) := by
  by_cases root : other = []
  · rw [root]
    exact Or.inl rfl
  · rw [find?_clear tree root]
    split
    · next below =>
        have elsewhere : other ≠ location := by simp_all
        exact Or.inr ⟨rfl, elsewhere⟩
    · exact Or.inl rfl

theorem find?_of_hasChildren {tree : FileTree} {location : Location}
    (childless : tree.hasChildren location = false) (name : Text) :
    tree.find? (location ++ [name]) = none := by
  have inside : location ++ [name] ≠ [] := by simp
  rw [find?, if_neg inside, Option.map_eq_none_iff, List.find?_eq_none]
  intro stored member same
  have child := List.any_eq_false.mp childless stored member
  simp [beq_iff_eq.mp same] at child

theorem hasChildren_clear (tree : FileTree) (location : Location) :
    (tree.clear location).hasChildren location = false := by
  rw [hasChildren, clear, List.any_eq_false]
  intro stored member below
  have kept := (List.mem_filter.mp member).2
  cases inside : location.isPrefixOf stored.1 <;> simp_all

/-! ## Listing -/

/-- What is listed after the name of an entry: directories end in a slash and links in an at sign. -/
def listingMark : Entry → Text
  | .file _ _ => []
  | .link _ => ['@']
  | .directory => ['/']

/-- The entries below a location, as paths seen from there. -/
def pathsBelow (tree : FileTree) (location : Location) : List Text :=
  tree.entries.filterMap fun stored =>
    if location.isPrefixOf stored.1 && stored.1 != location then
      some (Text.joinWith ['/'] (stored.1.drop location.length) ++ listingMark stored.2)
    else none

def listing (tree : FileTree) (location : Location) : List Text :=
  (tree.pathsBelow location).mergeSort fun left right => !decide (right < left)

end FileTree

end DocCheck
