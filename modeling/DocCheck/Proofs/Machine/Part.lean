import DocCheck.Proofs.Machine.Removal

/-!
Parts of file trees. What is read in a part of a tree is read in the tree. Main statements: a removal
leaves the part of a tree that lies outside what the path names, and making directories leaves all of
it.
-/

namespace DocCheck

namespace FileTree

/-- Every entry of one tree is an entry of the other. -/
def IsPart (part tree : FileTree) : Prop :=
  ∀ place entry, part.find? place = some entry → tree.find? place = some entry

/-- The files without what has been found, and without what is below that. -/
def without (tree : FileTree) : Except FileError Found → FileTree
  | .ok (.present location _) => tree.remove location
  | _ => tree

namespace IsPart

variable {part middle tree : FileTree}

theorem refl (tree : FileTree) : IsPart tree tree :=
  fun _ _ present => present

theorem trans (first : IsPart part middle) (second : IsPart middle tree) : IsPart part tree :=
  fun place entry present => second place entry (first place entry present)

theorem remove (isPart : IsPart part tree) (location : Location) :
    IsPart (part.remove location) (tree.remove location) := by
  intro place entry present
  by_cases root : place = []
  · rw [root] at present ⊢
    exact present
  · rw [find?_remove _ root] at present ⊢
    by_cases below : location.isPrefixOf place = true
    · rw [if_pos below] at present
      cases present
    · rw [if_neg below] at present ⊢
      exact isPart place entry present

end IsPart

theorem isPart_remove (location : Location) (tree : FileTree) :
    IsPart (tree.remove location) tree :=
  fun _ _ => Machine.find?_of_find?_remove

theorem isPart_without (found : Except FileError Found) (tree : FileTree) :
    IsPart (tree.without found) tree := by
  unfold without
  split
  · exact isPart_remove _ tree
  · exact .refl tree

theorem isPart_clear (location : Location) (tree : FileTree) :
    IsPart (tree.clear location) tree := by
  intro place entry present
  rcases tree.find?_clear_cases location place with same | ⟨missing, _⟩
  · rwa [← same]
  · rw [missing] at present
    cases present

theorem isPart_remove_remove (location : Location) (tree : FileTree) :
    IsPart (tree.remove location) ((tree.remove location).remove location) := by
  intro place entry present
  by_cases root : place = []
  · rw [root] at present ⊢
    exact present
  · rw [find?_remove _ root] at present ⊢
    split at present
    · cases present
    next outside => rw [if_neg outside, find?_remove _ root, if_neg outside, present]

theorem isPart_remove_clear (location : Location) (tree : FileTree) :
    IsPart (tree.remove location) (tree.clear location) := by
  intro place entry present
  by_cases root : place = []
  · rw [root] at present ⊢
    exact present
  · rw [find?_remove _ root] at present
    rw [find?_clear _ root]
    split at present
    · cases present
    next outside => simp [outside, present]

/-- What is stored at a place or below it leaves the rest as it is. -/
theorem isPart_remove_store {location place : Location} (below : location <+: place)
    (entry : Entry) (tree : FileTree) :
    IsPart (tree.remove location) (tree.store place entry) := by
  intro other found present
  have different : other ≠ place ∨ other = [] := by
    by_cases root : other = []
    · exact Or.inr root
    · rw [find?_remove _ root] at present
      split at present
      · cases present
      next outside =>
        refine Or.inl fun same => outside ?_
        rw [same]
        exact List.isPrefixOf_iff_prefix.mpr below
  rcases different with different | rfl
  · rw [find?_store_of_ne _ _ different]
    exact isPart_remove location tree other found present
  · exact present

/-- What is stored where nothing stands leaves all as it is. -/
theorem isPart_store {place : Location} {tree : FileTree} (missing : tree.find? place = none)
    (entry : Entry) : IsPart tree (tree.store place entry) := by
  intro other found present
  have different : other ≠ place := by
    rintro rfl
    rw [missing] at present
    cases present
  rwa [find?_store_of_ne _ _ different]

private theorem IsPart.walk_eq {part tree : FileTree} {follow : Bool} {links : Nat}
    {here place : Location} {names : List Text} {entry : Entry} (isPart : IsPart part tree)
    (found : part.walk follow links here names = .ok (.present place entry)) :
    tree.walk follow links here names = .ok (.present place entry) :=
  ((finds_of_walk links found).of_kept isPart).walk_eq

theorem IsPart.resolve_eq {part tree : FileTree} {follow : Bool} {here place : Location}
    {path : Text} {entry : Entry} (isPart : IsPart part tree)
    (found : part.resolve follow here path = .ok (.present place entry)) :
    tree.resolve follow here path = .ok (.present place entry) := by
  obtain ⟨clean, short, walked⟩ := walk_of_resolve found
  rw [resolve_eq_walk clean (Machine.ne_nil_of_resolve found) short]
  exact isPart.walk_eq walked

/-! ## Walks that find nothing -/

/-- `Misses tree follow links here names directory name` means that walking the names from a directory
ends in another one, which does not hold the last of them. -/
inductive Misses (tree : FileTree) (follow : Bool) :
    Nat → Location → List Text → Location → Text → Prop
  | missing {links : Nat} {here : Location} {name : Text} :
      Text.byteLength name ≤ nameLimit → name ≠ ['.'] → name ≠ ['.', '.'] →
      tree.find? (here ++ [name]) = none →
      Misses tree follow links here [name] here name
  | stay {links : Nat} {here directory : Location} {rest : List Text} {last : Text} :
      Misses tree follow links here rest directory last →
      Misses tree follow links here (['.'] :: rest) directory last
  | parent {links : Nat} {here directory : Location} {rest : List Text} {last : Text} :
      Misses tree follow links here.dropLast rest directory last →
      Misses tree follow links here (['.', '.'] :: rest) directory last
  | directory {links : Nat} {here directory : Location} {name last : Text} {rest : List Text} :
      Text.byteLength name ≤ nameLimit → name ≠ ['.'] → name ≠ ['.', '.'] →
      tree.find? (here ++ [name]) = some .directory →
      Misses tree follow links (here ++ [name]) rest directory last →
      Misses tree follow links here (name :: rest) directory last
  | link {links : Nat} {here directory : Location} {name target last : Text} {rest : List Text} :
      Text.byteLength name ≤ nameLimit → name ≠ ['.'] → name ≠ ['.', '.'] →
      tree.find? (here ++ [name]) = some (.link target) → target ≠ [] →
      (rest = [] → follow = true) →
      Misses tree follow links (if Path.isAbsolute target then [] else here)
        (steps target ++ rest) directory last →
      Misses tree follow (links + 1) here (name :: rest) directory last

private theorem misses_of_walk {tree : FileTree} {follow : Bool} (links : Nat)
    {here directory : Location} {names : List Text} {last : Text}
    (walked : tree.walk follow links here names = .ok (.absent directory last)) :
    Misses tree follow links here names directory last := by
  induction names generalizing here with
  | nil =>
      rw [walk_nil] at walked
      cases walked
  | cons name rest inductionHypothesis =>
      by_cases noStay : name = ['.']
      · subst noStay
        rw [walk_stay] at walked
        exact .stay (inductionHypothesis walked)
      by_cases noParent : name = ['.', '.']
      · subst noParent
        rw [walk_parent] at walked
        exact .parent (inductionHypothesis walked)
      by_cases long : nameLimit < Text.byteLength name
      · rw [FileTree.walk_eq, walkSteps, if_pos long] at walked
        cases walked
      have short : Text.byteLength name ≤ nameLimit := Nat.not_lt.mp long
      rw [walk_cons short noStay noParent] at walked
      split at walked
      · next missing =>
          split at walked
          · next isLast =>
              obtain rfl := List.isEmpty_iff.mp isLast
              cases walked
              exact .missing short noStay noParent missing
          · cases walked
      · next present =>
          exact .directory short noStay noParent present (inductionHypothesis walked)
      · split at walked <;> cases walked
      · next target present =>
          split at walked
          · cases walked
          next goesOn =>
            split at walked
            · cases walked
            next filled =>
              cases links with
              | zero => cases walked
              | succ links =>
                  refine .link short noStay noParent present (by simpa using filled) ?_
                    (misses_of_walk links walked)
                  intro noRest
                  simpa [noRest] using goesOn
termination_by links

namespace Misses

variable {tree other : FileTree} {follow : Bool} {links : Nat} {here directory : Location}
  {names : List Text} {last : Text}

/-- A walk finds nothing only where nothing stands. -/
private theorem find?_eq_none (misses : Misses tree follow links here names directory last) :
    tree.find? (directory ++ [last]) = none := by
  induction misses with
  | missing _ _ _ missing => exact missing
  | stay _ inductionHypothesis => exact inductionHypothesis
  | parent _ inductionHypothesis => exact inductionHypothesis
  | directory _ _ _ _ _ inductionHypothesis => exact inductionHypothesis
  | link _ _ _ _ _ _ _ inductionHypothesis => exact inductionHypothesis

/-- Once the directory has been made that a walk has missed, the walk finds it. -/
theorem walk_eq (misses : Misses tree follow links here names directory last)
    (isPart : IsPart tree other) (made : other.find? (directory ++ [last]) = some .directory) :
    other.walk follow links here names = .ok (.present (directory ++ [last]) .directory) := by
  induction misses with
  | missing short noStay noParent _ =>
      rw [walk_of_directory short noStay noParent made, walk_nil]
  | stay _ inductionHypothesis => rw [walk_stay, inductionHypothesis made]
  | parent _ inductionHypothesis => rw [walk_parent, inductionHypothesis made]
  | directory short noStay noParent present _ inductionHypothesis =>
      rw [walk_of_directory short noStay noParent (isPart _ _ present), inductionHypothesis made]
  | link short noStay noParent present filled followed _ inductionHypothesis =>
      rw [walk_of_link short noStay noParent (isPart _ _ present) filled followed,
        inductionHypothesis made]

end Misses

end FileTree

namespace Machine

open FileTree

/-! ## What is read -/

theorem readFile_of_isPart {part machine : Machine} {path : Text} {content : Bytes}
    (isPart : part.files.IsPart machine.files) (here : part.here = machine.here)
    (read : part.readFile path = .ok content) : machine.readFile path = .ok content := by
  rw [readFile] at read ⊢
  split at read
  · next place known executable found =>
      have still : machine.find path = .ok (.present place (.file known executable)) := by
        rw [find] at found ⊢
        rw [← here]
        exact isPart.resolve_eq found
      rw [still]
      exact read
  · cases read
  · cases read
  · cases read

/-! ## Changes -/

/-- A directory cannot be made and nothing changes, or it is stored where nothing stood, and the path
names it from then on. -/
theorem makeDirectory_cases (path : Text) (machine : Machine) :
    (∃ failure, makeDirectory path machine = (.error failure, machine)) ∨
    ∃ place, machine.files.find? place = none ∧
      makeDirectory path machine =
        (.ok (), machine.withFiles (machine.files.store place .directory)) ∧
      (machine.withFiles (machine.files.store place .directory)).findSelf (withoutEndSlashes path) =
        .ok (.present place .directory) := by
  unfold makeDirectory
  split
  · exact Or.inl ⟨_, rfl⟩
  · next directory name absent =>
      obtain ⟨clean, short, walked⟩ := walk_of_resolve absent
      have misses := misses_of_walk linkLimit walked
      have stored := find?_store_self Entry.directory machine.files
        (List.append_ne_nil_of_right_ne_nil directory (List.cons_ne_nil name []))
      refine Or.inr ⟨directory ++ [name], misses.find?_eq_none, rfl, ?_⟩
      rw [findSelf, resolve_eq_walk clean (ne_nil_of_resolve absent) short]
      exact misses.walk_eq (isPart_store misses.find?_eq_none _) stored
  · exact Or.inl ⟨_, rfl⟩

theorem isPart_makeDirectory (path : Text) (machine : Machine) :
    machine.files.IsPart (makeDirectory path machine).2.files ∧
      (makeDirectory path machine).2.here = machine.here := by
  rcases makeDirectory_cases path machine with ⟨failure, same⟩ | ⟨place, missing, made, _⟩
  · rw [same]
    exact ⟨.refl _, rfl⟩
  · rw [made]
    exact ⟨isPart_store missing _, rfl⟩

/-- What is made is the directory itself, or the ones above it and then perhaps itself. -/
theorem makeDirectoriesWithin_cases (fuel : Nat) (path : Text) (machine : Machine) :
    ((makeDirectoriesWithin (fuel + 1) path machine).2 = (makeDirectory path machine).2 ∧
      ((makeDirectory path machine).1 = .ok () →
        (makeDirectoriesWithin (fuel + 1) path machine).1 = .ok ())) ∨
    ∃ parent ready, Path.parent? path = some parent ∧
      ready = (makeDirectoriesWithin fuel parent machine).2 ∧
      ((makeDirectoriesWithin (fuel + 1) path machine).2 = ready ∨
        (makeDirectoriesWithin (fuel + 1) path machine).2 = (makeDirectory path ready).2 ∧
        ((makeDirectory path ready).1 = .ok () →
          (makeDirectoriesWithin (fuel + 1) path machine).1 = .ok ())) := by
  have unchanged : ∀ failure same, makeDirectory path machine = (.error failure, same) →
      same = machine := by
    intro failure same refused
    rcases makeDirectory_cases path machine with ⟨_, isSame⟩ | ⟨_, _, made, _⟩
    · rw [isSame] at refused
      cases refused
      rfl
    · rw [made] at refused
      cases refused
  generalize outcome : makeDirectoriesWithin (fuel + 1) path machine = result
  rw [makeDirectoriesWithin] at outcome
  subst outcome
  split
  · next isEmpty =>
      obtain rfl := List.isEmpty_iff.mp isEmpty
      exact Or.inl ⟨rfl, nofun⟩
  · rcases tried : makeDirectory path machine with ⟨failure | _, same⟩
    · obtain rfl := unchanged failure same tried
      dsimp only
      split
      · left
        split <;> exact ⟨rfl, nofun⟩
      · cases isParent : Path.parent? path with
        | none => exact Or.inl ⟨rfl, nofun⟩
        | some parent =>
            refine Or.inr ⟨parent, _, rfl, rfl, ?_⟩
            dsimp only
            rcases makeDirectoriesWithin fuel parent same with ⟨failure | _, ready⟩
            · exact Or.inl rfl
            · dsimp only
              right
              rcases makeDirectory path ready with ⟨failure | _, made⟩
              · dsimp only
                split <;> exact ⟨rfl, nofun⟩
              · exact ⟨rfl, fun _ => rfl⟩
    · exact Or.inl ⟨rfl, fun _ => rfl⟩

theorem isPart_makeDirectoriesWithin (fuel : Nat) (path : Text) (machine : Machine) :
    machine.files.IsPart (makeDirectoriesWithin fuel path machine).2.files ∧
      (makeDirectoriesWithin fuel path machine).2.here = machine.here := by
  induction fuel generalizing path machine with
  | zero => exact ⟨.refl _, rfl⟩
  | succ fuel inductionHypothesis =>
      rcases makeDirectoriesWithin_cases fuel path machine with
        ⟨result, _⟩ | ⟨parent, ready, _, rfl, result | ⟨result, _⟩⟩
      · rw [result]
        exact isPart_makeDirectory path machine
      · rw [result]
        exact inductionHypothesis parent machine
      · have parents := inductionHypothesis parent machine
        have itself := isPart_makeDirectory path (makeDirectoriesWithin fuel parent machine).2
        rw [result]
        exact ⟨parents.1.trans itself.1, itself.2.trans parents.2⟩

/-- A path with slashes at its end names the directory that it names without them. -/
theorem findSelf_of_withoutEndSlashes {machine : Machine} {path : Text} {place : Location}
    (clean : '\x00' ∉ path) (short : Text.byteLength path < pathLimit)
    (plainFound : machine.findSelf (withoutEndSlashes path) = .ok (.present place .directory)) :
    machine.findSelf path = .ok (.present place .directory) := by
  obtain ⟨_, _, plainWalked⟩ := walk_of_resolve plainFound
  obtain ⟨tail, isTail, names⟩ := steps_eq_append path
  have filled : path ≠ [] := by
    rintro rfl
    exact ne_nil_of_resolve plainFound rfl
  rw [isAbsolute_withoutEndSlashes] at plainWalked
  rw [findSelf, resolve_eq_walk clean filled short, names]
  rcases isTail with rfl | rfl
  · rw [List.append_nil, plainWalked]
  · obtain ⟨left, reached⟩ := exists_reaches_of_walk linkLimit plainWalked
    rw [reached.walk_append (List.cons_ne_nil _ _), walk_stay, walk_nil]

private theorem eq_of_findSelf_withoutEndSlashes {machine : Machine} {path : Text}
    {location plain : Location} {entry : Entry}
    (found : machine.findSelf path = .ok (.present location entry))
    (plainFound : machine.findSelf (withoutEndSlashes path) = .ok (.present plain .directory)) :
    plain = location := by
  obtain ⟨clean, short, _⟩ := walk_of_resolve found
  rw [findSelf_of_withoutEndSlashes clean short plainFound] at found
  cases found
  rfl

/-- A removal takes away nothing but what the path names and what is below that. -/
theorem isPart_removeTree (path : Text) (machine : Machine) :
    (machine.files.without (machine.findSelf path)).IsPart (removeTree path machine).2.files ∧
      (removeTree path machine).2.here = machine.here := by
  unfold removeTree
  cases found : machine.findSelf path with
  | error error => exact ⟨.refl _, rfl⟩
  | ok found' =>
      cases found' with
      | absent directory name => exact ⟨.refl _, rfl⟩
      | present location entry =>
          cases entry with
          | file content executable => exact ⟨isPart_remove location _, rfl⟩
          | link target => exact ⟨.refl _, rfl⟩
          | directory =>
              have cleared := isPart_remove_clear location machine.files
              dsimp only [without]
              rcases removeDirectory_cases path
                  (machine.withFiles (machine.files.clear location)) with
                ⟨error, removed, _⟩ | ⟨plain, plainFound, removed, _⟩
              · rw [removed]
                split
                · next equality =>
                    cases equality
                    exact ⟨cleared, rfl⟩
                · exact ⟨cleared, rfl⟩
              · -- The directory that is removed is the one that has been emptied.
                have before : machine.findSelf (withoutEndSlashes path) =
                    .ok (.present plain .directory) :=
                  (isPart_clear location machine.files).resolve_eq plainFound
                obtain rfl := eq_of_findSelf_withoutEndSlashes found before
                rw [removed]
                exact ⟨(isPart_remove_remove plain _).trans (cleared.remove plain), rfl⟩

end Machine

end DocCheck
