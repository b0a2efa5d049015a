import DocCheck.Proofs.Machine.Walk

/-!
Walks that find something, and directories that are removed with all that is in them. Main
statement: where a removal is not refused, the path names nothing afterwards.
-/

namespace DocCheck

namespace FileTree

/-! ## Walks that find something -/

/-- `Finds tree follow links here names place entry` means that walking the names from a directory
ends at a place that holds the entry. -/
inductive Finds (tree : FileTree) (follow : Bool) :
    Nat → Location → List Text → Location → Entry → Prop
  | done {links : Nat} {here : Location} : Finds tree follow links here [] here .directory
  | stay {links : Nat} {here place : Location} {rest : List Text} {entry : Entry} :
      Finds tree follow links here rest place entry →
      Finds tree follow links here (['.'] :: rest) place entry
  | parent {links : Nat} {here place : Location} {rest : List Text} {entry : Entry} :
      Finds tree follow links here.dropLast rest place entry →
      Finds tree follow links here (['.', '.'] :: rest) place entry
  | directory {links : Nat} {here place : Location} {name : Text} {rest : List Text}
      {entry : Entry} :
      Text.byteLength name ≤ nameLimit → name ≠ ['.'] → name ≠ ['.', '.'] →
      tree.find? (here ++ [name]) = some .directory →
      Finds tree follow links (here ++ [name]) rest place entry →
      Finds tree follow links here (name :: rest) place entry
  | last {links : Nat} {here : Location} {name : Text} {entry : Entry} :
      Text.byteLength name ≤ nameLimit → name ≠ ['.'] → name ≠ ['.', '.'] →
      tree.find? (here ++ [name]) = some entry → entry ≠ .directory →
      (∀ target, entry = .link target → follow = false) →
      Finds tree follow links here [name] (here ++ [name]) entry
  | link {links : Nat} {here place : Location} {name target : Text} {rest : List Text}
      {entry : Entry} :
      Text.byteLength name ≤ nameLimit → name ≠ ['.'] → name ≠ ['.', '.'] →
      tree.find? (here ++ [name]) = some (.link target) → target ≠ [] →
      (rest = [] → follow = true) →
      Finds tree follow links (if Path.isAbsolute target then [] else here) (steps target ++ rest)
        place entry →
      Finds tree follow (links + 1) here (name :: rest) place entry

theorem finds_of_walk {tree : FileTree} {follow : Bool} (links : Nat) {here place : Location}
    {names : List Text} {entry : Entry}
    (walked : tree.walk follow links here names = .ok (.present place entry)) :
    Finds tree follow links here names place entry := by
  induction names generalizing here with
  | nil =>
      rw [walk_nil] at walked
      cases walked
      exact .done
  | cons name rest inductionHypothesis =>
      by_cases noStay : name = ['.']
      · subst noStay
        rw [walk_stay] at walked
        exact .stay (inductionHypothesis walked)
      by_cases noParent : name = ['.', '.']
      · subst noParent
        rw [walk_parent] at walked
        exact .parent (inductionHypothesis walked)
      by_cases long : nameLimit < Text.byteLength name
      · rw [walk_eq, walkSteps, if_pos long] at walked
        cases walked
      have short : Text.byteLength name ≤ nameLimit := Nat.not_lt.mp long
      rw [walk_cons short noStay noParent] at walked
      split at walked
      · split at walked <;> cases walked
      · next present =>
          exact .directory short noStay noParent present (inductionHypothesis walked)
      · next content executable present =>
          split at walked
          · next isLast =>
              obtain rfl := List.isEmpty_iff.mp isLast
              cases walked
              exact .last short noStay noParent present (by rintro ⟨⟩) (by rintro _ ⟨⟩)
          · cases walked
      · next target present =>
          split at walked
          · next isLast =>
              obtain ⟨noRest, noFollow⟩ := Bool.and_eq_true_iff.mp isLast
              obtain rfl := List.isEmpty_iff.mp noRest
              cases walked
              exact .last short noStay noParent present (by rintro ⟨⟩) fun _ _ => by
                simpa using noFollow
          next goesOn =>
            split at walked
            · cases walked
            next filled =>
              cases links with
              | zero => cases walked
              | succ links =>
                  -- The walk begins anew, with other names and one link fewer.
                  refine .link short noStay noParent present (by simpa using filled) ?_
                    (finds_of_walk links walked)
                  intro noRest
                  simpa [noRest] using goesOn
termination_by links

namespace Finds

variable {tree part : FileTree} {follow : Bool} {links : Nat} {here place : Location}
  {names : List Text} {entry : Entry}

theorem walk_eq (finds : Finds tree follow links here names place entry) :
    tree.walk follow links here names = .ok (.present place entry) := by
  induction finds with
  | done => exact walk_nil tree follow _ _
  | stay _ inductionHypothesis => rw [walk_stay, inductionHypothesis]
  | parent _ inductionHypothesis => rw [walk_parent, inductionHypothesis]
  | directory short noStay noParent present _ inductionHypothesis =>
      rw [walk_of_directory short noStay noParent present, inductionHypothesis]
  | @last links here name entry short noStay noParent present noDirectory unfollowed =>
      rw [walk_cons short noStay noParent, present]
      cases entry with
      | directory => exact absurd rfl noDirectory
      | file content executable => rfl
      | link target =>
          rw [unfollowed target rfl]
          rfl
  | @link links here place name target rest entry short noStay noParent present filled followed _
      inductionHypothesis =>
      rw [walk_of_link short noStay noParent present filled followed, inductionHypothesis]

/-- What is found in a part of a tree is found in the tree. -/
theorem of_kept (finds : Finds part follow links here names place entry)
    (kept : ∀ place entry, part.find? place = some entry → tree.find? place = some entry) :
    Finds tree follow links here names place entry := by
  induction finds with
  | done => exact .done
  | stay _ inductionHypothesis => exact .stay inductionHypothesis
  | parent _ inductionHypothesis => exact .parent inductionHypothesis
  | directory short noStay noParent present _ inductionHypothesis =>
      exact .directory short noStay noParent (kept _ _ present) inductionHypothesis
  | last short noStay noParent present noDirectory unfollowed =>
      exact .last short noStay noParent (kept _ _ present) noDirectory unfollowed
  | link short noStay noParent present filled followed _ inductionHypothesis =>
      exact .link short noStay noParent (kept _ _ present) filled followed inductionHypothesis

/-- Who walks on has come as far as this, where a link as the last name is not followed. -/
private theorem exists_of_append {tail : List Text}
    (finds : Finds tree follow links here (names ++ tail) place entry) :
    ∃ place entry, Finds tree false links here names place entry := by
  generalize whole : names ++ tail = all at finds
  induction finds generalizing names with
  | done =>
      obtain ⟨rfl, rfl⟩ := List.append_eq_nil_iff.mp whole
      exact ⟨_, _, .done⟩
  | stay _ inductionHypothesis =>
      cases names with
      | nil => exact ⟨_, _, .done⟩
      | cons first names =>
          obtain ⟨rfl, rest⟩ := List.cons.inj whole
          obtain ⟨place, entry, found⟩ := inductionHypothesis rest
          exact ⟨place, entry, .stay found⟩
  | parent _ inductionHypothesis =>
      cases names with
      | nil => exact ⟨_, _, .done⟩
      | cons first names =>
          obtain ⟨rfl, rest⟩ := List.cons.inj whole
          obtain ⟨place, entry, found⟩ := inductionHypothesis rest
          exact ⟨place, entry, .parent found⟩
  | directory short noStay noParent present _ inductionHypothesis =>
      cases names with
      | nil => exact ⟨_, _, .done⟩
      | cons first names =>
          obtain ⟨rfl, rest⟩ := List.cons.inj whole
          obtain ⟨place, entry, found⟩ := inductionHypothesis rest
          exact ⟨place, entry, .directory short noStay noParent present found⟩
  | last short noStay noParent present noDirectory _ =>
      cases names with
      | nil => exact ⟨_, _, .done⟩
      | cons first names =>
          obtain ⟨rfl, rest⟩ := List.cons.inj whole
          obtain ⟨rfl, rfl⟩ := List.append_eq_nil_iff.mp rest
          exact ⟨_, _, .last short noStay noParent present noDirectory fun _ _ => rfl⟩
  | @link links here place name target all entry short noStay noParent present filled _ _
      inductionHypothesis =>
      cases names with
      | nil => exact ⟨_, _, .done⟩
      | cons first names =>
          obtain ⟨rfl, rfl⟩ := List.cons.inj whole
          cases names with
          | nil => exact ⟨_, _, .last short noStay noParent present nofun fun _ _ => rfl⟩
          | cons second names =>
              obtain ⟨place, entry, found⟩ :=
                @inductionHypothesis (steps target ++ second :: names) (List.append_assoc _ _ _)
              exact ⟨place, entry, .link short noStay noParent present filled nofun found⟩

/-- What is found by a last name, and not by following a link, has been looked up there. -/
private theorem find?_eq {init : List Text} {last : Text} (noStay : last ≠ ['.'])
    (noParent : last ≠ ['.', '.'])
    (finds : Finds tree false links here (init ++ [last]) place entry) :
    tree.find? place = some entry := by
  generalize whole : init ++ [last] = names at finds
  induction finds generalizing init with
  | done => exact absurd whole (by simp)
  | stay _ inductionHypothesis =>
      cases init with
      | nil => exact absurd (List.cons.inj whole).1 noStay
      | cons first init => exact inductionHypothesis (List.cons.inj whole).2
  | parent _ inductionHypothesis =>
      cases init with
      | nil => exact absurd (List.cons.inj whole).1 noParent
      | cons first init => exact inductionHypothesis (List.cons.inj whole).2
  | directory _ _ _ present found inductionHypothesis =>
      cases init with
      | nil =>
          obtain ⟨rfl, rfl⟩ := List.cons.inj whole
          cases found
          exact present
      | cons first init => exact inductionHypothesis (List.cons.inj whole).2
  | last _ _ _ present _ _ => exact present
  | @link links here place name target rest entry _ _ _ _ _ followed _ inductionHypothesis =>
      cases init with
      | nil => cases followed (List.cons.inj whole).2.symm
      | cons first init =>
          obtain ⟨rfl, rfl⟩ := List.cons.inj whole
          exact @inductionHypothesis (steps target ++ init) (List.append_assoc _ _ _)

/-- Where a directory is found, a dot may stand behind its names: it is reached, whatever link may be
the last name before. -/
theorem exists_reaches (finds : Finds tree follow links here names place entry)
    (isDirectory : entry = .directory) :
    ∃ left, Reaches tree links here (names ++ [['.']]) place left := by
  induction finds with
  | @done links here => exact ⟨links, .stay .done⟩
  | stay _ inductionHypothesis =>
      obtain ⟨left, reached⟩ := inductionHypothesis isDirectory
      exact ⟨left, .stay reached⟩
  | parent _ inductionHypothesis =>
      obtain ⟨left, reached⟩ := inductionHypothesis isDirectory
      exact ⟨left, .parent reached⟩
  | directory short noStay noParent present _ inductionHypothesis =>
      obtain ⟨left, reached⟩ := inductionHypothesis isDirectory
      exact ⟨left, .directory short noStay noParent present reached⟩
  | last _ _ _ _ noDirectory _ => exact absurd isDirectory noDirectory
  | link short noStay noParent present filled _ _ inductionHypothesis =>
      obtain ⟨left, reached⟩ := inductionHypothesis isDirectory
      rw [List.append_assoc] at reached
      exact ⟨left, .link short noStay noParent present filled (by simp) reached⟩

private theorem exists_last (finds : Finds tree false links here names place entry)
    (noDirectory : entry ≠ .directory) :
    ∃ init last, names = init ++ [last] ∧ last ≠ ['.'] ∧ last ≠ ['.', '.'] := by
  induction finds with
  | done => exact absurd rfl noDirectory
  | stay _ inductionHypothesis =>
      obtain ⟨init, last, rfl, ordinary⟩ := inductionHypothesis noDirectory
      exact ⟨_ :: init, last, rfl, ordinary⟩
  | parent _ inductionHypothesis =>
      obtain ⟨init, last, rfl, ordinary⟩ := inductionHypothesis noDirectory
      exact ⟨_ :: init, last, rfl, ordinary⟩
  | directory _ _ _ _ _ inductionHypothesis =>
      obtain ⟨init, last, rfl, ordinary⟩ := inductionHypothesis noDirectory
      exact ⟨_ :: init, last, rfl, ordinary⟩
  | @last links here name _ _ noStay noParent _ _ _ => exact ⟨[], name, rfl, noStay, noParent⟩
  | @link links here place name target rest entry _ _ _ _ _ followed _ inductionHypothesis =>
      obtain ⟨init, last, whole, ordinary⟩ := inductionHypothesis noDirectory
      rcases List.eq_nil_or_concat rest with rfl | ⟨lead, final, rfl⟩
      · cases followed rfl
      · rw [List.concat_eq_append, ← List.append_assoc] at whole
        obtain ⟨_, same⟩ := List.append_inj' whole rfl
        cases same
        exact ⟨name :: lead, last, by simp, ordinary⟩

end Finds

/-! ## Slashes at the end of a path -/

private theorem eq_slash_of_filter_splitAt {path : Text}
    (none : (Text.splitAt '/' path).filter (fun part => !part.isEmpty) = []) :
    ∀ c ∈ path, c = '/' := by
  induction path with
  | nil => exact nofun
  | cons c path inductionHypothesis =>
      rw [Text.splitAt] at none
      by_cases isSlash : c = '/'
      · rw [if_pos isSlash] at none
        have later := inductionHypothesis none
        simpa [isSlash] using later
      · rw [if_neg isSlash] at none
        split at none <;> simp at none

private theorem steps_ne_nil {path : Text} (filled : path ≠ []) : steps path ≠ [] := by
  intro none
  rw [steps] at none
  split at none
  · simp at none
  next goesOn =>
    have slashes := eq_slash_of_filter_splitAt none
    obtain ⟨init, last, rfl⟩ := (List.eq_nil_or_concat path).resolve_left filled
    have isSlash : last = '/' := slashes last (by simp)
    simp [Path.endsInSlash, isSlash] at goesOn

theorem filter_splitAt_append_slashes (lead : Text) (count : Nat) :
    (Text.splitAt '/' (lead ++ List.replicate count '/')).filter (fun part => !part.isEmpty) =
      (Text.splitAt '/' lead).filter fun part => !part.isEmpty := by
  induction count with
  | zero => rw [List.replicate_zero, List.append_nil]
  | succ count inductionHypothesis =>
      have empty : ([[]] : List Text).filter (fun part => !part.isEmpty) = [] := rfl
      rw [List.replicate_succ', ← List.append_assoc, Text.splitAt_append, List.filter_append,
        inductionHypothesis, Text.splitAt, empty, List.append_nil]

/-- The slashes at its end make a path ask for a directory and do nothing else. -/
theorem steps_eq_append (path : Text) :
    ∃ tail, (tail = [] ∨ tail = [['.']]) ∧
      steps path = steps (Machine.withoutEndSlashes path) ++ tail := by
  rw [Machine.withoutEndSlashes]
  split
  · exact ⟨[], Or.inl rfl, (List.append_nil _).symm⟩
  next kept filled =>
    obtain ⟨slashes, whole, dropped⟩ := Text.exists_eq_dropEndWhile_append (· == '/') path
    have areSlashes : slashes = List.replicate slashes.length '/' :=
      List.eq_replicate_iff.mpr ⟨rfl, fun c member => by simpa using dropped c member⟩
    have goesOn : Path.endsInSlash (Text.dropEndWhile (· == '/') path) = false := by
      rw [Path.endsInSlash]
      cases last : (Text.dropEndWhile (· == '/') path).getLast? with
      | none => rfl
      | some c => simpa using Text.getLast?_dropEndWhile (· == '/') path c last
    generalize Text.dropEndWhile (· == '/') path = plain at *
    generalize slashes.length = count at *
    subst areSlashes whole
    have names := filter_splitAt_append_slashes plain count
    cases count with
    | zero => exact ⟨[], Or.inl rfl, by simp⟩
    | succ count =>
        have ends : Path.endsInSlash (plain ++ List.replicate (count + 1) '/') = true := by
          rw [Path.endsInSlash, List.replicate_succ', ← List.append_assoc, List.getLast?_concat]
          rfl
        refine ⟨[['.']], Or.inr rfl, ?_⟩
        rw [steps, steps, ends, goesOn, names]
        rfl

end FileTree

namespace Machine

open FileTree

theorem isAbsolute_withoutEndSlashes (path : Text) :
    Path.isAbsolute (withoutEndSlashes path) = Path.isAbsolute path := by
  rw [withoutEndSlashes]
  split
  · rfl
  next filled =>
    obtain ⟨rest, whole⟩ := List.rdropWhile_prefix (· == '/') path
    rw [← Text.dropEndWhile_eq_rdropWhile] at whole
    obtain ⟨first, more, isPlain⟩ := List.exists_cons_of_ne_nil filled
    rw [isPlain] at whole ⊢
    rw [← whole]
    rfl

private theorem withoutEndSlashes_prefix (path : Text) : withoutEndSlashes path <+: path := by
  rw [withoutEndSlashes]
  split
  · exact List.prefix_refl path
  · exact List.rdropWhile_prefix (· == '/') path

private theorem withoutEndSlashes_ne_nil {path : Text} (filled : path ≠ []) :
    withoutEndSlashes path ≠ [] := by
  rw [withoutEndSlashes]
  split
  · exact filled
  next kept => exact kept

theorem finds_of_resolve {tree : FileTree} {follow : Bool} {here place : Location} {path : Text}
    {entry : Entry} (found : tree.resolve follow here path = .ok (.present place entry)) :
    Finds tree follow linkLimit (if Path.isAbsolute path then [] else here) (steps path) place
      entry :=
  finds_of_walk linkLimit (walk_of_resolve found).2.2

theorem ne_nil_of_resolve {tree : FileTree} {follow : Bool} {here : Location} {path : Text}
    {found : Found} (resolved : tree.resolve follow here path = .ok found) : path ≠ [] := by
  rintro rfl
  cases resolved

/-- What a path with slashes at its end names is there without them, too. -/
theorem exists_findSelf_withoutEndSlashes {machine : Machine} {follow : Bool} {path : Text}
    {place : Location} {entry : Entry}
    (found : machine.files.resolve follow machine.here path = .ok (.present place entry)) :
    ∃ place entry, machine.findSelf (withoutEndSlashes path) = .ok (.present place entry) := by
  obtain ⟨tail, _, names⟩ := steps_eq_append path
  obtain ⟨clean, short, _⟩ := walk_of_resolve found
  have finds := finds_of_resolve found
  rw [names, ← isAbsolute_withoutEndSlashes] at finds
  obtain ⟨place, entry, plain⟩ := finds.exists_of_append
  have lead := withoutEndSlashes_prefix path
  have cleanLead : '\x00' ∉ withoutEndSlashes path := fun member => clean (lead.subset member)
  have shortLead : Text.byteLength (withoutEndSlashes path) < pathLimit := by
    obtain ⟨rest, whole⟩ := lead
    have sum := Text.byteLength_append (withoutEndSlashes path) rest
    rw [whole] at sum
    omega
  refine ⟨place, entry, ?_⟩
  rw [findSelf, resolve_eq_walk cleanLead (withoutEndSlashes_ne_nil (ne_nil_of_resolve found))
    shortLead]
  exact plain.walk_eq

/-! ## Removals -/

/-- A path names nothing, not even a link that leads nowhere. -/
def HasNothingAt (machine : Machine) (path : Text) : Prop :=
  ∀ follow place entry,
    machine.files.resolve follow machine.here path ≠ .ok (.present place entry)

private theorem hasNothingAt_of_findSelf {machine : Machine} {path : Text}
    (nothing : ∀ place entry, machine.findSelf path ≠ .ok (.present place entry)) :
    machine.HasNothingAt path := by
  intro follow place entry found
  have finds := finds_of_resolve found
  rw [← List.append_nil (steps path)] at finds
  obtain ⟨place, entry, itself⟩ := finds.exists_of_append
  obtain ⟨clean, short, _⟩ := walk_of_resolve found
  apply nothing place entry
  rw [findSelf, resolve_eq_walk clean (ne_nil_of_resolve found) short]
  exact itself.walk_eq

private theorem hasNothingAt_of_withoutEndSlashes {machine : Machine} {path : Text}
    (nothing : machine.HasNothingAt (withoutEndSlashes path)) : machine.HasNothingAt path := by
  intro follow place entry found
  obtain ⟨place, entry, plain⟩ := exists_findSelf_withoutEndSlashes found
  exact nothing false place entry plain

/-- Where what a path names by its last name has gone, the path names nothing. -/
private theorem hasNothingAt_of_gone {machine : Machine} {files : FileTree} {path : Text}
    {place : Location} {entry : Entry} {init : List Text} {last : Text}
    (names : steps path = init ++ [last]) (noStay : last ≠ ['.']) (noParent : last ≠ ['.', '.'])
    (found : machine.findSelf path = .ok (.present place entry))
    (isPart : ∀ place entry, files.find? place = some entry →
      machine.files.find? place = some entry)
    (gone : files.find? place = none) : (machine.withFiles files).HasNothingAt path := by
  apply hasNothingAt_of_findSelf
  intro other otherEntry still
  have finds := finds_of_resolve found
  have stillFinds := finds_of_resolve still
  rw [names] at finds stillFinds
  -- The same would have been found before, and it would have been looked up now.
  have before := (stillFinds.of_kept isPart).walk_eq
  have same := finds.walk_eq.symm.trans before
  cases same
  have looked : files.find? place = some entry := stillFinds.find?_eq noStay noParent
  rw [gone] at looked
  cases looked

private theorem find?_remove_self (files : FileTree) {location : Location}
    (inside : location ≠ []) :
    (files.remove location).find? location = none := by
  rw [find?_remove files inside, if_pos (by simp)]

theorem find?_of_find?_remove {files : FileTree} {location place : Location} {entry : Entry}
    (present : (files.remove location).find? place = some entry) :
    files.find? place = some entry := by
  by_cases root : place = []
  · rw [root] at present ⊢
    exact present
  · rw [find?_remove files root] at present
    split at present
    · cases present
    · exact present

/-- An empty directory is removed under its own name, or nothing happens. -/
theorem removeDirectory_cases (path : Text) (machine : Machine) :
    (∃ error, removeDirectory path machine = (.error error, machine) ∧
      (error = .notFound → machine.HasNothingAt path)) ∨
    ∃ location, machine.findSelf (withoutEndSlashes path) = .ok (.present location .directory) ∧
      removeDirectory path machine =
        (.ok (), machine.withFiles (machine.files.remove location)) ∧
      (machine.withFiles (machine.files.remove location)).HasNothingAt path := by
  unfold removeDirectory
  dsimp only
  cases found : machine.findSelf (withoutEndSlashes path) with
  | error error =>
      refine Or.inl ⟨error, rfl, fun _ => ?_⟩
      apply hasNothingAt_of_withoutEndSlashes
      apply hasNothingAt_of_findSelf
      simp [found]
  | ok found' =>
      cases found' with
      | absent directory name =>
          refine Or.inl ⟨_, rfl, fun _ => ?_⟩
          apply hasNothingAt_of_withoutEndSlashes
          apply hasNothingAt_of_findSelf
          simp [found]
      | present location entry =>
          cases entry with
          | file content executable => exact Or.inl ⟨_, rfl, fun same => absurd same (by decide)⟩
          | link target => exact Or.inl ⟨_, rfl, fun same => absurd same (by decide)⟩
          | directory =>
              dsimp only
              split
              · exact Or.inl ⟨_, rfl, fun same => absurd same (by decide)⟩
              · exact Or.inl ⟨_, rfl, fun same => absurd same (by decide)⟩
              next noStay noParent =>
                split
                · exact Or.inl ⟨_, rfl, fun same => absurd same (by decide)⟩
                next inside =>
                  split
                  · exact Or.inl ⟨_, rfl, fun same => absurd same (by decide)⟩
                  · refine Or.inr ⟨location, rfl, rfl, ?_⟩
                    apply hasNothingAt_of_withoutEndSlashes
                    have some := steps_ne_nil (ne_nil_of_resolve found)
                    obtain ⟨init, last, names⟩ :=
                      (List.eq_nil_or_concat (steps (withoutEndSlashes path))).resolve_left some
                    rw [List.concat_eq_append] at names
                    rw [names, List.getLast?_concat] at noStay noParent
                    exact hasNothingAt_of_gone names (fun dot => noStay (congrArg _ dot))
                      (fun dots => noParent (congrArg _ dots)) found
                      (fun _ _ => find?_of_find?_remove) (find?_remove_self _ inside)

/-- What is not refused leaves nothing at the path. -/
theorem hasNothingAt_removeTree {path : Text} {machine : Machine}
    (done : (removeTree path machine).1 = .ok () ∨
      (removeTree path machine).1 = .error .notFound) :
    (removeTree path machine).2.HasNothingAt path := by
  unfold removeTree at done ⊢
  cases found : machine.findSelf path with
  | error error =>
      apply hasNothingAt_of_findSelf
      simp [found]
  | ok found' =>
      rw [found] at done
      cases found' with
      | absent directory name =>
          apply hasNothingAt_of_findSelf
          simp [found]
      | present location entry =>
          cases entry with
          | file content executable =>
              rcases done with done | done
              · cases done
              · cases done
          | link target =>
              have finds := finds_of_resolve found
              obtain ⟨init, last, names, noStay, noParent⟩ := finds.exists_last nofun
              rw [names] at finds
              have looked := finds.find?_eq noStay noParent
              have inside : location ≠ [] := by
                rintro rfl
                cases looked
              exact hasNothingAt_of_gone names noStay noParent found
                (fun _ _ => find?_of_find?_remove) (find?_remove_self _ inside)
          | directory =>
              dsimp only at done ⊢
              rcases removeDirectory_cases path
                  (machine.withFiles (machine.files.clear location)) with
                ⟨error, removed, nothing⟩ | ⟨location', _, removed, nothing⟩
              · rw [removed] at done ⊢
                by_cases missing : error = .notFound
                · subst missing
                  exact nothing rfl
                · exfalso
                  split at done
                  · next equality => exact missing (by cases equality; rfl)
                  · rcases done with done | done
                    · cases done
                    · exact missing (by cases done; rfl)
              · rw [removed]
                exact nothing

end Machine

end DocCheck
