import DocCheck.Machine
import DocCheck.Proofs.Text.Basic

/-!
Walks that end in a directory. Such a walk passes directories and links only, so that files which
come and go do not disturb it, and walking on from its end is the same as walking the longer path.
-/

namespace DocCheck.FileTree

/-! ## Walks to a directory -/

/-- `Reaches tree links here names location left` means that walking the names from a directory ends
in the directory at a location, and that `left` of the links that were allowed are left. -/
inductive Reaches (tree : FileTree) : Nat → Location → List Text → Location → Nat → Prop
  | done {links : Nat} {here : Location} : Reaches tree links here [] here links
  | stay {links left : Nat} {here location : Location} {rest : List Text} :
      Reaches tree links here rest location left →
      Reaches tree links here (['.'] :: rest) location left
  | parent {links left : Nat} {here location : Location} {rest : List Text} :
      Reaches tree links here.dropLast rest location left →
      Reaches tree links here (['.', '.'] :: rest) location left
  | directory {links left : Nat} {here location : Location} {name : Text} {rest : List Text} :
      Text.byteLength name ≤ nameLimit → name ≠ ['.'] → name ≠ ['.', '.'] →
      tree.find? (here ++ [name]) = some .directory →
      Reaches tree links (here ++ [name]) rest location left →
      Reaches tree links here (name :: rest) location left
  | link {links left : Nat} {here location : Location} {name target : Text} {rest : List Text} :
      Text.byteLength name ≤ nameLimit → name ≠ ['.'] → name ≠ ['.', '.'] →
      tree.find? (here ++ [name]) = some (.link target) → target ≠ [] → rest ≠ [] →
      Reaches tree links (if Path.isAbsolute target then [] else here) (steps target ++ rest)
        location left →
      Reaches tree (links + 1) here (name :: rest) location left

/-- What becomes of a link on the way where so many links are allowed. -/
def expansion (tree : FileTree) (follow : Bool) (links : Nat) :
    Location → List Text → Except FileError Found :=
  match links with
  | 0 => fun _ _ => .error .tooManyLinks
  | links + 1 => tree.walk follow links

theorem walk_eq (tree : FileTree) (follow : Bool) (links : Nat) :
    tree.walk follow links = tree.walkSteps follow (tree.expansion follow links) := by
  cases links with
  | zero => rfl
  | succ links => rfl

theorem walk_nil (tree : FileTree) (follow : Bool) (links : Nat) (here : Location) :
    tree.walk follow links here [] = .ok (.present here .directory) := by
  rw [walk_eq]
  rfl

theorem walk_stay (tree : FileTree) (follow : Bool) (links : Nat) (here : Location)
    (rest : List Text) :
    tree.walk follow links here (['.'] :: rest) = tree.walk follow links here rest := by
  rw [walk_eq]
  rfl

theorem walk_parent (tree : FileTree) (follow : Bool) (links : Nat) (here : Location)
    (rest : List Text) :
    tree.walk follow links here (['.', '.'] :: rest) =
      tree.walk follow links here.dropLast rest := by
  rw [walk_eq]
  rfl

section Names

variable {tree : FileTree} {here : Location} {name : Text}
  (short : Text.byteLength name ≤ nameLimit) (noStay : name ≠ ['.']) (noParent : name ≠ ['.', '.'])

include short noStay noParent

/-- Any other name is looked up. -/
theorem walk_cons (follow : Bool) (links : Nat) (rest : List Text) :
    tree.walk follow links here (name :: rest) =
      match tree.find? (here ++ [name]) with
      | none => if rest.isEmpty then .ok (.absent here name) else .error .notFound
      | some .directory => tree.walk follow links (here ++ [name]) rest
      | some (.file content executable) =>
          if rest.isEmpty then .ok (.present (here ++ [name]) (.file content executable))
          else .error .notDirectory
      | some (.link target) =>
          if rest.isEmpty && !follow then .ok (.present (here ++ [name]) (.link target))
          else if target.isEmpty then .error .notFound
          else
            tree.expansion follow links (if Path.isAbsolute target then [] else here)
              (steps target ++ rest) := by
  have long : ¬ nameLimit < Text.byteLength name := Nat.not_lt.mpr short
  cases found : tree.find? (here ++ [name]) with
  | none => simp only [walk_eq, walkSteps, long, noStay, noParent, if_false, found]
  | some entry =>
      cases entry <;>
        simp only [walk_eq, walkSteps, long, noStay, noParent, if_false, found]

theorem walk_of_none (missing : tree.find? (here ++ [name]) = none) (follow : Bool) (links : Nat)
    (rest : List Text) :
    tree.walk follow links here (name :: rest) =
      if rest.isEmpty then .ok (.absent here name) else .error .notFound := by
  rw [walk_cons short noStay noParent, missing]

theorem walk_of_directory (present : tree.find? (here ++ [name]) = some .directory)
    (follow : Bool) (links : Nat) (rest : List Text) :
    tree.walk follow links here (name :: rest) = tree.walk follow links (here ++ [name]) rest := by
  rw [walk_cons short noStay noParent, present]

theorem walk_of_link {target : Text} (present : tree.find? (here ++ [name]) = some (.link target))
    (filled : target ≠ []) {rest : List Text} {follow : Bool} (followed : rest = [] → follow = true)
    (links : Nat) :
    tree.walk follow (links + 1) here (name :: rest) =
      tree.walk follow links (if Path.isAbsolute target then [] else here)
        (steps target ++ rest) := by
  have goesOn : (rest.isEmpty && !follow) = false := by
    cases rest with
    | nil => simp [followed rfl]
    | cons next rest => rfl
  have known : target.isEmpty = false := by simpa using filled
  rw [walk_cons short noStay noParent, present]
  simp only [goesOn, known, Bool.false_eq_true, if_false]
  rfl

end Names

/-- A walk that ends in a directory, where a link as the last name is not followed, reaches it. -/
theorem exists_reaches_of_walk {tree : FileTree} (links : Nat) {here location : Location}
    {names : List Text}
    (walked : tree.walk false links here names = .ok (.present location .directory)) :
    ∃ left, Reaches tree links here names location left := by
  induction names generalizing here with
  | nil =>
      rw [walk_nil] at walked
      cases walked
      exact ⟨links, .done⟩
  | cons name rest inductionHypothesis =>
      by_cases noStay : name = ['.']
      · subst noStay
        rw [walk_stay] at walked
        obtain ⟨left, reached⟩ := inductionHypothesis walked
        exact ⟨left, .stay reached⟩
      by_cases noParent : name = ['.', '.']
      · subst noParent
        rw [walk_parent] at walked
        obtain ⟨left, reached⟩ := inductionHypothesis walked
        exact ⟨left, .parent reached⟩
      by_cases long : nameLimit < Text.byteLength name
      · rw [walk_eq, walkSteps, if_pos long] at walked
        cases walked
      have short : Text.byteLength name ≤ nameLimit := Nat.not_lt.mp long
      rw [walk_cons short noStay noParent] at walked
      split at walked
      · split at walked <;> cases walked
      · next present =>
          obtain ⟨left, reached⟩ := inductionHypothesis walked
          exact ⟨left, .directory short noStay noParent present reached⟩
      · split at walked <;> cases walked
      · next target present =>
          have goesOn : rest ≠ [] := by
            rintro rfl
            cases walked
          have filled : target ≠ [] := by
            rintro rfl
            split at walked <;> cases walked
          have more : rest.isEmpty = false := by simpa using goesOn
          have known : target.isEmpty = false := by simpa using filled
          rw [more, known] at walked
          cases links with
          | zero => cases walked
          | succ links =>
              -- The walk begins anew, with other names and one link fewer.
              obtain ⟨left, reached⟩ := exists_reaches_of_walk links walked
              exact ⟨left, .link short noStay noParent present filled goesOn reached⟩
termination_by links

namespace Reaches

variable {tree : FileTree} {links left : Nat} {here location : Location} {names : List Text}

/-- The names after those that lead to a directory are walked from there. -/
theorem walk_append (reached : Reaches tree links here names location left) {more : List Text}
    (goesOn : more ≠ []) (follow : Bool) :
    tree.walk follow links here (names ++ more) = tree.walk follow left location more := by
  induction reached with
  | done => rfl
  | stay _ inductionHypothesis => rw [List.cons_append, walk_stay, inductionHypothesis]
  | parent _ inductionHypothesis => rw [List.cons_append, walk_parent, inductionHypothesis]
  | directory short noStay noParent present _ inductionHypothesis =>
      rw [List.cons_append, walk_of_directory short noStay noParent present, inductionHypothesis]
  | @link links left here location name target rest short noStay noParent present filled _ _
      inductionHypothesis =>
      have remains : rest ++ more ≠ [] := List.append_ne_nil_of_right_ne_nil rest goesOn
      rw [List.cons_append,
        walk_of_link short noStay noParent present filled fun none => absurd none remains,
        ← List.append_assoc, inductionHypothesis]

private theorem of_stays (reached : Reaches tree links here names location left)
    (dots : ∀ name ∈ names, name = ['.']) : location = here ∧ left = links := by
  induction names with
  | nil =>
      cases reached
      exact ⟨rfl, rfl⟩
  | cons name names inductionHypothesis =>
      obtain ⟨rfl, others⟩ := List.forall_mem_cons.mp dots
      cases reached with
      | stay reached => exact inductionHypothesis reached others
      | directory _ noStay _ _ _ => exact absurd rfl noStay
      | link _ noStay _ _ _ _ _ => exact absurd rfl noStay

/-- The dots at the end of a walk may be left out where more names follow, or a link as the last name
is followed. -/
theorem walk_append_of_stays {tail : List Text}
    (reached : Reaches tree links here (names ++ tail) location left) (some : tail ≠ [])
    (dots : ∀ name ∈ tail, name = ['.']) {more : List Text} {follow : Bool}
    (followed : more = [] → follow = true) :
    tree.walk follow links here (names ++ more) = tree.walk follow left location more := by
  generalize whole : names ++ tail = all at reached
  induction reached generalizing names with
  | done => exact absurd (List.append_eq_nil_iff.mp whole).2 some
  | @stay links left here location rest reached inductionHypothesis =>
      cases names with
      | nil =>
          obtain rfl : tail = ['.'] :: rest := whole
          obtain ⟨rfl, rfl⟩ := reached.of_stays (List.forall_mem_cons.mp dots).2
          rfl
      | cons first names =>
          obtain ⟨rfl, others⟩ := List.cons.inj whole
          rw [List.cons_append, walk_stay, inductionHypothesis others]
  | @parent links left here location rest _ inductionHypothesis =>
      cases names with
      | nil =>
          obtain rfl : tail = ['.', '.'] :: rest := whole
          cases (List.forall_mem_cons.mp dots).1
      | cons first names =>
          obtain ⟨rfl, others⟩ := List.cons.inj whole
          rw [List.cons_append, walk_parent, inductionHypothesis others]
  | @directory links left here location name rest short noStay noParent present _
      inductionHypothesis =>
      cases names with
      | nil =>
          obtain rfl : tail = name :: rest := whole
          exact absurd (List.forall_mem_cons.mp dots).1 noStay
      | cons first names =>
          obtain ⟨rfl, others⟩ := List.cons.inj whole
          rw [List.cons_append, walk_of_directory short noStay noParent present,
            inductionHypothesis others]
  | @link links left here location name target rest short noStay noParent present filled _ _
      inductionHypothesis =>
      cases names with
      | nil =>
          obtain rfl : tail = name :: rest := whole
          exact absurd (List.forall_mem_cons.mp dots).1 noStay
      | cons first names =>
          obtain ⟨rfl, rfl⟩ := List.cons.inj whole
          have remains : names ++ more = [] → follow = true :=
            fun none => followed (List.append_eq_nil_iff.mp none).2
          rw [List.cons_append, walk_of_link short noStay noParent present filled remains,
            ← List.append_assoc,
            @inductionHypothesis (steps target ++ names) (List.append_assoc _ _ _)]

theorem walk_eq (reached : Reaches tree links here names location left) (follow : Bool) :
    tree.walk follow links here names = .ok (.present location .directory) := by
  induction reached with
  | done => exact walk_nil tree follow _ _
  | stay _ inductionHypothesis => rw [walk_stay, inductionHypothesis]
  | parent _ inductionHypothesis => rw [walk_parent, inductionHypothesis]
  | directory short noStay noParent present _ inductionHypothesis =>
      rw [walk_of_directory short noStay noParent present, inductionHypothesis]
  | link short noStay noParent present filled goesOn _ inductionHypothesis =>
      rw [walk_of_link short noStay noParent present filled fun none => absurd none goesOn,
        inductionHypothesis]

/-- Where directories and links stay what they are, a walk still reaches its directory. -/
theorem of_kept (reached : Reaches tree links here names location left) {other : FileTree}
    (kept : ∀ place entry, tree.find? place = some entry →
      (∀ content executable, entry ≠ .file content executable) →
        other.find? place = some entry) :
    Reaches other links here names location left := by
  induction reached with
  | done => exact .done
  | stay _ inductionHypothesis => exact .stay inductionHypothesis
  | parent _ inductionHypothesis => exact .parent inductionHypothesis
  | directory short noStay noParent present _ inductionHypothesis =>
      exact .directory short noStay noParent (kept _ _ present nofun) inductionHypothesis
  | link short noStay noParent present filled goesOn _ inductionHypothesis =>
      exact .link short noStay noParent (kept _ _ present nofun) filled goesOn inductionHypothesis

/-- Where things have gone, but not the directory that a walk reaches, the walk still reaches it or
finds nothing. -/
theorem walk_of_gone (reached : Reaches tree links here names location left) {other : FileTree}
    (gone : ∀ place, other.find? place = tree.find? place ∨
      (other.find? place = none ∧ place ≠ location)) :
    other.walk false links here names = .ok (.present location .directory) ∨
      other.walk false links here names = .error .notFound := by
  induction reached with
  | done => exact Or.inl (walk_nil other false _ _)
  | stay _ inductionHypothesis =>
      rw [walk_stay]
      exact inductionHypothesis gone
  | parent _ inductionHypothesis =>
      rw [walk_parent]
      exact inductionHypothesis gone
  | @directory links left here location name rest short noStay noParent present reached
      inductionHypothesis =>
      rcases gone (here ++ [name]) with same | ⟨missing, elsewhere⟩
      · rw [walk_of_directory short noStay noParent (same.trans present)]
        exact inductionHypothesis gone
      · -- The walk does not end where something has gone, so it wants more names.
        have more : rest.isEmpty = false := by
          cases rest with
          | nil =>
              cases reached
              exact absurd rfl elsewhere
          | cons next rest => rfl
        rw [walk_of_none short noStay noParent missing, more]
        exact Or.inr rfl
  | @link links left here location name target rest short noStay noParent present filled goesOn _
      inductionHypothesis =>
      rcases gone (here ++ [name]) with same | ⟨missing, _⟩
      · rw [walk_of_link short noStay noParent (same.trans present) filled fun none =>
          absurd none goesOn]
        exact inductionHypothesis gone
      · have more : rest.isEmpty = false := by simpa using goesOn
        rw [walk_of_none short noStay noParent missing, more]
        exact Or.inr rfl

/-- A directory that is reached by its name bears that name. -/
theorem exists_parent {init : List Text} {name : Text} (noStay : name ≠ ['.'])
    (noParent : name ≠ ['.', '.'])
    (reached : Reaches tree links here (init ++ [name]) location left) :
    ∃ parent, location = parent ++ [name] := by
  generalize whole : init ++ [name] = names at reached
  induction reached generalizing init with
  | done => exact absurd whole (by simp)
  | stay reached inductionHypothesis =>
      cases init with
      | nil => exact absurd (List.cons.inj whole).1 noStay
      | cons first init => exact inductionHypothesis (List.cons.inj whole).2
  | parent reached inductionHypothesis =>
      cases init with
      | nil => exact absurd (List.cons.inj whole).1 noParent
      | cons first init => exact inductionHypothesis (List.cons.inj whole).2
  | directory _ _ _ _ reached inductionHypothesis =>
      cases init with
      | nil =>
          obtain ⟨rfl, rfl⟩ := List.cons.inj whole
          cases reached
          exact ⟨_, rfl⟩
      | cons first init => exact inductionHypothesis (List.cons.inj whole).2
  | @link links left here location other target rest _ _ _ _ _ goesOn reached inductionHypothesis =>
      cases init with
      | nil => exact absurd (List.cons.inj whole).2.symm goesOn
      | cons first init =>
          obtain ⟨rfl, rfl⟩ := List.cons.inj whole
          exact @inductionHypothesis (steps target ++ init) (List.append_assoc _ _ _)

end Reaches

/-! ## Paths -/

/-- The names of a path whose last one is known. -/
theorem steps_append (lead : Text) {name : Text} (filled : name ≠ []) (whole : '/' ∉ name) :
    steps (lead ++ '/' :: name) =
      ((Text.splitAt '/' lead).filter fun part => !part.isEmpty) ++ [name] := by
  have goesOn : Path.endsInSlash (lead ++ '/' :: name) = false := by
    obtain ⟨init, last, parts⟩ := (List.eq_nil_or_concat name).resolve_left filled
    have different : last ≠ '/' := fun slash => whole (by simp [parts, slash])
    have ends : lead ++ '/' :: name = (lead ++ '/' :: init) ++ [last] := by simp [parts]
    rw [Path.endsInSlash, ends, List.getLast?_concat]
    simpa using different
  have kept : ([name].filter fun part => !part.isEmpty) = [name] := by simp [filled]
  rw [steps, goesOn, Text.splitAt_append, Text.splitAt_of_notMem whole, List.filter_append, kept]
  rfl

/-- A name is taken after those of the directory that it is looked up in. -/
theorem steps_append_of_endsInSlash {path name : Text} (goesOn : Path.endsInSlash path = false)
    (filled : name ≠ []) (whole : '/' ∉ name) :
    steps (path ++ '/' :: name) = steps path ++ [name] := by
  rw [steps_append path filled whole, steps, goesOn]
  rfl

/-- A path, seen from a directory, leads to the directory at a location, and not through a link as
its last name. -/
def Leads (tree : FileTree) (here : Location) (path : Text) (location : Location) (left : Nat) :
    Prop :=
  Reaches tree linkLimit (if Path.isAbsolute path then [] else here) (steps path) location left

theorem walk_of_resolve {tree : FileTree} {follow : Bool} {here : Location} {path : Text}
    {found : Found} (resolved : tree.resolve follow here path = .ok found) :
    '\x00' ∉ path ∧ Text.byteLength path < pathLimit ∧
      tree.walk follow linkLimit (if Path.isAbsolute path then [] else here) (steps path) =
        .ok found := by
  rw [resolve] at resolved
  split at resolved
  · cases resolved
  next clean =>
    split at resolved
    · cases resolved
    · split at resolved
      · cases resolved
      next short => exact ⟨by simpa using clean, Nat.lt_of_not_le short, resolved⟩

theorem resolve_eq_walk {path : Text} (clean : '\x00' ∉ path) (filled : path ≠ [])
    (short : Text.byteLength path < pathLimit) (tree : FileTree) (follow : Bool)
    (here : Location) :
    tree.resolve follow here path =
      tree.walk follow linkLimit (if Path.isAbsolute path then [] else here) (steps path) := by
  have noNul : path.contains '\x00' = false := by simpa using clean
  have known : path.isEmpty = false := by simpa using filled
  rw [resolve, noNul, known, if_neg Bool.false_ne_true, if_neg Bool.false_ne_true,
    if_neg (Nat.not_le.mpr short)]

end DocCheck.FileTree
