import DocCheck.Proofs.Machine.Making
import DocCheck.Proofs.Path
import Mathlib.Data.List.Induction

/-!
A name in a directory. Where the path of a directory leads is settled outside of what stands under the
name. Main statement: the path that joins the two names just what the directory holds under the
name, unless the system takes no such path.
-/

namespace DocCheck

namespace FileTree

/-! ## Trees that differ at a place only -/

theorem AgreesOutside.isPart_remove {place : Location} {tree other : FileTree}
    (agrees : AgreesOutside place tree other) : (tree.remove place).IsPart (other.remove place) := by
  intro elsewhere entry present
  by_cases root : elsewhere = []
  · rw [root] at present ⊢
    exact present
  · rw [find?_remove _ root] at present ⊢
    split at present
    · cases present
    · next outside =>
        have apart : ¬ place <+: elsewhere := fun below =>
          outside (List.isPrefixOf_iff_prefix.mpr below)
        rw [if_neg outside, agrees elsewhere apart, present]

theorem agreesOutside_remove (place : Location) (tree : FileTree) :
    AgreesOutside place tree (tree.remove place) :=
  .of_isPart (.refl _) (FileTree.isPart_remove place tree)

theorem agreesOutside_clear (place : Location) (tree : FileTree) :
    AgreesOutside place tree (tree.clear place) :=
  .of_isPart (isPart_remove_clear place tree) (isPart_clear place tree)

/-! ## What stands at a place -/

/-- Only directories hold something. -/
def IsNested (tree : FileTree) : Prop :=
  ∀ place name entry, tree.find? (place ++ [name]) = some entry → tree.find? place = some .directory

/-- Nothing stands at a place or below it. -/
def IsFree (tree : FileTree) (place : Location) : Prop :=
  ∀ below, tree.find? (place ++ below) = none

/-- Nothing stands below a place. -/
def IsEmpty (tree : FileTree) (place : Location) : Prop :=
  ∀ below ≠ [], tree.find? (place ++ below) = none

theorem IsNested.isEmpty {tree : FileTree} (nested : tree.IsNested) {place : Location}
    (noDirectory : tree.find? place ≠ some .directory) : tree.IsEmpty place := by
  intro below filled
  induction below using List.reverseRecOn with
  | nil => exact absurd rfl filled
  | append_singleton init last inductionHypothesis =>
      rw [Option.eq_none_iff_forall_ne_some]
      intro entry present
      rw [← List.append_assoc] at present
      have above := nested _ _ _ present
      by_cases first : init = []
      · rw [first, List.append_nil] at above
        exact noDirectory above
      · rw [inductionHypothesis first] at above
        cases above

theorem isNested_of_all {tree : FileTree}
    (stand : tree.entries.all (fun stored => tree.find? stored.1.dropLast == some .directory) = true) :
    tree.IsNested := by
  intro place name entry present
  rw [find?, if_neg (by simp)] at present
  obtain ⟨stored, found, _⟩ := Option.map_eq_some_iff.mp present
  have member := List.mem_of_find?_eq_some found
  have same : stored.1 = place ++ [name] := by simpa using List.find?_some found
  have above := List.all_eq_true.mp stand stored member
  rwa [same, List.dropLast_concat, beq_iff_eq] at above

theorem isFree_iff {tree : FileTree} {place : Location} :
    tree.IsFree place ↔ tree.find? place = none ∧ tree.IsEmpty place := by
  constructor
  · intro free
    exact ⟨by simpa using free [], fun below _ => free below⟩
  · rintro ⟨missing, empty⟩ below
    by_cases itself : below = []
    · rw [itself, List.append_nil, missing]
    · exact empty below itself

theorem isFree_remove (tree : FileTree) {place : Location} (inside : place ≠ []) :
    (tree.remove place).IsFree place := by
  intro below
  have filled : place ++ below ≠ [] := List.append_ne_nil_of_left_ne_nil inside below
  rw [find?_remove _ filled, if_pos (List.isPrefixOf_iff_prefix.mpr (List.prefix_append _ _))]

theorem isEmpty_store {tree : FileTree} {place : Location} (empty : tree.IsEmpty place)
    (entry : Entry) : (tree.store place entry).IsEmpty place := by
  intro below filled
  have different : place ++ below ≠ place := fun same => filled (by simpa using same)
  rw [find?_store_of_ne _ _ different, empty below filled]

end FileTree

namespace Machine

open FileTree

/-! ## Paths with a last name -/

/-- The system takes a path with that last name: it holds no NUL, and neither the path nor the name is
too long. -/
structure Takes (path name : Text) : Prop where
  clean : '\x00' ∉ path
  short : Text.byteLength path < pathLimit
  shortName : Text.byteLength name ≤ nameLimit

/-- The path is walked to the directory and from there to the name. -/
private theorem exists_walk_join {machine : Machine} {root name : Text} {base : Location}
    (named : Path.IsFileName name) (found : machine.find root = .ok (.present base .directory)) :
    ∃ left, machine.files.walk false linkLimit
        (if Path.isAbsolute (Path.join root name) then [] else machine.here)
        (steps (Path.join root name)) =
      machine.files.walk false left base [name] := by
  have finds := finds_of_resolve found
  have filled := ne_nil_of_resolve found
  obtain ⟨left, reached⟩ := finds.exists_reaches rfl
  rcases named.join_cases root with ⟨empty, _⟩ | ⟨lead, isLead, joined⟩
  · exact absurd empty filled
  have names := steps_append lead named.filled named.whole
  generalize isNames : (Text.splitAt '/' lead).filter (fun part => !part.isEmpty) = front at names
  -- The root is walked by the same names, and by dots behind them.
  obtain ⟨tail, some, dots, rootNames⟩ : ∃ tail, tail ≠ [] ∧ (∀ part ∈ tail, part = ['.']) ∧
      steps root ++ [['.']] = front ++ tail := by
    rcases isLead with rfl | rfl
    · rw [steps, isNames]
      split
      · exact ⟨[['.'], ['.']], by simp, by simp, by simp⟩
      · exact ⟨[['.']], by simp, by simp, rfl⟩
    · have slash : Path.endsInSlash (lead ++ ['/']) = true := by
        rw [Path.endsInSlash, List.getLast?_concat]
        rfl
      have same := filter_splitAt_append_slashes lead 1
      rw [List.replicate_one] at same
      rw [steps, slash, same, isNames]
      exact ⟨[['.'], ['.']], by simp, by simp, by simp⟩
  have absolute : Path.isAbsolute (Path.join root name) = Path.isAbsolute root := by
    rw [joined]
    obtain ⟨first, rest, rfl⟩ := List.exists_cons_of_ne_nil filled
    rcases isLead with rfl | isLead
    · rfl
    · cases lead with
      | nil =>
          obtain ⟨rfl, _⟩ := List.cons.inj isLead
          rfl
      | cons other lead =>
          obtain ⟨rfl, _⟩ := List.cons.inj isLead
          rfl
  rw [rootNames] at reached
  refine ⟨left, ?_⟩
  rw [absolute, joined, names]
  exact reached.walk_append_of_stays some dots fun none => absurd none (List.cons_ne_nil _ _)

/-- What a directory holds under a name is what the path names that joins the two. -/
theorem findSelf_join {machine : Machine} {root name : Text} {base : Location}
    (named : Path.IsFileName name) (found : machine.find root = .ok (.present base .directory))
    (takes : Takes (Path.join root name) name) :
    machine.findSelf (Path.join root name) =
      match machine.files.find? (base ++ [name]) with
      | none => .ok (.absent base name)
      | some entry => .ok (.present (base ++ [name]) entry) := by
  obtain ⟨left, walked⟩ := exists_walk_join named found
  have filled : Path.join root name ≠ [] := by
    rcases named.join_cases root with ⟨_, joined⟩ | ⟨lead, _, joined⟩
    · rw [joined]
      exact named.filled
    · rw [joined]
      exact List.append_ne_nil_of_right_ne_nil lead (List.cons_ne_nil _ _)
  rw [findSelf, resolve_eq_walk takes.clean filled takes.short, walked,
    walk_cons takes.shortName named.noStay named.noParent]
  rcases machine.files.find? (base ++ [name]) with _ | ⟨content, executable⟩ | target | _
  · rfl
  · rfl
  · rfl
  · exact walk_nil _ _ _ _

/-- A path that the system does not take is refused, whatever it would name. -/
theorem findSelf_join_of_not_takes {machine : Machine} {root name : Text} {base : Location}
    (named : Path.IsFileName name) (found : machine.find root = .ok (.present base .directory))
    (refused : ¬ Takes (Path.join root name) name) :
    machine.findSelf (Path.join root name) = .error .nulInPath ∨
      machine.findSelf (Path.join root name) = .error .nameTooLong := by
  obtain ⟨left, walked⟩ := exists_walk_join named found
  rw [findSelf, resolve]
  split
  · exact Or.inl rfl
  next clean =>
    split
    · next empty =>
        rcases named.join_cases root with ⟨_, joined⟩ | ⟨lead, _, joined⟩
        · rw [joined] at empty
          exact absurd (List.isEmpty_iff.mp empty) named.filled
        · rw [joined] at empty
          simp at empty
    · split
      · exact Or.inr rfl
      next short =>
        have long : nameLimit < Text.byteLength name := Nat.lt_of_not_le fun fits =>
          refused ⟨by simpa using clean, Nat.lt_of_not_le short, fits⟩
        right
        rw [walked, FileTree.walk_eq, walkSteps, if_pos long]

end Machine

end DocCheck
