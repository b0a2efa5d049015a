import DocCheck.Package.Import
import DocCheck.Proofs.Text.Basic

/-!
References to the files of a package. A reference is made of the path to the root and the path inside,
with slashes and dots besides. Main statement: which targets of specifiers lead to which references.
-/

namespace DocCheck

namespace Package

/-! ## Their characters -/

/-- The characters that a reference can hold besides those of the path that it is made from. -/
def isReferenceMark (c : Char) : Bool :=
  c = '.' || c = '/'

theorem mem_dropHere {path : Text} {c : Char} (member : c ∈ dropHere path) : c ∈ path := by
  fun_induction dropHere path with
  | case1 rest inductionHypothesis =>
      exact List.mem_cons_of_mem _ (List.mem_cons_of_mem _ (inductionHypothesis member))
  | case2 path => exact member

private theorem mem_normalise {path : Text} {c : Char} (member : c ∈ normalise path) :
    c ∈ path ∨ c = '/' := by
  obtain ⟨d, known, rfl⟩ := List.mem_map.mp (mem_dropHere member)
  split
  · exact Or.inr rfl
  · exact Or.inl known

theorem mem_refer {root path : Text} {c : Char} (member : c ∈ refer root path) :
    c ∈ root ∨ c ∈ path ∨ isReferenceMark c = true := by
  have inner : c ∈ (normalise path).dropWhile (· == '/') → c ∈ path ∨ isReferenceMark c = true := by
    intro inside
    rcases mem_normalise ((List.dropWhile_sublist _).subset inside) with known | rfl
    · exact Or.inl known
    · exact Or.inr rfl
  rw [refer] at member
  split at member
  · rcases List.mem_cons.mp member with rfl | member
    · exact Or.inr (Or.inr rfl)
    · rcases List.mem_cons.mp member with rfl | member
      · exact Or.inr (Or.inr rfl)
      · exact Or.inr (inner member)
  · split at member
    · exact Or.inl member
    · rcases List.mem_append.mp member with known | member
      · exact Or.inl known
      · rcases List.mem_cons.mp member with rfl | member
        · exact Or.inr (Or.inr rfl)
        · exact Or.inr (inner member)

/-- A reference begins with the path to the root, unless that is the directory itself. -/
theorem mem_refer_of_mem_root {root : Text} {c : Char} (member : c ∈ root)
    (unmarked : isReferenceMark c = false) (path : Text) : c ∈ refer root path := by
  have elsewhere : ¬ (decide (root = []) || decide (root = ['.'])) = true := by
    intro here
    rcases Bool.or_eq_true_iff.mp here with empty | dot
    · rw [of_decide_eq_true empty] at member
      cases member
    · rw [of_decide_eq_true dot, List.mem_singleton] at member
      rw [member] at unmarked
      cases unmarked
  rw [refer, if_neg elsewhere]
  split
  · exact member
  · exact List.mem_append_left _ member

theorem exists_of_withoutEnding? {endings : List Text} {path stem : Text}
    (found : withoutEnding? endings path = some stem) :
    ∃ ending ∈ endings, path = stem ++ ending := by
  obtain ⟨ending, known, stripped⟩ := List.exists_of_findSome?_eq_some found
  exact ⟨ending, known, (List.append_eq_of_isSuffixOf?_eq_some stripped).symm⟩

private theorem mem_of_withoutEnding? {endings : List Text} {path stem : Text}
    (found : withoutEnding? endings path = some stem) {c : Char} (member : c ∈ stem) :
    c ∈ path := by
  obtain ⟨ending, _, whole⟩ := exists_of_withoutEnding? found
  rw [whole]
  exact List.mem_append_left _ member

theorem mem_entryModule {package : Package} {c : Char} (member : c ∈ package.entryModule) :
    c ∈ package.main ∨ c = '/' := by
  apply mem_normalise
  rw [entryModule] at member
  split at member
  · next found => exact mem_of_withoutEnding? found member
  · rcases found : withoutEnding? sourceEndings (normalise package.main) with _ | stem
    · simpa [found] using member
    · rw [found] at member
      exact mem_of_withoutEnding? found member

end Package

namespace Localiser

/-! ## Where they lead -/

/-- `Leads localiser target reference` means that a target names the package or a module in it, and that
the reference leads there. -/
inductive Leads (localiser : Localiser) : Text → Text → Prop
  | name : Leads localiser localiser.name localiser.entry
  | directory : Leads localiser (localiser.name ++ ['/']) localiser.entry
  | inside {path : Text} : path ≠ [] →
      Leads localiser (localiser.name ++ '/' :: path) (Package.refer localiser.root path)

theorem reference?_eq_some_iff {localiser : Localiser} {target reference : Text} :
    localiser.reference? target = some reference ↔ localiser.Leads target reference := by
  rw [reference?]
  constructor
  · intro read
    split at read
    · cases read
    · next stripped =>
        cases read
        rw [← List.append_eq_of_isPrefixOf?_eq_some stripped, List.append_nil]
        exact .name
    · next stripped =>
        cases read
        rw [← List.append_eq_of_isPrefixOf?_eq_some stripped]
        exact .directory
    · next path filled stripped =>
        cases read
        rw [← List.append_eq_of_isPrefixOf?_eq_some stripped]
        exact .inside filled
    · cases read
  · intro leads
    cases leads with
    | name => rw [List.isPrefixOf?_eq_some_iff_append_eq.mpr (List.append_nil _)]
    | directory =>
        rw [Text.isPrefixOf?_append]
        rfl
    | @inside path filled =>
        rw [Text.isPrefixOf?_append]
        cases path with
        | nil => exact absurd rfl filled
        | cons c path => rfl

theorem reference?_eq_none_iff {localiser : Localiser} {target : Text} :
    localiser.reference? target = none ↔
      target ≠ localiser.name ∧ ¬ localiser.name ++ ['/'] <+: target := by
  rw [Option.eq_none_iff_forall_ne_some]
  constructor
  · intro missing
    constructor
    · rintro rfl
      exact missing _ (reference?_eq_some_iff.mpr .name)
    · intro isModule
      obtain ⟨path, rfl⟩ := isModule
      by_cases empty : path = []
      · rw [empty, List.append_nil] at missing
        exact missing _ (reference?_eq_some_iff.mpr .directory)
      · rw [List.append_assoc] at missing
        exact missing _ (reference?_eq_some_iff.mpr (.inside empty))
  · intro foreign reference read
    obtain ⟨noName, noModule⟩ := foreign
    cases reference?_eq_some_iff.mp read with
    | name => exact noName rfl
    | directory => exact noModule List.prefix_rfl
    | @inside path filled => exact noModule ⟨path, by rw [List.append_assoc]; rfl⟩

theorem Leads.mem_cases {localiser : Localiser} {target reference : Text}
    (leads : localiser.Leads target reference) {c : Char} (member : c ∈ reference) :
    c ∈ localiser.root ∨ c ∈ localiser.entry ∨ c ∈ target ∨ Package.isReferenceMark c = true := by
  cases leads with
  | name => exact Or.inr (Or.inl member)
  | directory => exact Or.inr (Or.inl member)
  | @inside path filled =>
      rcases Package.mem_refer member with inRoot | inPath | isMark
      · exact Or.inl inRoot
      · exact Or.inr (Or.inr (Or.inl (List.mem_append_right _ (List.mem_cons_of_mem _ inPath))))
      · exact Or.inr (Or.inr (Or.inr isMark))

end Localiser

end DocCheck
