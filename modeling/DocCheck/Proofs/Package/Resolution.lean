import DocCheck.Check.Config
import DocCheck.Proofs.Package.Reference
import DocCheck.Proofs.Path

/-!
Where references lead from the scratch directory. A reference is followed by its names alone, without a
look at files. Main statement: the reference to a module leads to the module as seen from the root of
the project, and the reference to the package leads to its main file without the ending.
-/

namespace DocCheck

/-! ## Following references -/

namespace Path

/-- The place, as the names that lead to it from the top, that one part of a reference leads to. There
is nothing above the top. -/
def enter (place : List Text) (part : Text) : List Text :=
  if isHere part then place
  else if part = ['.', '.'] then place.dropLast
  else place ++ [part]

/-- The place that a reference leads to. -/
def resolve (place : List Text) (reference : Text) : List Text :=
  (Text.splitAt '/' reference).foldl enter place

private theorem resolve_append (place : List Text) (lead rest : Text) :
    resolve place (lead ++ '/' :: rest) = resolve (resolve place lead) rest := by
  rw [resolve, Text.splitAt_append, List.foldl_append]
  rfl

private theorem resolve_of_notMem {part : Text} (whole : '/' ∉ part) (place : List Text) :
    resolve place part = enter place part := by
  rw [resolve, Text.splitAt_of_notMem whole]
  rfl

@[simp]
theorem resolve_nil (place : List Text) : resolve place [] = place :=
  rfl

@[simp]
theorem resolve_slash (place : List Text) (rest : Text) :
    resolve place ('/' :: rest) = resolve place rest :=
  resolve_append place [] rest

@[simp]
theorem resolve_here (place : List Text) (rest : Text) :
    resolve place ('.' :: '/' :: rest) = resolve place rest :=
  resolve_append place ['.'] rest

private theorem resolve_dropWhile_slash (place : List Text) (path : Text) :
    resolve place (path.dropWhile (· == '/')) = resolve place path := by
  induction path with
  | nil => rfl
  | cons c path inductionHypothesis =>
      by_cases slash : c = '/'
      · subst slash
        rw [List.dropWhile_cons_of_pos rfl, inductionHypothesis, resolve_slash]
      · rw [List.dropWhile_cons_of_neg (by simpa using slash)]

/-- A file that is named in a directory is one place further down. -/
theorem resolve_join (place : List Text) (base : Text) {name : Text} (named : IsFileName name) :
    resolve place (join base name) = resolve place base ++ [name] := by
  have entered (place : List Text) : resolve place name = place ++ [name] := by
    rw [resolve_of_notMem named.whole, enter, if_neg (by simp [named.isHere_eq_false]),
      if_neg named.noParent]
  rcases named.join_cases base with ⟨empty, joined⟩ | ⟨lead, isLead, joined⟩
  · rw [joined, empty, resolve_nil, entered]
  · rw [joined, resolve_append, entered]
    rcases isLead with rfl | rfl
    · rfl
    · rw [resolve_append, resolve_nil]

end Path

namespace Package

/-! ## Endings -/

/-- The endings of the files that a main file can be. -/
def endings : List Text :=
  compiledEndings ++ sourceEndings

/-- `IsStem path stem` means that the path is the stem with an ending, the longest one that the path
has, or that it has none and is the stem itself. -/
inductive IsStem : Text → Text → Prop
  | ended {stem ending : Text} :
      ending ∈ endings →
      (∀ other ∈ endings, other <:+ stem ++ ending → other.length ≤ ending.length) →
      IsStem (stem ++ ending) stem
  | bare {path : Text} : (∀ ending ∈ endings, ¬ ending <:+ path) → IsStem path path

namespace IsStem

variable {path stem : Text}

theorem unique {other : Text} (isStem : IsStem path stem) (isOther : IsStem path other) :
    stem = other := by
  generalize same : path = path' at isOther
  cases isStem with
  | @ended stem ending known longest =>
      cases isOther with
      | @ended other ending' known' longest' =>
          have shorter := longest ending' known' (same ▸ List.suffix_append other ending')
          have longer := longest' ending known (same ▸ List.suffix_append stem ending)
          exact List.append_inj_left' same (Nat.le_antisymm longer shorter)
      | bare unended => exact absurd (same ▸ List.suffix_append stem ending) (unended ending known)
  | bare unended =>
      cases isOther with
      | @ended other ending' known' longest' =>
          exact absurd (same ▸ List.suffix_append other ending') (unended ending' known')
      | bare _ => exact same

private theorem isPrefix (isStem : IsStem path stem) : stem <+: path := by
  cases isStem with
  | ended known longest => exact List.prefix_append _ _
  | bare unended => exact List.prefix_rfl

/-- No ending reaches into the directories before a file. -/
private theorem isSuffix_of_isSuffix_here {ending rest : Text} (known : ending ∈ endings)
    (ends : ending <:+ '.' :: '/' :: rest) : ending <:+ rest := by
  have whole : ∀ ending ∈ endings, '/' ∉ ending := by decide
  rcases List.suffix_cons_iff.mp ends with rfl | ends
  · exact absurd (by simp) (whole _ known)
  · rcases List.suffix_cons_iff.mp ends with rfl | ends
    · exact absurd (by simp) (whole _ known)
    · exact ends

private theorem here (isStem : IsStem path stem) :
    IsStem ('.' :: '/' :: path) ('.' :: '/' :: stem) := by
  cases isStem with
  | @ended stem ending known longest =>
      have goesOn : IsStem ('.' :: '/' :: stem ++ ending) ('.' :: '/' :: stem) :=
        .ended known fun other isEnding ends =>
          longest other isEnding (isSuffix_of_isSuffix_here isEnding ends)
      exact goesOn
  | bare unended =>
      exact .bare fun ending known ends =>
        unended ending known (isSuffix_of_isSuffix_here known ends)

end IsStem

theorem withoutEnding?_eq_none_iff {endings : List Text} {path : Text} :
    withoutEnding? endings path = none ↔ ∀ ending ∈ endings, ¬ ending <:+ path := by
  rw [withoutEnding?, List.findSome?_eq_none_iff]
  refine forall₂_congr fun ending _ => ?_
  rw [← Option.not_isSome_iff_eq_none, List.isSome_isSuffixOf?_eq_isSuffixOf,
    List.isSuffixOf_iff_suffix]

/-- An ending that no longer one goes on with is the longest one of the paths that have it. -/
theorem isStem_of_forall {stem ending : Text} (known : ending ∈ endings)
    (apart : ∀ other ∈ endings, other <:+ stem ++ ending → ending <:+ other →
      other.length ≤ ending.length) : IsStem (stem ++ ending) stem := by
  apply IsStem.ended known
  intro other isEnding ends
  rcases List.suffix_or_suffix_of_suffix ends (List.suffix_append stem ending) with
    shorter | longer
  · exact shorter.length_le
  · exact apart other isEnding ends longer

/-- The entry module is the main file without its ending. -/
theorem isStem_entryModule (package : Package) :
    IsStem (normalise package.main) package.entryModule := by
  have compiledApart : ∀ ending ∈ compiledEndings, ∀ other ∈ endings, ending <:+ other →
      other.length ≤ ending.length := by
    decide
  have sourceApart : ∀ ending ∈ sourceEndings, ∀ other ∈ sourceEndings, ending <:+ other →
      other.length ≤ ending.length := by
    decide
  rw [entryModule]
  split
  · next stem found =>
      obtain ⟨ending, known, whole⟩ := exists_of_withoutEnding? found
      rw [whole]
      apply isStem_of_forall (List.mem_append_left _ known)
      exact fun other isEnding _ => compiledApart ending known other isEnding
  · next missing =>
      have notCompiled := withoutEnding?_eq_none_iff.mp missing
      cases found : withoutEnding? sourceEndings (normalise package.main) with
      | some stem =>
          obtain ⟨ending, known, whole⟩ := exists_of_withoutEnding? found
          rw [whole] at notCompiled ⊢
          apply isStem_of_forall (List.mem_append_right _ known)
          intro other isEnding ends
          rcases List.mem_append.mp isEnding with compiled | source
          · exact absurd ends (notCompiled other compiled)
          · exact sourceApart ending known other source
      | none =>
          apply IsStem.bare
          intro ending known
          rcases List.mem_append.mp known with compiled | source
          · exact notCompiled ending compiled
          · exact withoutEnding?_eq_none_iff.mp found ending source

/-! ## Where references lead -/

private theorem resolve_dropHere (place : List Text) (path : Text) :
    Path.resolve place (dropHere path) = Path.resolve place path := by
  fun_induction dropHere path with
  | case1 rest inductionHypothesis => rw [inductionHypothesis, Path.resolve_here]
  | case2 path => rfl

/-- A reference from a directory leads to where its path leads from the directory above. -/
theorem resolve_refer_parent (place : List Text) (path : Text) :
    Path.resolve place (refer ScratchDir.rootReference path) =
      Path.resolve place.dropLast (Text.replaceChar '\\' '/' path) := by
  have parent : Path.resolve place ScratchDir.rootReference = place.dropLast :=
    Path.resolve_of_notMem (by decide) place
  have inner : Path.resolve place.dropLast ((normalise path).dropWhile (· == '/')) =
      Path.resolve place.dropLast (Text.replaceChar '\\' '/' path) := by
    rw [Path.resolve_dropWhile_slash, normalise, resolve_dropHere]
  rw [refer, if_neg (by decide), ← inner]
  split
  · next empty => rw [List.isEmpty_iff.mp empty, Path.resolve_nil, parent]
  · rw [Path.resolve_append, parent]

/-- What a path loses at its beginning makes no difference to its stem. -/
private theorem exists_isStem_of_dropHere {path stem : Text}
    (isStem : IsStem (dropHere path) stem) :
    ∃ whole, IsStem path whole ∧ ∀ place, Path.resolve place whole = Path.resolve place stem := by
  fun_induction dropHere path with
  | case1 rest inductionHypothesis =>
      obtain ⟨whole, isWhole, same⟩ := inductionHypothesis isStem
      refine ⟨'.' :: '/' :: whole, isWhole.here, ?_⟩
      intro place
      rw [Path.resolve_here, same]
  | case2 path => exact ⟨stem, isStem, fun _ => rfl⟩

private theorem replaceChar_entryModule (package : Package) :
    Text.replaceChar '\\' '/' package.entryModule = package.entryModule := by
  have forward : ∀ c ∈ package.entryModule, (if c = '\\' then '/' else c) = c := by
    intro c member
    have inMain := (isStem_entryModule package).isPrefix.subset member
    obtain ⟨d, _, rfl⟩ := List.mem_map.mp (mem_dropHere inMain)
    by_cases backward : d = '\\'
    · rw [if_pos backward]
      rfl
    · rw [if_neg backward, if_neg backward]
  rw [Text.replaceChar, List.map_congr_left forward, List.map_id']

end Package

namespace Localiser

/-- From a scratch directory in a project, the reference to a module in the package leads to where the
path of the module leads from the root of the project, and the reference to the package to where its
main file without the ending does. Backslashes are read as slashes. -/
theorem references_reach_files (package : Package) (projectRoot scratchName : Text)
    (named : Path.IsFileName scratchName) :
    let localiser := ofPackage package ScratchDir.rootReference
    let root := Path.resolve [] projectRoot
    let scratch := Path.resolve [] (ScratchDir.inProject projectRoot scratchName).path
    (∀ path ≠ [], ∃ reference,
        localiser.reference? (package.name ++ '/' :: path) = some reference ∧
          Path.resolve scratch reference = Path.resolve root (Text.replaceChar '\\' '/' path)) ∧
      localiser.reference? package.name = some localiser.entry ∧
      localiser.reference? (package.name ++ ['/']) = some localiser.entry ∧
      ∃ stem, (∀ other, Package.IsStem (Text.replaceChar '\\' '/' package.main) other ↔
          other = stem) ∧
        Path.resolve scratch localiser.entry = Path.resolve root stem := by
  intro localiser root scratch
  have above : scratch.dropLast = root := by
    change (Path.resolve [] (Path.join projectRoot scratchName)).dropLast = root
    rw [Path.resolve_join [] projectRoot named, List.dropLast_concat]
  have leads (path : Text) : Path.resolve scratch (Package.refer ScratchDir.rootReference path) =
      Path.resolve root (Text.replaceChar '\\' '/' path) := by
    rw [Package.resolve_refer_parent, above]
  refine ⟨?_, reference?_eq_some_iff.mpr .name, reference?_eq_some_iff.mpr .directory, ?_⟩
  · intro path filled
    exact ⟨_, reference?_eq_some_iff.mpr (.inside filled), leads path⟩
  · obtain ⟨stem, isStem, same⟩ :=
      Package.exists_isStem_of_dropHere (Package.isStem_entryModule package)
    refine ⟨stem, fun other => ⟨fun isOther => isOther.unique isStem, ?_⟩, ?_⟩
    · rintro rfl
      exact isStem
    · change Path.resolve scratch (Package.refer ScratchDir.rootReference package.entryModule) = _
      rw [leads, Package.replaceChar_entryModule, same]

/-- A path with backslashes that climbs above the root, and a main file with two endings. -/
theorem references_reach_files_above_root :
    let package : Package := ⟨"pkg".toList, ".\\lib//index.js.d.ts".toList⟩
    let localiser := ofPackage package ScratchDir.rootReference
    let root := Path.resolve [] "/work/a".toList
    let scratch := Path.resolve [] (ScratchDir.inProject "/work/a".toList "tmp".toList).path
    let path := ".\\x/../..\\b".toList
    Path.IsFileName "tmp".toList ∧ path ≠ [] ∧
      (∃ reference, localiser.reference? (package.name ++ '/' :: path) = some reference ∧
        Path.resolve scratch reference = Path.resolve root (Text.replaceChar '\\' '/' path)) ∧
      Path.resolve root (Text.replaceChar '\\' '/' path) = ["work".toList, "b".toList] ∧
      Path.resolve scratch localiser.entry =
        ["work".toList, "a".toList, "lib".toList, "index.js".toList] := by
  intro package localiser root scratch path
  have named : Path.IsFileName "tmp".toList := ⟨by decide, by decide, by decide, by decide⟩
  have filled : path ≠ [] := by decide
  obtain ⟨inside, _⟩ :=
    references_reach_files package "/work/a".toList "tmp".toList named
  exact ⟨named, filled, inside path filled, by decide, by decide⟩

/-- Where nothing follows the slash behind the name, the reference does not lead to the root of the
project but to the main file. -/
theorem root_not_reached_by_empty_path :
    let package : Package := ⟨"pkg".toList, "src/index.ts".toList⟩
    let localiser := ofPackage package ScratchDir.rootReference
    let root := Path.resolve [] "/work".toList
    let scratch := Path.resolve [] (ScratchDir.inProject "/work".toList "compiled-docs".toList).path
    ¬ ∀ path, ∃ reference,
      localiser.reference? (package.name ++ '/' :: path) = some reference ∧
        Path.resolve scratch reference = Path.resolve root (Text.replaceChar '\\' '/' path) := by
  intro package localiser root scratch all
  have toMain : localiser.reference? (package.name ++ '/' :: []) =
      some "../src/index".toList := by
    decide
  have elsewhere : Path.resolve scratch "../src/index".toList ≠
      Path.resolve root (Text.replaceChar '\\' '/' []) := by
    decide
  obtain ⟨reference, led, same⟩ := all []
  rw [toMain] at led
  cases led
  exact elsewhere same

end Localiser

end DocCheck
