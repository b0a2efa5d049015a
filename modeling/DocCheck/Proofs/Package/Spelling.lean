import DocCheck.Proofs.Package.Resolution

/-!
Ways to write the main file of a package and the path to its root. Main statement: imports are localised
in the same way whichever ending the main file has, however many `./` stand before it, whether its
names are parted by slashes or backslashes, and with or without slashes behind the path to the root.
-/

namespace DocCheck

namespace Package

/-! ## Spellings of a path -/

/-- `Backslashed path written` means that the second text is the first one with backslashes in place of
some of its slashes. -/
inductive Backslashed : Text → Text → Prop
  | nil : Backslashed [] []
  | same (c : Char) {path written : Text} :
      Backslashed path written → Backslashed (c :: path) (c :: written)
  | backslash {path written : Text} :
      Backslashed path written → Backslashed ('/' :: path) ('\\' :: written)

/-- `./`, so many times. -/
def heres (count : Nat) : Text :=
  (List.replicate count ['.', '/']).flatten

/-- `IsSpelling path written` means that the second text is the first one behind some `./`, perhaps with
backslashes in place of slashes. -/
def IsSpelling (path written : Text) : Prop :=
  ∃ count, Backslashed (heres count ++ path) written

private theorem heres_succ (count : Nat) : heres (count + 1) = '.' :: '/' :: heres count := by
  rw [heres, List.replicate_succ, List.flatten_cons]
  rfl

private theorem dropHere_heres_append (count : Nat) (path : Text) :
    dropHere (heres count ++ path) = dropHere path := by
  induction count with
  | zero => rfl
  | succ count inductionHypothesis =>
      rw [heres_succ, List.cons_append, List.cons_append, dropHere, inductionHypothesis]

private theorem replaceChar_heres (count : Nat) :
    Text.replaceChar '\\' '/' (heres count) = heres count := by
  induction count with
  | zero => rfl
  | succ count inductionHypothesis =>
      rw [heres_succ, Text.replaceChar, List.map_cons, List.map_cons, ← Text.replaceChar,
        inductionHypothesis]
      rfl

private theorem Backslashed.replaceChar_eq {path written : Text}
    (backslashed : Backslashed path written) :
    Text.replaceChar '\\' '/' written = Text.replaceChar '\\' '/' path := by
  induction backslashed with
  | nil => rfl
  | same c _ inductionHypothesis =>
      rw [Text.replaceChar, List.map_cons, ← Text.replaceChar, inductionHypothesis]
      rfl
  | backslash _ inductionHypothesis =>
      rw [Text.replaceChar, List.map_cons, ← Text.replaceChar, inductionHypothesis]
      rfl

theorem IsSpelling.normalise_eq {path written : Text} (spelling : IsSpelling path written) :
    normalise written = normalise path := by
  obtain ⟨count, backslashed⟩ := spelling
  have parts : Text.replaceChar '\\' '/' (heres count ++ path) =
      heres count ++ Text.replaceChar '\\' '/' path := by
    rw [Text.replaceChar, List.map_append, ← Text.replaceChar, replaceChar_heres, ← Text.replaceChar]
  rw [normalise, backslashed.replaceChar_eq, parts, dropHere_heres_append, normalise]

/-! ## What stands at the end of a path -/

private theorem dropHere_suffix (path : Text) : dropHere path <:+ path := by
  fun_induction dropHere path with
  | case1 rest inductionHypothesis =>
      exact (inductionHypothesis.trans (List.suffix_cons '/' rest)).trans (List.suffix_cons '.' _)
  | case2 path => exact List.suffix_refl path

/-- Nothing is dropped of an end without slashes. -/
private theorem dropHere_append {ending : Text} (whole : '/' ∉ ending) (path : Text) :
    dropHere (path ++ ending) = dropHere path ++ ending := by
  fun_induction dropHere path with
  | case1 rest inductionHypothesis => exact inductionHypothesis
  | case2 path other =>
      rw [dropHere.eq_2]
      intro rest begins
      match path, other, begins with
      | [], _, begins =>
          obtain rfl : ending = '.' :: '/' :: rest := begins
          exact whole (by simp)
      | [c], _, begins =>
          obtain ⟨_, rfl⟩ := List.cons.inj begins
          exact whole List.mem_cons_self
      | c :: d :: path, other, begins =>
          obtain ⟨rfl, rests⟩ := List.cons.inj begins
          obtain ⟨rfl, _⟩ := List.cons.inj rests
          exact other path rfl

private theorem normalise_append {ending : Text} (plain : ∀ c ∈ ending, c ≠ '/' ∧ c ≠ '\\')
    (path : Text) :
    normalise (path ++ ending) = normalise path ++ ending := by
  have same : Text.replaceChar '\\' '/' ending = ending := by
    have kept : ∀ c ∈ ending, (if c = '\\' then '/' else c) = c := fun c member =>
      if_neg (plain c member).2
    rw [Text.replaceChar, List.map_congr_left kept, List.map_id']
  have parts : Text.replaceChar '\\' '/' (path ++ ending) =
      Text.replaceChar '\\' '/' path ++ ending := by
    rw [Text.replaceChar, List.map_append, ← Text.replaceChar, ← Text.replaceChar, same]
  rw [normalise, parts, dropHere_append (fun member => (plain _ member).1 rfl), normalise]

/-- Where a path ends in the dot and the letter of a declaration file, it was written so. -/
private theorem isSuffix_of_isSuffix_normalise {path : Text}
    (ends : ['.', 'd'] <:+ normalise path) :
    ['.', 'd'] <:+ path := by
  obtain ⟨lead, whole⟩ := ends.trans (dropHere_suffix _)
  obtain ⟨front, back, rfl, _, isBack⟩ := List.map_eq_append_iff.mp whole.symm
  obtain ⟨dot, behind, rfl, isDot, isBehind⟩ := List.map_eq_cons_iff.mp isBack
  obtain ⟨letter, none, rfl, isLetter, isNone⟩ := List.map_eq_cons_iff.mp isBehind
  obtain rfl := List.map_eq_nil_iff.mp isNone
  have kept {c d : Char} (forward : d ≠ '/') (read : (if c = '\\' then '/' else c) = d) : c = d := by
    split at read
    · exact absurd read.symm forward
    · exact read
  rw [kept (by decide) isDot, kept (by decide) isLetter]
  exact List.suffix_append front _

/-! ## Entry modules -/

/-- A main file is loaded by its path without the ending. -/
theorem entryModule_append (name : Text) {stem ending : Text} (known : ending ∈ endings)
    (undeclared : ¬ ['.', 'd'] <:+ stem) :
    entryModule ⟨name, stem ++ ending⟩ = normalise stem := by
  have plain : ∀ ending ∈ endings, (ending.all fun c => decide (c ≠ '/' ∧ c ≠ '\\')) = true := by
    decide
  -- An ending goes on with another one only as the ending of a declaration file does.
  have longer : ∀ ending ∈ endings, ∀ other ∈ endings, ending <:+ other →
      other = ending ∨ other = ['.', 'd'] ++ ending := by
    decide
  have isStem : IsStem (normalise stem ++ ending) (normalise stem) := by
    apply isStem_of_forall known
    intro other isEnding ends goesOn
    rcases longer ending known other isEnding goesOn with rfl | rfl
    · exact Nat.le_refl _
    · obtain ⟨lead, whole⟩ := ends
      rw [← List.append_assoc] at whole
      have declared : ['.', 'd'] <:+ normalise stem := ⟨lead, List.append_cancel_right whole⟩
      exact absurd (isSuffix_of_isSuffix_normalise declared) undeclared
  have isEntry := isStem_entryModule ⟨name, stem ++ ending⟩
  rw [normalise_append (Text.forall_mem_of_all (plain ending known))] at isEntry
  exact isEntry.unique isStem

end Package

namespace Localiser

open Package

/-- Of the main file of a package no more counts than the module that it is. -/
theorem ofPackage_of_entryModule (name : Text) {main written : Text}
    (same : entryModule ⟨name, written⟩ = entryModule ⟨name, main⟩) (root : Text) :
    ofPackage ⟨name, written⟩ root = ofPackage ⟨name, main⟩ root := by
  rw [ofPackage, ofPackage, same]

/-- Slashes behind the path to the directory above are dropped. -/
private theorem withoutEndSlashes_parent {slashes : Text}
    (areSlashes : ∀ c ∈ slashes, c = '/' ∨ c = '\\') :
    Text.dropEndWhile (· == '/') (normalise (ScratchDir.rootReference ++ slashes)) =
      ScratchDir.rootReference := by
  have forward : ∀ c ∈ Text.replaceChar '\\' '/' slashes, (c == '/') = true := by
    intro c member
    obtain ⟨d, known, rfl⟩ := List.mem_map.mp member
    rcases areSlashes d known with rfl | rfl <;> rfl
  have kept : ∀ c ∈ ScratchDir.rootReference.getLast?, (c == '/') = false := by
    intro c last
    obtain rfl : '.' = c := Option.some.inj last
    rfl
  have normal : normalise (ScratchDir.rootReference ++ slashes) =
      ScratchDir.rootReference ++ Text.replaceChar '\\' '/' slashes :=
    rfl
  rw [normal, Text.dropEndWhile_append_of_all kept forward]

/-- Which of the endings of source files and compiled files the main file has makes no difference to the
localiser of a package, and so to the references that it puts in and to what it makes of any source
text; only behind a stem in `.d` another file would be meant. Neither do `./` before the main file or
backslashes in it, nor `./` before the path to the directory above, or slashes and backslashes
behind it. -/
theorem ofPackage_of_spellings (name : Text) :
    (∀ stem, ¬ ['.', 'd'] <:+ stem → ∀ ending ∈ endings, ∀ other ∈ endings, ∀ root,
        ofPackage ⟨name, stem ++ ending⟩ root = ofPackage ⟨name, stem ++ other⟩ root) ∧
      (∀ main written, IsSpelling main written → ∀ root,
        ofPackage ⟨name, written⟩ root = ofPackage ⟨name, main⟩ root) ∧
      ∀ slashes written, (∀ c ∈ slashes, c = '/' ∨ c = '\\') →
        IsSpelling (ScratchDir.rootReference ++ slashes) written → ∀ main,
          ofPackage ⟨name, main⟩ written = ofPackage ⟨name, main⟩ ScratchDir.rootReference := by
  refine ⟨?_, ?_, ?_⟩
  · intro stem undeclared ending known other known' root
    apply ofPackage_of_entryModule
    rw [entryModule_append name known undeclared, entryModule_append name known' undeclared]
  · intro main written spelling root
    apply ofPackage_of_entryModule
    rw [entryModule, entryModule, spelling.normalise_eq]
  · intro slashes written areSlashes spelling main
    have bare : Text.dropEndWhile (· == '/') (normalise ScratchDir.rootReference) =
        ScratchDir.rootReference := by
      decide
    rw [ofPackage, ofPackage, spelling.normalise_eq, withoutEndSlashes_parent areSlashes, bare]

/-- A main file behind `.\\./` with a backslash in its path, and a root written `./..\\/`: the
localiser, its entry and what it makes of a source text are those of the plain spellings. -/
theorem ofPackage_of_spellings_with_backslashes :
    let package (main : String) : Package := ⟨"pkg".toList, main.toList⟩
    let main := ['a', '/', 'b', '.', 'j', 's']
    let written := ['.', '\\', '.', '/', 'a', '\\', 'b', '.', 'j', 's']
    let root := ['.', '/', '.', '.', '\\', '/']
    let source := "import a from \"pkg\"; require('pkg/c')".toList
    ¬ ['.', 'd'] <:+ "a/b".toList ∧ IsSpelling main written ∧
      IsSpelling (ScratchDir.rootReference ++ ['\\', '/']) root ∧
      ofPackage (package "a/b.d.mts") "lib".toList = ofPackage (package "a/b.tsx") "lib".toList ∧
      ofPackage ⟨"pkg".toList, written⟩ root = ofPackage (package "a/b.js") "..".toList ∧
      (ofPackage (package "a/b.js") "..".toList).entry = "../a/b".toList ∧
      (ofPackage ⟨"pkg".toList, written⟩ root).entry = "../a/b".toList ∧
      (ofPackage (package "a/b.js") "..".toList).localise source =
        "import a from \"../a/b\"; require('../c')".toList ∧
      (ofPackage ⟨"pkg".toList, written⟩ root).localise source =
        "import a from \"../a/b\"; require('../c')".toList := by
  intro package main written root source
  have undeclared : ¬ ['.', 'd'] <:+ "a/b".toList := by decide
  have mainSpelling : IsSpelling main written :=
    ⟨2, .same _ <| .backslash <| .same _ <| .same _ <| .same _ <| .backslash <| .same _ <|
      .same _ <| .same _ <| .same _ .nil⟩
  have rootSpelling : IsSpelling (ScratchDir.rootReference ++ ['\\', '/']) root :=
    ⟨1, .same _ <| .same _ <| .same _ <| .same _ <| .same _ <| .same _ .nil⟩
  obtain ⟨ofEndings, ofMains, ofRoots⟩ := ofPackage_of_spellings "pkg".toList
  have same : ofPackage ⟨"pkg".toList, written⟩ root =
      ofPackage (package "a/b.js") "..".toList := by
    have areSlashes : ∀ c ∈ ['\\', '/'], c = '/' ∨ c = '\\' :=
      Text.forall_mem_of_all (by decide)
    rw [ofMains main written mainSpelling, ofRoots ['\\', '/'] root areSlashes rootSpelling]
    rfl
  have localised : (ofPackage (package "a/b.js") "..".toList).localise source =
      "import a from \"../a/b\"; require('../c')".toList := by
    decide
  have entry : (ofPackage (package "a/b.js") "..".toList).entry = "../a/b".toList := by decide
  refine ⟨undeclared, mainSpelling, rootSpelling, ?_, same, entry, ?_, localised, ?_⟩
  · exact ofEndings "a/b".toList undeclared ".d.mts".toList (by decide) ".tsx".toList (by decide)
      "lib".toList
  · rw [same, entry]
  · rw [same, localised]

end Localiser

end DocCheck
