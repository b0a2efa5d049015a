import DocCheck.Proofs.Package.Localisation

/-!
What localising leaves of a source text. Between the quotes of the specifiers that name the package
stands a reference afterwards, and all else stands as it did. Main statement: the localised text is
made that way, and if the reference to the package is on one line, the lines stay lines, each with its
number.
-/

namespace DocCheck

/-! ## Lines kept -/

/-- `Text.KeepsLines line touched source after` means that two texts, which begin on the line of that
number, have as many lines, and the same ones but for those that are touched. -/
def Text.KeepsLines (line : Nat) (touched : List Nat) (source after : Text) : Prop :=
  (splitAt '\n' after).length = (splitAt '\n' source).length ∧
    ∀ i, line + i ∉ touched → (splitAt '\n' after)[i]? = (splitAt '\n' source)[i]?

namespace Text.KeepsLines

variable {line : Nat} {touched : List Nat} {source after : Text}

private theorem newline (keeps : KeepsLines (line + 1) touched source after) :
    KeepsLines line touched ('\n' :: source) ('\n' :: after) := by
  obtain ⟨sameLength, sameLines⟩ := keeps
  have first (text : Text) : splitAt '\n' ('\n' :: text) = [] :: splitAt '\n' text := by
    rw [splitAt, if_pos rfl]
  rw [KeepsLines, first, first]
  constructor
  · rw [List.length_cons, List.length_cons, sameLength]
  · intro i untouched
    cases i with
    | zero => rfl
    | succ i =>
        rw [List.getElem?_cons_succ, List.getElem?_cons_succ]
        apply sameLines
        rwa [Nat.add_assoc, Nat.add_comm 1]

/-- Parts of one line that differ touch that line only. -/
private theorem onLine (keeps : KeepsLines line touched source after) {old new : Text}
    {added : List Nat}
    (oldUnbroken : '\n' ∉ old) (newUnbroken : '\n' ∉ new) (same : line ∉ added → new = old)
    (more : touched ⊆ added) : KeepsLines line added (old ++ source) (new ++ after) := by
  obtain ⟨sameLength, sameLines⟩ := keeps
  obtain ⟨part, parts, isSplit⟩ := List.exists_cons_of_ne_nil (splitAt_ne_nil '\n' source)
  obtain ⟨part', parts', isSplit'⟩ := List.exists_cons_of_ne_nil (splitAt_ne_nil '\n' after)
  rw [KeepsLines, splitAt_append_of_notMem oldUnbroken isSplit,
    splitAt_append_of_notMem newUnbroken isSplit']
  rw [isSplit, isSplit'] at sameLength sameLines
  constructor
  · rwa [List.length_cons, List.length_cons] at sameLength ⊢
  · intro i untouched
    have known := sameLines i fun member => untouched (more member)
    cases i with
    | zero =>
        rw [List.getElem?_cons_zero, List.getElem?_cons_zero] at known ⊢
        rw [same untouched, Option.some.inj known]
    | succ i => exact known

/-- A text put in front moves the lines. -/
private theorem append (lead : Text)
    (keeps : KeepsLines (line + lead.count '\n') touched source after) :
    KeepsLines line touched (lead ++ source) (lead ++ after) := by
  induction lead generalizing line with
  | nil => exact keeps
  | cons c lead inductionHypothesis =>
      by_cases broken : c = '\n'
      · subst broken
        apply newline
        apply inductionHypothesis
        rwa [List.count_cons_self, Nat.add_comm _ 1, ← Nat.add_assoc] at keeps
      · have unbroken : '\n' ∉ [c] := by simpa using Ne.symm broken
        rw [List.count_cons_of_ne broken] at keeps
        exact (inductionHypothesis keeps).onLine unbroken unbroken (fun _ => rfl)
          (List.Subset.refl touched)

end Text.KeepsLines

namespace Localiser

open Specifier

/-! ## What is replaced -/

/-- `Localised localiser before line source after touched` means that `source`, which stands behind the
character `before` on the line of that number, is searched for specifiers from the left, and that
`after` has a reference in place of the target of each one that names the package. The touched lines
are those with such a target. -/
inductive Localised (localiser : Localiser) :
    Option Char → Nat → Text → Text → List Nat → Prop
  | nil {before : Option Char} {line : Nat} : Localised localiser before line [] [] []
  | plain {before : Option Char} {line : Nat} {c : Char} {rest after : Text} {touched : List Nat} :
      (∀ specifier behind, ¬ Begins before (c :: rest) specifier behind) →
      Localised localiser (some c) (line + [c].count '\n') rest after touched →
      Localised localiser before line (c :: rest) (c :: after) touched
  | kept {before : Option Char} {line : Nat} {specifier : Specifier} {rest after : Text}
      {touched : List Nat} :
      Begins before (specifier.text ++ rest) specifier rest →
      specifier.target ≠ localiser.name → ¬ localiser.name ++ ['/'] <+: specifier.target →
      Localised localiser (some specifier.quote) (line + specifier.lead.count '\n') rest after
        touched →
      Localised localiser before line (specifier.text ++ rest) (specifier.text ++ after) touched
  | led {before : Option Char} {line : Nat} {specifier : Specifier} {reference rest after : Text}
      {touched : List Nat} :
      Begins before (specifier.text ++ rest) specifier rest →
      localiser.Leads specifier.target reference →
      Localised localiser (some specifier.quote) (line + specifier.lead.count '\n') rest after
        touched →
      Localised localiser before line (specifier.text ++ rest)
        ({ specifier with target := reference }.text ++ after)
        ((line + specifier.lead.count '\n') :: touched)

/-- The text that a cut leads to is localised. -/
theorem exists_localised_of_cut (localiser : Localiser) {before : Option Char} {source : Text}
    {parts : List (Text.Segment Specifier)} (cut : Text.Cut Specifier.pattern before source parts)
    (line : Nat) :
    ∃ touched, Localised localiser before line source (localiser.rewritten parts) touched := by
  induction cut generalizing line with
  | done missing => exact ⟨[], .nil⟩
  | @plain before c rest parts missing tail inductionHypothesis =>
      obtain ⟨touched, localised⟩ := inductionHypothesis (line + [c].count '\n')
      exact ⟨touched, .plain (pattern_eq_none_iff.mp missing) localised⟩
  | @found before matched rest specifier parts found nonempty tail inductionHypothesis =>
      obtain rfl := eq_text_of_pattern found
      obtain ⟨touched, localised⟩ := inductionHypothesis (line + specifier.lead.count '\n')
      rw [getLast?_text] at localised
      have begins := pattern_eq_some_iff_begins.mp found
      have whole : localiser.rewritten (.found specifier.text specifier :: parts) =
          (localiser.redirect specifier).text ++ localiser.rewritten parts := by
        rw [rewritten, List.flatMap_cons, Text.Segment.replaceWith, replacement_text]
        rfl
      rw [whole, redirect]
      rcases led : localiser.reference? specifier.target with _ | reference
      · obtain ⟨noName, noModule⟩ := reference?_eq_none_iff.mp led
        exact ⟨touched, .kept begins noName noModule localised⟩
      · exact ⟨_, .led begins (reference?_eq_some_iff.mp led) localised⟩

/-! ## References on one line -/

/-- If the reference to the package is on one line, so are the references to its modules. -/
private theorem newline_notMem_of_leads {package : Package} {root target reference : Text}
    (unbroken : '\n' ∉ (ofPackage package root).entry) (sameLine : '\n' ∉ target)
    (leads : (ofPackage package root).Leads target reference) : '\n' ∉ reference := by
  have rootUnbroken : '\n' ∉ (ofPackage package root).root := fun member =>
    unbroken (Package.mem_refer_of_mem_root member (by decide) package.entryModule)
  intro member
  rcases leads.mem_cases member with inRoot | inEntry | inTarget | isMark
  · exact rootUnbroken inRoot
  · exact unbroken inEntry
  · exact sameLine inTarget
  · exact absurd isMark (by decide)

/-- Another target of one line touches no line but its own. -/
private theorem keepsLines_redirect {specifier : Specifier} (quoted : specifier.IsQuoted)
    {reference rest after : Text} (unbroken : '\n' ∉ reference) {line : Nat} {touched : List Nat}
    (keeps : Text.KeepsLines (line + specifier.lead.count '\n') touched rest after) :
    Text.KeepsLines line ((line + specifier.lead.count '\n') :: touched) (specifier.text ++ rest)
      ({ specifier with target := reference }.text ++ after) := by
  have quoteUnbroken : '\n' ∉ [specifier.quote] := by
    simpa using (quote_ne_newline quoted).symm
  rw [text_append, text_append]
  apply Text.KeepsLines.append
  have behind := keeps.onLine quoteUnbroken quoteUnbroken (fun _ => rfl) (List.Subset.refl touched)
  have atTarget := behind.onLine (newline_notMem_target quoted) unbroken
    (fun elsewhere => absurd List.mem_cons_self elsewhere) (List.subset_cons_self _ touched)
  exact atTarget.onLine quoteUnbroken quoteUnbroken (fun _ => rfl) (List.Subset.refl _)

private theorem keepsLines_of_localised {package : Package} {root : Text}
    (unbroken : '\n' ∉ (ofPackage package root).entry) {before : Option Char} {line : Nat}
    {source after : Text} {touched : List Nat}
    (localised : Localised (ofPackage package root) before line source after touched) :
    Text.KeepsLines line touched source after := by
  induction localised with
  | nil => exact ⟨rfl, fun _ _ => rfl⟩
  | @plain before line c rest after touched missing _ inductionHypothesis =>
      exact inductionHypothesis.append [c]
  | @kept before line specifier rest after touched begins _ _ _ inductionHypothesis =>
      apply Text.KeepsLines.append
      have oneLine : specifier.text.count '\n' = specifier.lead.count '\n' := by
        have behindLead := List.count_eq_zero.mpr (newline_notMem_quoted begins.quoted)
        rw [Specifier.text, List.count_append, behindLead, Nat.add_zero]
      rwa [oneLine]
  | @led before line specifier reference rest after touched begins leads _ inductionHypothesis =>
      have sameLine := newline_notMem_target begins.quoted
      exact keepsLines_redirect begins.quoted (newline_notMem_of_leads unbroken sameLine leads)
        inductionHypothesis

/-- Localising changes nothing but the targets of specifiers that name the package or a module in it.
If the reference to the package is on one line, there are as many lines afterwards, and all that are
not touched are the same. -/
theorem localise_replaces_targets (package : Package) (root source : Text) :
    let localiser := ofPackage package root
    ∃ touched, Localised localiser none 0 source (localiser.localise source) touched ∧
      ('\n' ∉ localiser.entry →
        (Text.splitAt '\n' (localiser.localise source)).length =
            (Text.splitAt '\n' source).length ∧
          ∀ line ∉ touched, (Text.splitAt '\n' (localiser.localise source))[line]? =
            (Text.splitAt '\n' source)[line]?) := by
  intro localiser
  obtain ⟨touched, localised⟩ := exists_localised_of_cut localiser
    (Text.cut_segments consumes_pattern source) 0
  refine ⟨touched, localised, ?_⟩
  intro unbroken
  obtain ⟨sameLength, sameLines⟩ := keepsLines_of_localised unbroken localised
  refine ⟨sameLength, ?_⟩
  intro line untouched
  apply sameLines
  rwa [Nat.zero_add]

/-- An import with line breaks before its target, one of another package, and one behind an open
quote. -/
theorem localise_replaces_targets_behind_line_breaks :
    let package : Package := ⟨"pkg".toList, "src/index.ts".toList⟩
    let localiser := ofPackage package ScratchDir.rootReference
    let source := "import a from\n  'pkg'\nfrom 'pkgs'; it's\nrequire (\n\"pkg/./b\"\n)".toList
    localiser.localise source =
        "import a from\n  '../src/index'\nfrom 'pkgs'; it's\nrequire (\n\"../b\"\n)".toList ∧
      '\n' ∉ localiser.entry ∧
        ∃ touched, Localised localiser none 0 source (localiser.localise source) touched ∧
          (Text.splitAt '\n' (localiser.localise source)).length =
              (Text.splitAt '\n' source).length ∧
            ∀ line ∉ touched, (Text.splitAt '\n' (localiser.localise source))[line]? =
              (Text.splitAt '\n' source)[line]? := by
  intro package localiser source
  have unbroken : '\n' ∉ localiser.entry := by decide
  obtain ⟨touched, localised, keeps⟩ :=
    localise_replaces_targets package ScratchDir.rootReference source
  exact ⟨by decide, unbroken, touched, localised, keeps unbroken⟩

end Localiser

end DocCheck
