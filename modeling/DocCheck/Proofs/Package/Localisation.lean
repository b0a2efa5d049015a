import DocCheck.Check.Config
import DocCheck.Proofs.Package.Reference
import DocCheck.Proofs.Package.Specifier

/-!
Localised source text, searched again. Replacing the target of a specifier can neither make nor
destroy another one, so the second search finds a specifier exactly where the first one did. Main
statement: no import of the package is left, and localising again changes nothing.
-/

namespace DocCheck

namespace Localiser

open Specifier

/-- The references of the localiser hold neither quotes nor newlines. -/
def IsTidy (localiser : Localiser) : Prop :=
  ∀ c, c ∈ localiser.root ∨ c ∈ localiser.entry → isQuote c = false ∧ c ≠ '\n'

private theorem mem_reference? {localiser : Localiser} (tidy : localiser.IsTidy)
    {target reference : Text}
    (named : localiser.reference? target = some reference) {c : Char} (member : c ∈ reference) :
    c ∈ target ∨ (isQuote c = false ∧ c ≠ '\n') := by
  rcases (reference?_eq_some_iff.mp named).mem_cases member with
    inRoot | inEntry | inTarget | isMark
  · exact Or.inr (tidy c (Or.inl inRoot))
  · exact Or.inr (tidy c (Or.inr inEntry))
  · exact Or.inl inTarget
  · simp only [Package.isReferenceMark, Bool.or_eq_true, decide_eq_true_eq] at isMark
    rcases isMark with rfl | rfl <;> exact Or.inr ⟨by decide, by decide⟩

/-- The specifier that a module specifier is replaced by. -/
def redirect (localiser : Localiser) (specifier : Specifier) : Specifier :=
  match localiser.reference? specifier.target with
  | some reference => { specifier with target := reference }
  | none => specifier

@[simp]
theorem redirect_lead (localiser : Localiser) (specifier : Specifier) :
    (localiser.redirect specifier).lead = specifier.lead := by
  rw [redirect]
  split <;> rfl

@[simp]
theorem redirect_quote (localiser : Localiser) (specifier : Specifier) :
    (localiser.redirect specifier).quote = specifier.quote := by
  rw [redirect]
  split <;> rfl

theorem replacement_text (localiser : Localiser) (specifier : Specifier) :
    localiser.replacement specifier.text specifier = (localiser.redirect specifier).text := by
  rw [replacement, redirect]
  rcases localiser.reference? specifier.target with _ | reference <;> rfl

/-- A new target holds no character that could close a quote and was not in the old one. -/
private theorem mem_target_redirect {localiser : Localiser} (tidy : localiser.IsTidy)
    {specifier : Specifier} {c : Char} (member : c ∈ (localiser.redirect specifier).target) :
    c ∈ specifier.target ∨ (isQuote c = false ∧ c ≠ '\n') := by
  rw [redirect] at member
  split at member
  · next named => exact mem_reference? tidy named member
  · exact Or.inl member

private theorem isQuoted_redirect {localiser : Localiser} (tidy : localiser.IsTidy)
    {specifier : Specifier} (isQuoted : specifier.IsQuoted) :
    (localiser.redirect specifier).IsQuoted := by
  refine ⟨by simpa using isQuoted.1, ?_⟩
  intro c member
  rw [redirect_quote]
  rcases mem_target_redirect tidy member with known | ⟨unquoted, sameLine⟩
  · exact isQuoted.2 c known
  · refine ⟨?_, sameLine⟩
    rintro rfl
    rw [isQuoted.1] at unquoted
    cases unquoted

/-! ## The second search -/

/-- The quote occurs in the text before any newline. -/
def closesLine (quote : Char) : Text → Bool
  | [] => false
  | c :: rest => c = quote || (c != '\n' && closesLine quote rest)

private theorem closesLine_append (quote : Char) (lead rest : Text) :
    closesLine quote (lead ++ rest) =
      if lead.any fun c => c = quote || c = '\n' then closesLine quote lead
      else closesLine quote rest := by
  induction lead with
  | nil => rfl
  | cons c lead inductionHypothesis =>
      rw [List.cons_append, closesLine, closesLine, inductionHypothesis, List.any_cons]
      by_cases isQuote : c = quote
      · simp [isQuote]
      · by_cases isNewline : c = '\n'
        · simp [isNewline]
        · have sameLine : (c != '\n') = true := by simp [isNewline]
          simp [isQuote, isNewline, sameLine]

/-- A text without the quote and newlines leaves open whether the quote is met first. -/
private theorem closesLine_append_of_plain {quote : Char} {lead : Text}
    (plain : ∀ c ∈ lead, c ≠ quote ∧ c ≠ '\n') (rest : Text) :
    closesLine quote (lead ++ rest) = closesLine quote rest := by
  rw [closesLine_append, if_neg]
  simpa using fun c member => plain c member

private theorem closesLine_iff {quote : Char} {text : Text} :
    closesLine quote text = true ↔
      ∃ target after, text = target ++ quote :: after ∧ ∀ c ∈ target, c ≠ quote ∧ c ≠ '\n' := by
  constructor
  · intro closes
    induction text with
    | nil => cases closes
    | cons c rest inductionHypothesis =>
        simp only [closesLine, Bool.or_eq_true, decide_eq_true_eq, Bool.and_eq_true,
          bne_iff_ne] at closes
        by_cases isQuote : c = quote
        · exact ⟨[], rest, by rw [isQuote]; rfl, by simp⟩
        · obtain ⟨sameLine, later⟩ := closes.resolve_left isQuote
          obtain ⟨target, after, rfl, plain⟩ := inductionHypothesis later
          exact ⟨c :: target, after, rfl, by simpa [isQuote, sameLine] using plain⟩
  · rintro ⟨target, after, rfl, plain⟩
    rw [closesLine_append_of_plain plain, closesLine, decide_eq_true rfl, Bool.true_or]

private theorem closesLine_of_mem {quote : Char} {text : Text} (member : quote ∈ text)
    (sameLine : ∀ c ∈ text, c ≠ '\n') : closesLine quote text = true := by
  obtain ⟨target, after, rfl, first⟩ := List.eq_append_cons_of_mem member
  refine closesLine_iff.mpr ⟨target, after, rfl, ?_⟩
  intro c inTarget
  refine ⟨?_, sameLine c (List.mem_append_left _ inTarget)⟩
  rintro rfl
  exact first inTarget

/-- The text that a cut leads to. -/
def rewritten (localiser : Localiser) (parts : List (Text.Segment Specifier)) : Text :=
  parts.flatMap (Text.Segment.replaceWith localiser.replacement)

/-- A part of the rewritten text. -/
def redirectPart (localiser : Localiser) : Text.Segment Specifier → Text.Segment Specifier
  | .plain c => .plain c
  | .found _ specifier =>
      .found (localiser.redirect specifier).text (localiser.redirect specifier)

private theorem rewritten_found (localiser : Localiser) (specifier : Specifier)
    (parts : List (Text.Segment Specifier)) :
    localiser.rewritten (.found specifier.text specifier :: parts) =
      specifier.lead ++ specifier.quote :: ((localiser.redirect specifier).target ++
        specifier.quote :: localiser.rewritten parts) := by
  rw [rewritten, List.flatMap_cons, Text.Segment.replaceWith, replacement_text, text_append,
    redirect_lead, redirect_quote]
  rfl

/-- Rewriting brings no quote to a line that has none. -/
private theorem closesLine_rewritten {localiser : Localiser} (tidy : localiser.IsTidy)
    {quote : Char} (quoteIsQuote : isQuote quote = true) {before : Option Char} {text : Text}
    {parts : List (Text.Segment Specifier)} (cut : Text.Cut Specifier.pattern before text parts)
    (opens : closesLine quote text = false) :
    closesLine quote (localiser.rewritten parts) = false := by
  induction cut with
  | done missing => rfl
  | @plain before c rest parts missing tail inductionHypothesis =>
      change closesLine quote (c :: localiser.rewritten parts) = false
      simp only [closesLine, Bool.or_eq_false_iff, Bool.and_eq_false_iff] at opens ⊢
      exact ⟨opens.1, opens.2.imp id inductionHypothesis⟩
  | @found before matched after specifier parts found nonempty tail inductionHypothesis =>
      obtain ⟨_, isQuoted, _⟩ := pattern_eq_some_iff.mp found
      obtain rfl := eq_text_of_pattern found
      rw [text_append, closesLine_append] at opens
      rw [rewritten_found, closesLine_append]
      split
      · next ends => rwa [if_pos ends] at opens
      · next goesOn =>
          rw [if_neg goesOn] at opens
          simp only [closesLine, Bool.or_eq_false_iff, decide_eq_false_iff_not,
            Bool.and_eq_false_iff, bne_eq_false_iff_eq] at opens ⊢
          refine ⟨opens.1, opens.2.imp id fun opensInside => ?_⟩
          -- The target holds no such quote, nor does what takes its place.
          have absent : quote ∉ specifier.target := by
            intro member
            have ends : specifier.target.any (fun c => c = quote || c = '\n') = true :=
              List.any_eq_true.mpr ⟨quote, member, by simp⟩
            rw [closesLine_append, if_pos ends, closesLine_of_mem member
              fun c inTarget => (isQuoted.2 c inTarget).2] at opensInside
            cases opensInside
          rw [closesLine_append_of_plain] at opensInside ⊢
          · simp only [closesLine, Bool.or_eq_false_iff, Bool.and_eq_false_iff] at opensInside ⊢
            exact ⟨opensInside.1, opensInside.2.imp id inductionHypothesis⟩
          · intro c member
            rcases mem_target_redirect tidy member with known | ⟨unquoted, sameLine⟩
            · exact ⟨fun same => absent (same ▸ known), (isQuoted.2 c known).2⟩
            · refine ⟨?_, sameLine⟩
              rintro rfl
              rw [quoteIsQuote] at unquoted
              cases unquoted
          · exact fun c member => ⟨fun same => absent (same ▸ member), (isQuoted.2 c member).2⟩

/-- The first quote of the rewritten text stands where the first one of the text does, and a target
that it opens is closed only if that of the text is. -/
private theorem exists_of_rewritten_eq {localiser : Localiser} (tidy : localiser.IsTidy)
    {before : Option Char} {text : Text} {parts : List (Text.Segment Specifier)}
    (cut : Text.Cut Specifier.pattern before text parts) {lead rest : Text} {quote : Char}
    (quoteIsQuote : isQuote quote = true) (unquoted : ∀ c ∈ lead, isQuote c = false)
    (equality : localiser.rewritten parts = lead ++ quote :: rest)
    (closes : closesLine quote rest = true) :
    ∃ remainder, text = lead ++ quote :: remainder ∧ closesLine quote remainder = true := by
  induction cut generalizing lead with
  | done missing => cases lead <;> cases equality
  | @plain before c remainder parts missing tail inductionHypothesis =>
      change c :: localiser.rewritten parts = lead ++ quote :: rest at equality
      cases lead with
      | nil =>
          obtain ⟨rfl, rfl⟩ := List.cons.inj equality
          refine ⟨remainder, rfl, ?_⟩
          rw [← Bool.not_eq_false]
          intro opens
          rw [closesLine_rewritten tidy quoteIsQuote tail opens] at closes
          cases closes
      | cons d lead =>
          obtain ⟨rfl, tails⟩ := List.cons.inj equality
          obtain ⟨found, rfl, foundCloses⟩ := inductionHypothesis
            (fun d member => unquoted d (List.mem_cons_of_mem _ member)) tails
          exact ⟨found, rfl, foundCloses⟩
  | @found before matched after specifier parts found nonempty tail inductionHypothesis =>
      obtain ⟨introduces, isQuoted, _⟩ := pattern_eq_some_iff.mp found
      obtain rfl := eq_text_of_pattern found
      rw [rewritten_found] at equality
      obtain ⟨rfl, rfl, _⟩ := Text.append_cons_unique isQuote isQuoted.1 quoteIsQuote
        (isQuote_eq_false_of_introduces introduces) unquoted equality
      refine ⟨specifier.target ++ specifier.quote :: after, text_append specifier after, ?_⟩
      exact closesLine_iff.mpr ⟨specifier.target, after, rfl, isQuoted.2⟩

/-- The second search cuts the rewritten text at the rewritten specifiers. -/
theorem cut_rewritten {localiser : Localiser} (tidy : localiser.IsTidy)
    {before : Option Char} {text : Text} {parts : List (Text.Segment Specifier)}
    (cut : Text.Cut Specifier.pattern before text parts) :
    Text.Cut Specifier.pattern before (localiser.rewritten parts)
      (parts.map localiser.redirectPart) := by
  induction cut with
  | done missing => exact .done missing
  | @plain before c rest parts missing tail inductionHypothesis =>
      refine .plain ?_ inductionHypothesis
      change pattern before (c :: localiser.rewritten parts) = none
      rcases found : pattern before (c :: localiser.rewritten parts) with _ | ⟨specifier, after⟩
      · rfl
      · -- A specifier that begins only now would need a quote that the line did not have.
        obtain ⟨introduces, isQuoted, equality⟩ := pattern_eq_some_iff.mp found
        rw [text_append] at equality
        obtain ⟨remainder, split, closes⟩ := exists_of_rewritten_eq tidy (.plain missing tail)
          isQuoted.1 (isQuote_eq_false_of_introduces introduces) equality
          (closesLine_iff.mpr ⟨specifier.target, after, rfl, isQuoted.2⟩)
        obtain ⟨target, behind, rfl, inside⟩ := closesLine_iff.mp closes
        have early : pattern before (c :: rest) =
            some (⟨specifier.lead, specifier.quote, target⟩, behind) :=
          pattern_eq_some_iff.mpr ⟨introduces, ⟨isQuoted.1, inside⟩, by rw [split, text_append]⟩
        rw [missing] at early
        cases early
  | @found before matched after specifier parts found nonempty tail inductionHypothesis =>
      obtain ⟨introduces, isQuoted, _⟩ := pattern_eq_some_iff.mp found
      obtain rfl := eq_text_of_pattern found
      have refound :
          pattern before ((localiser.redirect specifier).text ++ localiser.rewritten parts) =
            some (localiser.redirect specifier, localiser.rewritten parts) :=
        pattern_eq_some_iff.mpr ⟨by simpa using introduces, isQuoted_redirect tidy isQuoted, rfl⟩
      rw [rewritten_found, ← redirect_lead localiser, ← redirect_quote localiser, ← text_append]
      refine .found refound (by simp [Specifier.text]) ?_
      rw [getLast?_text] at inductionHypothesis ⊢
      simpa using inductionHypothesis

/-! ## Imports of the package -/

theorem ofPackage_parent (package : Package) :
    ofPackage package ScratchDir.rootReference =
      ⟨package.name, ScratchDir.rootReference,
        Package.refer ScratchDir.rootReference package.entryModule⟩ :=
  rfl

private theorem head?_refer_parent (path : Text) :
    (Package.refer ScratchDir.rootReference path).head? = some '.' := by
  rw [Package.refer, if_neg (by decide)]
  split <;> rfl

/-- What a localiser puts in place of an import names nothing of the package, unless the package's
name is one that a path can begin with. -/
private theorem reference?_redirect {package : Package} (named : package.name ≠ [])
    (undotted : package.name.head? ≠ some '.') (specifier : Specifier) :
    let localiser := ofPackage package ScratchDir.rootReference
    localiser.reference? (localiser.redirect specifier).target = none := by
  intro localiser
  have relative {target reference : Text} (led : localiser.reference? target = some reference) :
      reference.head? = some '.' := by
    cases reference?_eq_some_iff.mp led with
    | name => exact head?_refer_parent _
    | directory => exact head?_refer_parent _
    | inside filled => exact head?_refer_parent _
  rcases led : localiser.reference? specifier.target with _ | reference
  · rw [redirect, led]
    exact led
  · rw [redirect, led]
    change localiser.reference? reference = none
    have dotted := relative led
    obtain ⟨c, name, isName⟩ := List.exists_cons_of_ne_nil named
    have localName : localiser.name = c :: name := isName
    rw [isName, List.head?_cons] at undotted
    rw [reference?_eq_none_iff, localName]
    constructor
    · rintro rfl
      exact undotted dotted
    · rintro ⟨path, rfl⟩
      exact undotted dotted

private theorem isTidy_ofPackage {package : Package}
    (plainMain : ∀ c ∈ package.main, isQuote c = false ∧ c ≠ '\n') :
    (ofPackage package ScratchDir.rootReference).IsTidy := by
  have dots : ∀ c ∈ ScratchDir.rootReference, c = '.' :=
    Text.forall_mem_of_all (by decide)
  intro c member
  simp only [ofPackage_parent] at member
  rcases member with inRoot | inEntry
  · rw [dots c inRoot]
    decide
  · rcases Package.mem_refer inEntry with inRoot | inModule | isMark
    · rw [dots c inRoot]
      decide
    · rcases Package.mem_entryModule inModule with inMain | rfl
      · exact plainMain c inMain
      · decide
    · simp only [Package.isReferenceMark, Bool.or_eq_true, decide_eq_true_eq] at isMark
      rcases isMark with rfl | rfl <;> decide

/-- No import of the package survives: what the second search finds in the localised text names
neither the package nor a module in it, so that localising again changes nothing. -/
theorem no_import_survives (package : Package) (named : package.name ≠ [])
    (undotted : package.name.head? ≠ some '.')
    (plainMain : ∀ c ∈ package.main, c ≠ '\'' ∧ c ≠ '"' ∧ c ≠ '\n') (source : Text) :
    let localiser := ofPackage package ScratchDir.rootReference
    (∀ specifier ∈ Text.findAll Specifier.pattern (localiser.localise source),
      specifier.target ≠ package.name ∧ ¬ package.name ++ ['/'] <+: specifier.target) ∧
      localiser.localise (localiser.localise source) = localiser.localise source := by
  intro localiser
  have tidy : localiser.IsTidy := isTidy_ofPackage fun c member => by
    obtain ⟨single, double, sameLine⟩ := plainMain c member
    exact ⟨by simp [isQuote, single, double], sameLine⟩
  have segments : Text.segments Specifier.pattern (localiser.localise source) =
      (Text.segments Specifier.pattern source).map localiser.redirectPart :=
    Text.segments_eq_of_cut (cut_rewritten tidy (Text.cut_segments consumes_pattern source))
  have foreign : ∀ part ∈ Text.segments Specifier.pattern (localiser.localise source),
      ∀ specifier, part.value? = some specifier →
        localiser.reference? specifier.target = none := by
    rw [segments]
    intro part member specifier isValue
    obtain ⟨original, _, rfl⟩ := List.mem_map.mp member
    cases original with
    | plain c => cases isValue
    | found text value =>
        cases isValue
        exact reference?_redirect named undotted value
  constructor
  · intro specifier member
    obtain ⟨part, known, isValue⟩ := List.mem_filterMap.mp member
    exact reference?_eq_none_iff.mp (foreign part known specifier isValue)
  · apply Text.replaceAll_eq_self
    intro part member
    cases part with
    | plain c => rfl
    | found text specifier =>
        rw [Text.Segment.replaceWith, replacement, foreign _ member specifier rfl]
        rfl

/-- The name stands alone, before a path in double quotes, and in an import behind an open quote. -/
theorem no_import_survives_in_mixed_quotes :
    let package : Package := ⟨"pkg".toList, "src/index.ts".toList⟩
    let localiser := ofPackage package ScratchDir.rootReference
    let source := "from 'pkg'\nimport(\"pkg/it's\")\nfrom \" import 'pkg/".toList
    localiser.localise source =
        "from '../src/index'\nimport(\"../it's\")\nfrom \" import 'pkg/".toList ∧
      package.name ≠ [] ∧ package.name.head? ≠ some '.' ∧
      (∀ c ∈ package.main, c ≠ '\'' ∧ c ≠ '"' ∧ c ≠ '\n') ∧
      (∀ specifier ∈ Text.findAll Specifier.pattern (localiser.localise source),
        specifier.target ≠ package.name ∧ ¬ package.name ++ ['/'] <+: specifier.target) ∧
      localiser.localise (localiser.localise source) = localiser.localise source := by
  intro package localiser source
  have named : package.name ≠ [] := by decide
  have undotted : package.name.head? ≠ some '.' := by decide
  have plainMain : ∀ c ∈ package.main, c ≠ '\'' ∧ c ≠ '"' ∧ c ≠ '\n' :=
    Text.forall_mem_of_all (by decide)
  exact ⟨by decide, named, undotted, plainMain,
    no_import_survives package named undotted plainMain source⟩

end Localiser

end DocCheck
