import DocCheck.Text.Segment

/-!
The search for the matches of a pattern, as a relation. A cut of a text says how it falls into
characters outside all matches and into matches, each as early as possible. Main statement: the
segments of a text are its only cut, so what is to be shown of every search is shown by induction on
cuts.
-/

namespace DocCheck.Text

variable {α : Type}

/-- Every match takes at least one character off the front of the text. -/
def Consumes (pattern : Pattern α) : Prop :=
  ∀ ⦃before : Option Char⦄ ⦃text : Text⦄ ⦃value : α⦄ ⦃after : Text⦄,
    pattern before text = some (value, after) →
      ∃ matched, matched ≠ [] ∧ text = matched ++ after

/-- `Cut pattern before text parts` means that the search behind the character `before` cuts `text`
into `parts`. -/
inductive Cut (pattern : Pattern α) : Option Char → Text → List (Segment α) → Prop
  | done {before : Option Char} :
      pattern before [] = none →
      Cut pattern before [] []
  | plain {before : Option Char} {c : Char} {rest : Text} {parts : List (Segment α)} :
      pattern before (c :: rest) = none →
      Cut pattern (some c) rest parts →
      Cut pattern before (c :: rest) (.plain c :: parts)
  | found {before : Option Char} {matched after : Text} {value : α}
      {parts : List (Segment α)} :
      pattern before (matched ++ after) = some (value, after) →
      matched ≠ [] →
      Cut pattern matched.getLast? after parts →
      Cut pattern before (matched ++ after) (.found matched value :: parts)

/-! ## Cuts and segments -/

private theorem segmentsFrom_skip (pattern : Pattern α) (before : Option Char) (lead rest : Text) :
    segmentsFrom pattern before lead.length (lead ++ rest) =
      segmentsFrom pattern (lead.getLast?.or before) 0 rest := by
  induction lead generalizing before with
  | nil => rfl
  | cons c lead inductionHypothesis =>
      rw [List.length_cons, List.cons_append, segmentsFrom, if_neg (Nat.succ_ne_zero _),
        Nat.add_sub_cancel, inductionHypothesis]
      cases lead with
      | nil => rfl
      | cons d lead => simp [List.getLast?_cons]

theorem segmentsFrom_of_none {pattern : Pattern α} {before : Option Char} {c : Char} {rest : Text}
    (missing : pattern before (c :: rest) = none) :
    segmentsFrom pattern before 0 (c :: rest) =
      .plain c :: segmentsFrom pattern (some c) 0 rest := by
  rw [segmentsFrom, if_pos rfl, missing]

theorem segmentsFrom_of_match {pattern : Pattern α} {before : Option Char}
    {matched after : Text} {value : α} (nonempty : matched ≠ [])
    (found : pattern before (matched ++ after) = some (value, after)) :
    segmentsFrom pattern before 0 (matched ++ after) =
      .found matched value :: segmentsFrom pattern matched.getLast? 0 after := by
  obtain ⟨c, lead, rfl⟩ := List.exists_cons_of_ne_nil nonempty
  rw [List.cons_append] at found ⊢
  rw [segmentsFrom, if_pos rfl, found]
  have width : (lead ++ after).length + 1 - after.length = lead.length + 1 := by
    rw [List.length_append]
    omega
  simp only [width, Nat.succ_ne_zero, if_false, Nat.add_sub_cancel]
  rw [segmentsFrom_skip]
  congr 1
  · simp
  · congr 1
    cases lead with
    | nil => rfl
    | cons d lead => simp [List.getLast?_cons]

/-- There is no other cut than the segments. -/
private theorem segmentsFrom_eq_of_cut {pattern : Pattern α} {before : Option Char} {text : Text}
    {parts : List (Segment α)} (cut : Cut pattern before text parts) :
    segmentsFrom pattern before 0 text = parts := by
  induction cut with
  | done missing => rw [segmentsFrom, if_pos rfl, missing]
  | plain missing _ inductionHypothesis =>
      rw [segmentsFrom_of_none missing, inductionHypothesis]
  | found found nonempty _ inductionHypothesis =>
      rw [segmentsFrom_of_match nonempty found, inductionHypothesis]

/-- The segments of a text are a cut of it. -/
theorem cut_segmentsFrom {pattern : Pattern α} (consumes : Consumes pattern)
    (before : Option Char) (text : Text) :
    Cut pattern before text (segmentsFrom pattern before 0 text) := by
  rcases found : pattern before text with _ | ⟨value, after⟩
  · cases text with
    | nil =>
        rw [segmentsFrom, if_pos rfl, found]
        exact .done found
    | cons c rest =>
        rw [segmentsFrom_of_none found]
        exact .plain found (cut_segmentsFrom consumes (some c) rest)
  · obtain ⟨matched, nonempty, rfl⟩ := consumes found
    have shorter : after.length < (matched ++ after).length := by
      have := List.length_pos_iff.mpr nonempty
      rw [List.length_append]
      omega
    rw [segmentsFrom_of_match nonempty found]
    exact .found found nonempty (cut_segmentsFrom consumes matched.getLast? after)
termination_by text.length

theorem cut_segments {pattern : Pattern α} (consumes : Consumes pattern) (text : Text) :
    Cut pattern none text (segments pattern text) :=
  cut_segmentsFrom consumes none text

theorem segments_eq_of_cut {pattern : Pattern α} {text : Text} {parts : List (Segment α)}
    (cut : Cut pattern none text parts) : segments pattern text = parts :=
  segmentsFrom_eq_of_cut cut

/-! ## Texts put together -/

/-- Where matches read no further than to a character, the texts on either side of it are cut on
their own. -/
private theorem cut_append_cons {pattern : Pattern α} {d : Char} {rest : Text}
    (apart : ∀ before text, pattern before (text ++ d :: rest) =
      (pattern before text).map fun found => (found.1, found.2 ++ d :: rest))
    {before : Option Char} {text : Text} {parts more : List (Segment α)}
    (cut : Cut pattern before text parts) (cutRest : Cut pattern (some d) rest more) :
    Cut pattern before (text ++ d :: rest) (parts ++ .plain d :: more) := by
  induction cut with
  | @done before missing =>
      have whole := apart before []
      rw [missing] at whole
      exact .plain whole cutRest
  | @plain before c text parts missing _ inductionHypothesis =>
      have whole := apart before (c :: text)
      rw [missing] at whole
      exact .plain whole inductionHypothesis
  | @found before matched after value parts found nonempty _ inductionHypothesis =>
      have whole := apart before (matched ++ after)
      rw [found, List.append_assoc] at whole
      rw [List.append_assoc]
      exact .found whole nonempty inductionHypothesis

/-- What stands before a text has a say in what matches at its beginning only. -/
theorem segmentsFrom_congr {pattern : Pattern α} {before other : Option Char} {text : Text}
    (same : pattern before text = pattern other text) :
    segmentsFrom pattern before 0 text = segmentsFrom pattern other 0 text := by
  cases text with
  | nil => rw [segmentsFrom, segmentsFrom, same]
  | cons c rest => rw [segmentsFrom, segmentsFrom, same]

theorem segments_append_cons {pattern : Pattern α} (consumes : Consumes pattern) {d : Char}
    {rest : Text}
    (apart : ∀ before text, pattern before (text ++ d :: rest) =
      (pattern before text).map fun found => (found.1, found.2 ++ d :: rest))
    (fresh : pattern (some d) rest = pattern none rest) (text : Text) :
    segments pattern (text ++ d :: rest) =
      segments pattern text ++ .plain d :: segments pattern rest := by
  apply segments_eq_of_cut
  apply cut_append_cons apart (cut_segments consumes text)
  have cutRest := cut_segmentsFrom consumes (some d) rest
  rw [segmentsFrom_congr fresh] at cutRest
  exact cutRest

theorem replaceAll_append_cons {pattern : Pattern α} (consumes : Consumes pattern) {d : Char}
    {rest : Text}
    (apart : ∀ before text, pattern before (text ++ d :: rest) =
      (pattern before text).map fun found => (found.1, found.2 ++ d :: rest))
    (fresh : pattern (some d) rest = pattern none rest) (replacement : Text → α → Text)
    (text : Text) :
    replaceAll pattern replacement (text ++ d :: rest) =
      replaceAll pattern replacement text ++ d :: replaceAll pattern replacement rest := by
  rw [replaceAll, segments_append_cons consumes apart fresh, List.flatMap_append,
    List.flatMap_cons]
  rfl

/-! ## Occurrences -/

/-- Every match begins with the mark and holds it nowhere else, and what stands before a place has
no say in what matches there. -/
structure Marked (mark : Char) (pattern : Pattern α) : Prop where
  begins : ∀ {before : Option Char} {text after : Text} {value : α},
    pattern before text = some (value, after) →
      ∃ inner, text = mark :: (inner ++ after) ∧ mark ∉ inner
  blind : ∀ before text, pattern before text = pattern none text

private theorem Marked.consumes {mark : Char} {pattern : Pattern α} (marked : Marked mark pattern) :
    Consumes pattern := by
  intro before text value after found
  obtain ⟨inner, equality, _⟩ := marked.begins found
  exact ⟨mark :: inner, List.cons_ne_nil mark inner, equality⟩

private theorem exists_of_mem_cut {pattern : Pattern α} (blind : ∀ before text,
      pattern before text = pattern none text) {before : Option Char} {text : Text}
    {parts : List (Segment α)} (cut : Cut pattern before text parts) {value : α}
    (member : value ∈ parts.filterMap Segment.value?) :
    ∃ lead rest after, text = lead ++ rest ∧ pattern none rest = some (value, after) := by
  induction cut with
  | done missing => cases member
  | @plain before c rest parts missing tail inductionHypothesis =>
      obtain ⟨lead, behind, after, rfl, present⟩ := inductionHypothesis member
      exact ⟨c :: lead, behind, after, rfl, present⟩
  | @found before matched after first parts found nonempty tail inductionHypothesis =>
      change value ∈ first :: parts.filterMap Segment.value? at member
      rcases List.mem_cons.mp member with rfl | later
      · exact ⟨[], matched ++ after, after, rfl, (blind _ _).symm.trans found⟩
      · obtain ⟨lead, behind, rest, rfl, present⟩ := inductionHypothesis later
        exact ⟨matched ++ lead, behind, rest, (List.append_assoc _ _ _).symm, present⟩

/-- A match cannot begin inside another one, so the search passes over none. -/
private theorem mem_cut_of_match {mark : Char} {pattern : Pattern α} (marked : Marked mark pattern)
    {before : Option Char} {text : Text} {parts : List (Segment α)}
    (cut : Cut pattern before text parts) {lead rest after : Text} {value : α}
    (equality : text = lead ++ rest) (present : pattern none rest = some (value, after)) :
    value ∈ parts.filterMap Segment.value? := by
  induction cut generalizing lead with
  | @done before missing =>
      obtain ⟨rfl, rfl⟩ := List.append_eq_nil_iff.mp equality.symm
      rw [marked.blind, present] at missing
      cases missing
  | @plain before c behind parts missing tail inductionHypothesis =>
      cases lead with
      | nil =>
          rw [List.nil_append] at equality
          rw [equality, marked.blind, present] at missing
          cases missing
      | cons d lead => exact inductionHypothesis (List.cons.inj equality).2
  | @found before matched behind first parts found nonempty tail inductionHypothesis =>
      change value ∈ first :: parts.filterMap Segment.value?
      rw [List.mem_cons]
      obtain ⟨inner, rfl, _⟩ := marked.begins present
      obtain ⟨covered, begins, unmarked⟩ := marked.begins found
      have matchedText : matched = mark :: covered := List.append_cancel_right begins
      subst matchedText
      cases lead with
      | nil =>
          rw [List.nil_append] at equality
          rw [equality, marked.blind, present] at found
          cases found
          exact Or.inl rfl
      | cons d lead =>
          right
          rw [List.cons_append, List.cons_append] at equality
          rcases List.append_eq_append_iff.mp (List.cons.inj equality).2 with
            ⟨gap, rfl, split⟩ | ⟨gap, rfl, split⟩
          · exact inductionHypothesis split
          · cases gap with
            | nil =>
                have whole : behind = [] ++ mark :: (inner ++ after) := split.symm
                exact inductionHypothesis whole
            | cons e gap =>
                obtain ⟨rfl, _⟩ := List.cons.inj split
                exact absurd (List.mem_append_right lead List.mem_cons_self) unmarked

/-- A search finds a value exactly if the pattern matches with it at some place of the text. -/
theorem mem_findAll_iff {mark : Char} {pattern : Pattern α} (marked : Marked mark pattern)
    {text : Text} {value : α} :
    value ∈ findAll pattern text ↔
      ∃ lead rest after, text = lead ++ rest ∧ pattern none rest = some (value, after) := by
  have cut := cut_segments marked.consumes text
  constructor
  · exact exists_of_mem_cut marked.blind cut
  · rintro ⟨lead, rest, after, equality, present⟩
    exact mem_cut_of_match marked cut equality present

/-! ## Replacement -/

/-- Replacing every match by itself changes nothing. -/
theorem replaceAll_eq_self {pattern : Pattern α} {replacement : Text → α → Text} {text : Text}
    (same : ∀ part ∈ segments pattern text, part.replaceWith replacement = part.text) :
    replaceAll pattern replacement text = text := by
  calc
    replaceAll pattern replacement text
        = ((segments pattern text).map (Segment.replaceWith replacement)).flatten :=
      List.flatMap_def
    _ = ((segments pattern text).map Segment.text).flatten := by rw [List.map_congr_left same]
    _ = text := by rw [← List.flatMap_def, flatMap_text_segments]

end DocCheck.Text
