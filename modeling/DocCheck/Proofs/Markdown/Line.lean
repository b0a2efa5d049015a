import DocCheck.Markdown.Marker

/-!
Lines that a newline ends, and their indentation by spaces. Main statements: a text made of such
lines falls into them again, and the indentation of a line decides whether a mark behind it can
close a fence.
-/

namespace DocCheck.Markdown

/-! ## Line ends -/

/-- Nothing in the text ends a line. -/
def IsLine (line : Text) : Prop :=
  ∀ c ∈ line, c ≠ '\n' ∧ c ≠ '\r'

/-- The line with a newline at its end. -/
def terminated (line : Text) : Text :=
  line ++ ['\n']

theorem terminated_append (lead line : Text) :
    terminated (lead ++ line) = lead ++ terminated line :=
  List.append_assoc lead line _

theorem take_terminated (line : Text) :
    (terminated line).take ((terminated line).length - 1) = line := by
  simp [terminated]

theorem isLine_replicate {mark : Char} (noBreak : mark ≠ '\n' ∧ mark ≠ '\r') (count : Nat) :
    IsLine (List.replicate count mark) := fun c member => by
  rw [List.eq_of_mem_replicate member]
  exact noBreak

theorem isLine_append {lead rest : Text} (leadLine : IsLine lead) (restLine : IsLine rest) :
    IsLine (lead ++ rest) := fun c member =>
  (List.mem_append.mp member).elim (leadLine c) (restLine c)

private theorem splitLines_append {line : Text} (isLine : IsLine line) (rest : Text) :
    splitLines (line ++ '\n' :: rest) = terminated line :: splitLines rest := by
  induction line with
  | nil => rfl
  | cons c line inductionHypothesis =>
      have noBreak := isLine c List.mem_cons_self
      have later := inductionHypothesis fun d member => isLine d (List.mem_cons_of_mem c member)
      rw [List.cons_append, splitLines, later]
      · rfl
      · exact fun _ isReturn => absurd isReturn noBreak.2
      · exact fun isReturn => absurd isReturn noBreak.2
      · exact fun isNewline => absurd isNewline noBreak.1

/-- A text made of lines falls into these lines. -/
theorem splitLines_flatMap_terminated {lines : List Text}
    (areLines : ∀ line ∈ lines, IsLine line) :
    splitLines (lines.flatMap terminated) = lines.map terminated := by
  induction lines with
  | nil => rfl
  | cons line lines inductionHypothesis =>
      have first := areLines line List.mem_cons_self
      have later := inductionHypothesis fun other member =>
        areLines other (List.mem_cons_of_mem line member)
      rw [List.flatMap_cons, terminated, List.append_assoc, List.singleton_append,
        splitLines_append first, later, List.map_cons]

@[simp]
theorem endsWithNewline_terminated (line : Text) : endsWithNewline (terminated line) = true := by
  simp [endsWithNewline, terminated]

@[simp]
theorem codeTail_append_newline (lead line : Text) (following : List Text) :
    codeTail (lead ++ terminated line) following = ([], 0) := by
  simp [codeTail, endsWithNewline, terminated]

@[simp]
theorem codeTail_terminated (line : Text) (following : List Text) :
    codeTail (terminated line) following = ([], 0) :=
  codeTail_append_newline [] line following

/-! ## Runs -/

/-- So many spaces. -/
abbrev spaces (count : Nat) : Text :=
  List.replicate count ' '

theorem exists_spaces (text : Text) :
    ∃ count rest, text = spaces count ++ rest ∧ rest.head? ≠ some ' ' := by
  induction text with
  | nil => exact ⟨0, [], rfl, nofun⟩
  | cons c text inductionHypothesis =>
      by_cases isSpace : c = ' '
      · obtain ⟨count, rest, rfl, stops⟩ := inductionHypothesis
        exact ⟨count + 1, rest, by rw [isSpace]; rfl, stops⟩
      · exact ⟨0, c :: text, rfl, by simpa using isSpace⟩

theorem dropWhile_spaces {rest : Text} (stops : rest.head? ≠ some ' ') (count : Nat) :
    (spaces count ++ rest).dropWhile (· == ' ') = rest := by
  rw [List.dropWhile_append_of_pos (by simp)]
  cases rest with
  | nil => rfl
  | cons c rest => exact List.dropWhile_cons_of_neg (by simpa using stops)

theorem leadingRun_replicate {mark : Char} {rest : Text} (stops : rest.head? ≠ some mark)
    (count : Nat) : leadingRun mark (List.replicate count mark ++ rest) = (count, rest) := by
  have taken : rest.takeWhile (· == mark) = [] ∧ rest.dropWhile (· == mark) = rest := by
    cases rest with
    | nil => exact ⟨rfl, rfl⟩
    | cons c rest =>
        have other : c ≠ mark := by simpa using stops
        exact ⟨List.takeWhile_cons_of_neg (by simpa using other),
          List.dropWhile_cons_of_neg (by simpa using other)⟩
  rw [leadingRun, List.takeWhile_append_of_pos (by simp), List.dropWhile_append_of_pos (by simp),
    taken.1, taken.2, List.append_nil, List.length_replicate]

theorem eq_replicate_append_leadingRun (mark : Char) (text : Text) :
    text = List.replicate (leadingRun mark text).1 mark ++ (leadingRun mark text).2 := by
  have run : text.takeWhile (· == mark) =
      List.replicate (text.takeWhile (· == mark)).length mark := by
    refine List.eq_replicate_iff.mpr ⟨rfl, ?_⟩
    intro c member
    simpa using List.all_eq_true.mp List.all_takeWhile c member
  rw [leadingRun, ← run, List.takeWhile_append_dropWhile]

/-! ## Indentation -/

namespace Cursor

theorem passSpaces_zero (column : Nat) (text : Text) :
    passSpaces 0 column text = (0, ⟨text, column, 0⟩) := by
  cases text <;> simp [passSpaces]

private theorem passSpaces_spaces (wanted column count : Nat) (rest : Text) :
    passSpaces wanted column (spaces count ++ rest) =
      if wanted ≤ count then (0, ⟨spaces (count - wanted) ++ rest, column + wanted, 0⟩)
      else passSpaces (wanted - count) (column + count) rest := by
  induction count generalizing wanted column with
  | zero =>
      split
      · next none =>
          obtain rfl := Nat.le_zero.mp none
          exact passSpaces_zero column rest
      · rfl
  | succ count inductionHypothesis =>
      rw [spaces, List.replicate_succ, List.cons_append, passSpaces]
      by_cases none : wanted = 0
      · simp [none, List.replicate_succ]
      · rw [if_neg none, if_pos rfl, inductionHypothesis]
        by_cases enough : wanted - 1 ≤ count
        · have remaining : count + 1 - wanted = count - (wanted - 1) := by omega
          have reached : column + wanted = column + 1 + (wanted - 1) := by omega
          rw [if_pos enough, if_pos (by omega), remaining, reached]
        · have remaining : wanted - (count + 1) = wanted - 1 - count := by omega
          have reached : column + (count + 1) = column + 1 + count := by omega
          rw [if_neg enough, if_neg (by omega), remaining, reached]

/-- A character that is neither a space nor a tab ends the indentation. -/
private theorem passSpaces_of_dark {c : Char} (dark : c ≠ ' ' ∧ c ≠ '\t') (wanted column : Nat)
    (rest : Text) : passSpaces wanted column (c :: rest) = (wanted, ⟨c :: rest, column, 0⟩) := by
  by_cases none : wanted = 0
  · simp [passSpaces, none]
  · simp [passSpaces, none, dark.1, dark.2]

private theorem passSpaces_tab {wanted : Nat} (wanting : wanted ≠ 0) (column : Nat) (rest : Text) :
    passSpaces wanted column ('\t' :: rest) =
      if wanted < 4 - column % 4 then (0, ⟨rest, 0, 4 - column % 4 - wanted⟩)
      else passSpaces (wanted - (4 - column % 4)) 0 rest := by
  rw [passSpaces, if_neg wanting, if_neg (by decide), if_pos rfl]

theorem indentUpTo_of_owed_eq_zero (limit : Nat) (text : Text) (column : Nat) :
    (⟨text, column, 0⟩ : Cursor).indentUpTo limit =
      (limit - (passSpaces limit column text).1, (passSpaces limit column text).2) := by
  rw [indentUpTo]
  split
  · next none =>
      obtain rfl : limit = 0 := Nat.le_zero.mp none
      rw [passSpaces_zero]
      rfl
  · rfl

private theorem indentUpTo_of_le_owed {limit : Nat} {cursor : Cursor}
    (enough : limit ≤ cursor.owed) :
    cursor.indentUpTo limit = (limit, { cursor with owed := cursor.owed - limit }) := by
  rw [indentUpTo, if_pos enough]

theorem indentUpTo_spaces {c : Char} (dark : c ≠ ' ' ∧ c ≠ '\t') (limit column count : Nat)
    (rest : Text) :
    (⟨spaces count ++ c :: rest, column, 0⟩ : Cursor).indentUpTo limit =
      (min count limit,
        ⟨spaces (count - limit) ++ c :: rest, column + min count limit, 0⟩) := by
  rw [indentUpTo_of_owed_eq_zero, passSpaces_spaces]
  split
  · next enough => rw [Nat.min_eq_right enough, Nat.sub_zero]
  · next wanting =>
      have passed : limit - (limit - count) = min count limit := by omega
      have reached : column + count = column + min count limit := by omega
      have none : count - limit = 0 := by omega
      rw [passSpaces_of_dark dark, passed, reached, none]
      rfl

private theorem indentUpTo_spaces_end (limit column count : Nat) :
    (⟨spaces count, column, 0⟩ : Cursor).indentUpTo limit =
      (min count limit, ⟨spaces (count - limit), column + min count limit, 0⟩) := by
  have passed := passSpaces_spaces limit column count []
  rw [List.append_nil] at passed
  rw [indentUpTo_of_owed_eq_zero, passed]
  split
  · next enough => rw [Nat.min_eq_right enough, Nat.sub_zero, List.append_nil]
  · next wanting =>
      have few : limit - (limit - count) = min count limit := by omega
      have reached : column + count = column + min count limit := by omega
      have none : count - limit = 0 := by omega
      rw [passSpaces, few, reached, none]
      rfl

/-- There is no indentation before a character that is neither a space nor a tab. -/
theorem indentUpTo_of_dark {c : Char} (dark : c ≠ ' ' ∧ c ≠ '\t') (limit column : Nat)
    (rest : Text) :
    (⟨c :: rest, column, 0⟩ : Cursor).indentUpTo limit = (0, ⟨c :: rest, column, 0⟩) := by
  rw [indentUpTo_of_owed_eq_zero, passSpaces_of_dark dark, Nat.sub_self]

theorem indentUpTo_spaces_self (count column : Nat) (rest : Text) :
    (⟨spaces count ++ rest, column, 0⟩ : Cursor).indentUpTo count =
      (count, ⟨rest, column + count, 0⟩) := by
  rw [indentUpTo_of_owed_eq_zero, passSpaces_spaces, if_pos (Nat.le_refl count), Nat.sub_self]
  rfl

/-- Up to three spaces are all the indentation before a character that is none. -/
theorem indentUpTo_four {c : Char} (dark : c ≠ ' ' ∧ c ≠ '\t') {count : Nat} (few : count ≤ 3)
    (column : Nat) (rest : Text) :
    (⟨spaces count ++ c :: rest, column, 0⟩ : Cursor).indentUpTo 4 =
      (count, ⟨c :: rest, column + count, 0⟩) := by
  have enough : min count 4 = count := by omega
  have none : count - 4 = 0 := by omega
  rw [indentUpTo_spaces dark, enough, none]
  rfl

/-- Whatever margin a fence has, a tab behind at most three spaces reaches four columns if they are
counted from a tab stop. -/
private theorem indentUpTo_tab_behind_margin {margin count column : Nat} (small : margin ≤ 3)
    (few : count ≤ 3) (aligned : column % 4 = 0) (rest : Text) :
    (((⟨spaces count ++ '\t' :: rest, column, 0⟩ : Cursor).indentUpTo margin).2.indentUpTo
      (4 - margin)).1 = 4 - margin := by
  rw [indentUpTo_of_owed_eq_zero, passSpaces_spaces]
  split
  · next enough =>
      have outside : ¬ 4 - margin ≤ count - margin := by omega
      have wanting : 4 - margin - (count - margin) ≠ 0 := by omega
      have width : 4 - (column + margin + (count - margin)) % 4 =
          4 - margin - (count - margin) := by
        omega
      rw [indentUpTo_of_owed_eq_zero, passSpaces_spaces, if_neg outside, passSpaces_tab wanting,
        width, if_neg (by omega), Nat.sub_self, passSpaces_zero, Nat.sub_zero]
  · next short =>
      have wanting : margin - count ≠ 0 := by omega
      have partly : margin - count < 4 - (column + count) % 4 := by omega
      have owed : 4 - margin ≤ 4 - (column + count) % 4 - (margin - count) := by omega
      rw [passSpaces_tab wanting, if_pos partly, indentUpTo_of_le_owed owed]

/-- Behind the margin of a fence, fewer than four columns of indentation are left exactly where at
most three spaces stand before a mark. -/
theorem indentUpTo_behind_margin {margin count column : Nat} {c : Char} {rest : Text}
    {inner : Cursor} (small : margin ≤ 3) (noSpace : c ≠ ' ')
    (aligned : column % 4 = 0 ∨ c ≠ '\t')
    (behind : inner = ((⟨spaces count ++ c :: rest, column, 0⟩ : Cursor).indentUpTo margin).2) :
    ((inner.indentUpTo (4 - margin)).1 < 4 - margin ↔ count ≤ 3 ∧ c ≠ '\t') ∧
      (count ≤ 3 ∧ c ≠ '\t' → (inner.indentUpTo (4 - margin)).2.rest = c :: rest) := by
  subst behind
  by_cases isTab : c = '\t'
  · subst isTab
    refine ⟨iff_of_false ?_ (fun close => close.2 rfl), fun close => absurd rfl close.2⟩
    by_cases few : count ≤ 3
    · have stops := aligned.resolve_right (fun other => other rfl)
      rw [indentUpTo_tab_behind_margin small few stops]
      exact Nat.lt_irrefl _
    · have enough : margin ≤ count := by omega
      have full : 4 - margin ≤ count - margin := by omega
      rw [indentUpTo_of_owed_eq_zero, passSpaces_spaces, if_pos enough,
        indentUpTo_of_owed_eq_zero, passSpaces_spaces, if_pos full]
      exact Nat.lt_irrefl _
  · rw [indentUpTo_spaces ⟨noSpace, isTab⟩, indentUpTo_spaces ⟨noSpace, isTab⟩]
    constructor
    · simp only [isTab, ne_eq, not_false_eq_true, and_true]
      omega
    · intro close
      have none : count - margin - (4 - margin) = 0 := by omega
      simp only [none]
      rfl

/-- The same holds where nothing stands behind the spaces. -/
theorem indentUpTo_behind_margin_end {margin : Nat} (small : margin ≤ 3) (count column : Nat)
    {inner : Cursor} (behind : inner = ((⟨spaces count, column, 0⟩ : Cursor).indentUpTo margin).2) :
    ((inner.indentUpTo (4 - margin)).1 < 4 - margin ↔ count ≤ 3) ∧
      (count ≤ 3 → (inner.indentUpTo (4 - margin)).2.rest = []) := by
  subst behind
  rw [indentUpTo_spaces_end, indentUpTo_spaces_end]
  constructor
  · omega
  · intro few
    have none : count - margin - (4 - margin) = 0 := by omega
    simp only [none]
    rfl

end Cursor

end DocCheck.Markdown
