import DocCheck.Proofs.Markdown.Line
import DocCheck.Proofs.Text.Basic

/-!
Lines with their ends, in documents where a newline follows every carriage return. Main statements:
the lines that the reader goes by are the lines of the document, and lines that are put together
are read as the same lines again.
-/

namespace DocCheck.Markdown

/-! ## Lines and their ends -/

/-- A newline follows every carriage return. -/
def PairedReturns (document : Text) : Prop :=
  ∀ lead rest, document = lead ++ '\r' :: rest → rest.head? = some '\n'

/-- A line with its end: a newline, or a carriage return and a newline. -/
inductive IsEnded : Text → Prop
  | newline {line : Text} : IsLine line → IsEnded (line ++ ['\n'])
  | paired {line : Text} : IsLine line → IsEnded (line ++ ['\r', '\n'])

/-- All lines have ends, but for the last one, which need not have one. -/
def IsLines : List Text → Prop
  | [] => True
  | line :: rest => (IsEnded line ∨ IsLine line ∧ rest = []) ∧ IsLines rest

/-- What stands in a line without its end. -/
def withoutEnd (line : Text) : Text :=
  (Text.lines line).headD []

theorem isLine_nil : IsLine [] :=
  nofun

theorem IsLine.cons {c : Char} {line : Text} (noBreak : c ≠ '\n' ∧ c ≠ '\r') (isLine : IsLine line) :
    IsLine (c :: line) := by
  intro d member
  rcases List.mem_cons.mp member with rfl | later
  · exact noBreak
  · exact isLine d later

private theorem IsEnded.cons {c : Char} {line : Text} (noBreak : c ≠ '\n' ∧ c ≠ '\r')
    (isEnded : IsEnded line) : IsEnded (c :: line) := by
  cases isEnded with
  | newline isLine => exact .newline (isLine.cons noBreak)
  | paired isLine => exact .paired (isLine.cons noBreak)

private theorem IsLine.notMem {line : Text} (isLine : IsLine line) : '\n' ∉ line ∧ '\r' ∉ line :=
  ⟨fun member => (isLine '\n' member).1 rfl, fun member => (isLine '\r' member).2 rfl⟩

private theorem lines_append_newline {line : Text} (isLine : IsLine line) (rest : Text) :
    Text.lines (line ++ '\n' :: rest) = line :: Text.lines rest :=
  Text.lines_append_newline isLine.notMem.1
    (fun returned => isLine.notMem.2 (List.mem_of_getLast? returned)) rest

private theorem lines_append_paired {line : Text} (isLine : IsLine line) (rest : Text) :
    Text.lines (line ++ '\r' :: '\n' :: rest) = line :: Text.lines rest :=
  Text.lines_append_returned isLine.notMem.1 rest

theorem lines_of_isLine {line : Text} (isLine : IsLine line) (filled : line ≠ []) :
    Text.lines line = [line] := by
  induction line with
  | nil => exact absurd rfl filled
  | cons c line inductionHypothesis =>
      have noBreak := isLine c List.mem_cons_self
      have later : IsLine line := fun d member => isLine d (List.mem_cons_of_mem c member)
      rw [Text.lines]
      · cases line with
        | nil => rfl
        | cons d line => rw [inductionHypothesis later (List.cons_ne_nil d line)]
      · exact fun isNewline => absurd isNewline noBreak.1
      · exact fun _ isReturn => absurd isReturn noBreak.2

@[simp]
theorem withoutEnd_of_isLine {line : Text} (isLine : IsLine line) : withoutEnd line = line := by
  cases line with
  | nil => rfl
  | cons c line =>
      rw [withoutEnd, lines_of_isLine isLine (List.cons_ne_nil c line)]
      rfl

@[simp]
theorem withoutEnd_newline {line : Text} (isLine : IsLine line) :
    withoutEnd (line ++ ['\n']) = line := by
  rw [withoutEnd, lines_append_newline isLine]
  rfl

@[simp]
theorem withoutEnd_paired {line : Text} (isLine : IsLine line) :
    withoutEnd (line ++ ['\r', '\n']) = line := by
  rw [withoutEnd, lines_append_paired isLine]
  rfl

theorem IsEnded.lines_append {line : Text} (isEnded : IsEnded line) (rest : Text) :
    Text.lines (line ++ rest) = withoutEnd line :: Text.lines rest := by
  cases isEnded with
  | newline isLine =>
      rw [List.append_assoc, List.singleton_append, lines_append_newline isLine,
        withoutEnd_newline isLine]
  | paired isLine =>
      rw [List.append_assoc, List.cons_append, List.singleton_append, lines_append_paired isLine,
        withoutEnd_paired isLine]

theorem IsEnded.append {lead line : Text} (leadLine : IsLine lead) (isEnded : IsEnded line) :
    IsEnded (lead ++ line) ∧ withoutEnd (lead ++ line) = lead ++ withoutEnd line := by
  cases isEnded with
  | newline isLine =>
      have whole := isLine_append leadLine isLine
      rw [← List.append_assoc, withoutEnd_newline whole, withoutEnd_newline isLine]
      exact ⟨.newline whole, rfl⟩
  | paired isLine =>
      have whole := isLine_append leadLine isLine
      rw [← List.append_assoc, withoutEnd_paired whole, withoutEnd_paired isLine]
      exact ⟨.paired whole, rfl⟩

theorem IsEnded.exists_eq {line : Text} (isEnded : IsEnded line) :
    ∃ lead, line = lead ++ ['\n'] ∧ '\n' ∉ lead := by
  cases isEnded with
  | @newline line isLine => exact ⟨line, rfl, fun member => (isLine '\n' member).1 rfl⟩
  | @paired line isLine =>
      refine ⟨line ++ ['\r'], by rw [List.append_assoc]; rfl, fun member => ?_⟩
      rcases List.mem_append.mp member with inLine | isReturn
      · exact (isLine '\n' inLine).1 rfl
      · exact absurd (List.mem_singleton.mp isReturn) (by decide)

theorem IsLine.not_isEnded {line : Text} (isLine : IsLine line) : ¬ IsEnded line := by
  intro isEnded
  obtain ⟨lead, rfl, -⟩ := isEnded.exists_eq
  exact (isLine '\n' (by simp)).1 rfl

theorem IsEnded.head?_withoutEnd {line : Text} (isEnded : IsEnded line) :
    ∀ c ∈ (withoutEnd line).head?, line.head? = some c := by
  intro c first
  cases isEnded with
  | newline isLine =>
      rw [withoutEnd_newline isLine] at first
      rw [List.head?_append, first, Option.some_or]
  | paired isLine =>
      rw [withoutEnd_paired isLine] at first
      rw [List.head?_append, first, Option.some_or]

theorem IsEnded.endsWithNewline {line : Text} (isEnded : IsEnded line) :
    endsWithNewline line = true := by
  cases isEnded with
  | newline isLine => simp [Markdown.endsWithNewline]
  | paired isLine => simp [Markdown.endsWithNewline]

/-! ## Lines put together -/

theorem endsWithNewline_flatten {lines : List Text} (areEnded : ∀ line ∈ lines, IsEnded line) :
    lines.flatten = [] ∨ endsWithNewline lines.flatten = true := by
  rcases List.eq_nil_or_concat lines with rfl | ⟨before, last, rfl⟩
  · exact Or.inl rfl
  · right
    obtain ⟨lead, isLast, -⟩ := (areEnded last (by simp)).exists_eq
    rw [List.concat_eq_append, List.flatten_append, List.flatten_singleton, isLast,
      ← List.append_assoc]
    simp [endsWithNewline]

namespace IsLines

theorem of_append_right {lead lines : List Text} (areLines : IsLines (lead ++ lines)) :
    IsLines lines := by
  induction lead with
  | nil => exact areLines
  | cons line lead inductionHypothesis => exact inductionHypothesis areLines.2

theorem of_append_left {lines rest : List Text} (areLines : IsLines (lines ++ rest)) :
    IsLines lines := by
  induction lines with
  | nil => trivial
  | cons line lines inductionHypothesis =>
      refine ⟨?_, inductionHypothesis areLines.2⟩
      rcases areLines.1 with isEnded | ⟨isLine, none⟩
      · exact Or.inl isEnded
      · exact Or.inr ⟨isLine, (List.append_eq_nil_iff.mp none).1⟩

/-- Lines that more lines follow have ends. -/
theorem isEnded {lines rest : List Text} {next : Text}
    (areLines : IsLines (lines ++ next :: rest)) : ∀ line ∈ lines, IsEnded line := by
  induction lines with
  | nil => exact nofun
  | cons first lines inductionHypothesis =>
      intro line member
      rcases List.mem_cons.mp member with rfl | later
      · rcases areLines.1 with isEnded | ⟨_, none⟩
        · exact isEnded
        · simp at none
      · exact inductionHypothesis areLines.2 line later

theorem concat {lines : List Text} {last : Text} (areEnded : ∀ line ∈ lines, IsEnded line)
    (isLast : IsEnded last ∨ IsLine last) : IsLines (lines ++ [last]) := by
  induction lines with
  | nil => exact ⟨isLast.imp_right fun isLine => ⟨isLine, rfl⟩, trivial⟩
  | cons line lines inductionHypothesis =>
      exact ⟨Or.inl (areEnded line List.mem_cons_self),
        inductionHypothesis fun other member => areEnded other (List.mem_cons_of_mem line member)⟩

/-- Lines that are put together are read as the same lines again, but for an empty last one. -/
theorem isPrefix_lines_flatten {lines : List Text} (areLines : IsLines lines) :
    Text.lines lines.flatten <+: lines.map withoutEnd := by
  induction lines with
  | nil => exact List.prefix_refl _
  | cons line lines inductionHypothesis =>
      rcases areLines.1 with isEnded | ⟨isLine, rfl⟩
      · rw [List.flatten_cons, isEnded.lines_append, List.map_cons]
        exact List.cons_prefix_cons.mpr ⟨rfl, inductionHypothesis areLines.2⟩
      · rw [List.flatten_singleton, List.map_singleton, withoutEnd_of_isLine isLine]
        cases line with
        | nil => exact List.nil_prefix
        | cons c line =>
            exact ⟨[], by rw [lines_of_isLine isLine (List.cons_ne_nil c line), List.append_nil]⟩

private theorem lines_flatten {lines : List Text} (areLines : IsLines lines)
    (filled : ∀ line ∈ lines, line ≠ []) : Text.lines lines.flatten = lines.map withoutEnd := by
  induction lines with
  | nil => rfl
  | cons line lines inductionHypothesis =>
      rcases areLines.1 with isEnded | ⟨isLine, rfl⟩
      · rw [List.flatten_cons, isEnded.lines_append, List.map_cons,
          inductionHypothesis areLines.2 fun other member =>
            filled other (List.mem_cons_of_mem line member)]
      · rw [List.flatten_singleton, List.map_singleton, withoutEnd_of_isLine isLine,
          lines_of_isLine isLine (filled line List.mem_cons_self)]

end IsLines

/-! ## Lines of documents -/

private theorem PairedReturns.of_cons {c : Char} {document : Text}
    (paired : PairedReturns (c :: document)) :
    PairedReturns document :=
  fun lead rest whole => paired (c :: lead) rest (by rw [whole]; rfl)

private theorem pairedReturns_cons {c : Char} {document : Text} : PairedReturns (c :: document) ↔
    (c = '\r' → document.head? = some '\n') ∧ PairedReturns document := by
  constructor
  · intro paired
    exact ⟨fun isReturn => paired [] document (by rw [isReturn]; rfl), paired.of_cons⟩
  · rintro ⟨first, later⟩ lead rest whole
    cases lead with
    | nil =>
        obtain ⟨isReturn, rfl⟩ := List.cons.inj whole
        exact first isReturn
    | cons d lead => exact later lead rest (List.cons.inj whole).2

instance decidablePairedReturns : (document : Text) → Decidable (PairedReturns document)
  | [] => isTrue fun lead rest whole => by simp at whole
  | _ :: document =>
      have := decidablePairedReturns document
      decidable_of_iff _ pairedReturns_cons.symm

theorem isLines_splitLines {document : Text} (paired : PairedReturns document) :
    IsLines (splitLines document) ∧ ∀ line ∈ splitLines document, line ≠ [] := by
  fun_induction splitLines document with
  | case1 => exact ⟨trivial, by simp⟩
  | case2 rest inductionHypothesis =>
      obtain ⟨areLines, filled⟩ := inductionHypothesis paired.of_cons.of_cons
      refine ⟨⟨Or.inl (.paired isLine_nil), areLines⟩, ?_⟩
      simpa using filled
  | case3 rest alone _ =>
      have next := paired [] rest rfl
      obtain ⟨more, rfl⟩ : ∃ more, rest = '\n' :: more := by
        cases rest with
        | nil => cases next
        | cons c rest => exact ⟨rest, by rw [Option.some.inj next]⟩
      exact absurd rfl (alone more)
  | case4 rest inductionHypothesis =>
      obtain ⟨areLines, filled⟩ := inductionHypothesis paired.of_cons
      refine ⟨⟨Or.inl (.newline isLine_nil), areLines⟩, ?_⟩
      simpa using filled
  | case5 c rest _ noReturn noNewline none _ =>
      have isChar : IsLine [c] := isLine_nil.cons ⟨noNewline, noReturn⟩
      exact ⟨⟨Or.inr ⟨isChar, rfl⟩, trivial⟩, by simp⟩
  | case6 c rest _ noReturn noNewline line more lines inductionHypothesis =>
      have noBreak : c ≠ '\n' ∧ c ≠ '\r' := ⟨noNewline, noReturn⟩
      rw [lines] at inductionHypothesis
      obtain ⟨areLines, filled⟩ := inductionHypothesis paired.of_cons
      refine ⟨⟨?_, areLines.2⟩, ?_⟩
      · rcases areLines.1 with isEnded | ⟨isLine, isLast⟩
        · exact Or.inl (isEnded.cons noBreak)
        · exact Or.inr ⟨isLine.cons noBreak, isLast⟩
      · intro other member
        rcases List.mem_cons.mp member with rfl | later
        · exact List.cons_ne_nil _ _
        · exact filled other (List.mem_cons_of_mem line later)

/-- The reader goes by the lines of the document. -/
theorem lines_eq_map_splitLines {document : Text} (paired : PairedReturns document) :
    Text.lines document = (splitLines document).map withoutEnd := by
  obtain ⟨areLines, filled⟩ := isLines_splitLines paired
  rw [← areLines.lines_flatten filled, flatten_splitLines]

private theorem lines_ne_nil (c : Char) (text : Text) : Text.lines (c :: text) ≠ [] := by
  rw [Text.lines.eq_def]
  split
  · next none => cases none
  · exact List.cons_ne_nil _ _
  · exact List.cons_ne_nil _ _
  · split <;> exact List.cons_ne_nil _ _

/-- The lines up to a newline are lines of the whole. -/
theorem lines_prefix {lead text : Text} (ends : lead = [] ∨ endsWithNewline lead = true)
    (isPrefix : lead <+: text) : Text.lines lead <+: Text.lines text := by
  obtain ⟨rest, rfl⟩ := isPrefix
  refine ⟨Text.lines rest, ?_⟩
  have later : ∀ {c : Char} {tail : Text}, endsWithNewline (c :: tail) = true →
      tail = [] ∨ endsWithNewline tail = true := by
    intro c tail ends
    cases tail with
    | nil => exact Or.inl rfl
    | cons d tail => exact Or.inr (by simpa [endsWithNewline] using ends)
  fun_induction Text.lines lead with
  | case1 => rfl
  | case2 tail inductionHypothesis =>
      have whole : Text.lines ('\n' :: (tail ++ rest)) = [] :: Text.lines (tail ++ rest) := rfl
      rw [List.cons_append, List.cons_append, whole,
        inductionHypothesis (later (ends.resolve_left (List.cons_ne_nil _ _)))]
  | case3 tail inductionHypothesis =>
      have whole : Text.lines ('\r' :: '\n' :: (tail ++ rest)) = [] :: Text.lines (tail ++ rest) := rfl
      have inner := (later (ends.resolve_left (List.cons_ne_nil _ _))).resolve_left
        (List.cons_ne_nil _ _)
      rw [List.cons_append, List.cons_append, List.cons_append, whole,
        inductionHypothesis (later inner)]
  | case4 c tail noNewline noReturn none _ =>
      cases tail with
      | nil =>
          have isNewline : c = '\n' := by simpa [endsWithNewline] using ends
          exact absurd isNewline noNewline
      | cons d tail => exact absurd none (lines_ne_nil d tail)
  | case5 c tail noNewline noReturn line more known inductionHypothesis =>
      cases tail with
      | nil => cases known
      | cons d tail =>
          have whole := inductionHypothesis (later (ends.resolve_left (List.cons_ne_nil _ _)))
          rw [List.cons_append, known, List.cons_append] at whole
          rw [List.cons_append, List.cons_append, List.cons_append, Text.lines, ← whole]
          · exact noNewline
          · intro other isReturn same
            exact noReturn tail isReturn (by rw [(List.cons.inj same).1])

end DocCheck.Markdown
