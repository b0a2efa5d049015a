import DocCheck.Snippet
import DocCheck.Proofs.Markdown.Line

/-!
Documents written passage by passage: blank lines, lines of prose and fenced code blocks. A passage
is written in one way only, and a code block carries the facts that keep its fences apart from its
code. What a document of passages has to offer for a list of languages is read off the passages.
-/

namespace DocCheck.Markdown

/-- A line that closes a fence: at most three spaces, the mark often enough, then only spaces. -/
def ClosesFence (mark : Char) (width : Nat) (line : Text) : Prop :=
  ∃ indent count after, indent ≤ 3 ∧ width ≤ count ∧
    line = spaces indent ++ (List.replicate count mark ++ spaces after)

theorem not_closesFence_of_mem {mark c : Char} {width : Nat} {line : Text} (member : c ∈ line)
    (other : c ≠ ' ' ∧ c ≠ mark) : ¬ ClosesFence mark width line := by
  rintro ⟨indent, count, after, _, _, rfl⟩
  rcases List.mem_append.mp member with front | back
  · exact other.1 (List.eq_of_mem_replicate front)
  · rcases List.mem_append.mp back with marks | behind
    · exact other.2 (List.eq_of_mem_replicate marks)
    · exact other.1 (List.eq_of_mem_replicate behind)

/-- A fenced code block to be written. -/
structure WrittenBlock where
  mark : Char
  width : Nat
  openIndent : Nat
  tag : Text
  /-- What is written behind the tag and a space, if anything is. -/
  attributes : Option Text
  /-- The lines of code. -/
  body : List Text
  closeIndent : Nat
  closeWidth : Nat
  closeSpaces : Nat
  mark_eq : mark = backtick ∨ mark = '~'
  three_le_width : 3 ≤ width
  openIndent_le : openIndent ≤ 3
  tag_ne_nil : tag ≠ []
  tag_alphanumeric : ∀ c ∈ tag, HtmlEnd.isAlphanumeric c = true
  attributes_line : ∀ text ∈ attributes, IsLine text
  attributes_unmarked : mark = backtick → ∀ text ∈ attributes, backtick ∉ text
  body_lines : ∀ line ∈ body, IsLine line
  body_open : ∀ line ∈ body, ¬ ClosesFence mark width line
  closeIndent_le : closeIndent ≤ 3
  width_le : width ≤ closeWidth

namespace WrittenBlock

/-- What is written behind the opening fence. -/
def info (block : WrittenBlock) : Text :=
  match block.attributes with
  | none => block.tag
  | some text => block.tag ++ ' ' :: text

/-- The opening fence and what is written behind it. -/
def opening (block : WrittenBlock) : Text :=
  List.replicate block.width block.mark ++ block.info

/-- The line of the closing fence. -/
def closing (block : WrittenBlock) : Text :=
  spaces block.closeIndent ++
    (List.replicate block.closeWidth block.mark ++ spaces block.closeSpaces)

/-- The lines of the block. -/
def lines (block : WrittenBlock) : List Text :=
  (spaces block.openIndent ++ block.opening) :: (block.body ++ [block.closing])

/-- The code of the block. -/
def code (block : WrittenBlock) : Text :=
  block.body.flatMap terminated

end WrittenBlock

/-- A line of prose: a letter, and then letters, digits and spaces. -/
structure Prose where
  first : Char
  rest : Text
  first_letter : Text.isAsciiLetter first = true
  rest_plain : ∀ c ∈ rest, HtmlEnd.isAlphanumeric c = true ∨ c = ' '

/-- A part of a document. -/
inductive Passage where
  /-- A line with nothing but so many spaces. -/
  | blank (indent : Nat)
  | prose (text : Prose)
  | fenced (block : WrittenBlock)

namespace Passage

/-- The lines of a passage. -/
def lines : Passage → List Text
  | blank indent => [spaces indent]
  | prose text => [text.first :: text.rest]
  | fenced block => block.lines

/-- The document that passages make up. -/
def document (passages : List Passage) : Text :=
  (passages.flatMap lines).flatMap terminated

/-- The code blocks among passages that are written in one of the languages. They are numbered
onwards from `index`, and the first passage begins on the given line. -/
def snippets (languages : List Text) (index line : Nat) : List Passage → List Snippet
  | [] => []
  | blank _ :: passages => snippets languages index (line + 1) passages
  | prose _ :: passages => snippets languages index (line + 1) passages
  | fenced block :: passages =>
      if languages.any (Text.equalIgnoringCase block.tag) then
        ⟨index, line, block.code⟩ ::
          snippets languages (index + 1) (line + block.lines.length) passages
      else snippets languages index (line + block.lines.length) passages

end Passage

/-! ## The characters of passages -/

private theorem toNat_of_isAlphanumeric {c : Char}
    (alphanumeric : HtmlEnd.isAlphanumeric c = true) :
    48 ≤ c.toNat ∧ c.toNat ≤ 122 ∧ isPunctuation c = false := by
  simp only [HtmlEnd.isAlphanumeric, Text.isAsciiLetter, Text.isAsciiDigit, Bool.or_eq_true,
    Bool.and_eq_true, decide_eq_true_eq] at alphanumeric
  refine ⟨by omega, by omega, ?_⟩
  simp only [isPunctuation, Bool.or_eq_false_iff, Bool.and_eq_false_iff, decide_eq_false_iff_not]
  omega

theorem ne_of_isAlphanumeric {c d : Char} (alphanumeric : HtmlEnd.isAlphanumeric c = true)
    (other : HtmlEnd.isAlphanumeric d = false) : c ≠ d := by
  rintro rfl
  rw [alphanumeric] at other
  cases other

theorem isWhite_of_isAlphanumeric {c : Char} (alphanumeric : HtmlEnd.isAlphanumeric c = true) :
    Text.isWhite c = false := by
  have range := toNat_of_isAlphanumeric alphanumeric
  have noSpace : c ≠ ' ' := ne_of_isAlphanumeric alphanumeric (by decide)
  have noWhite : ¬ (9 ≤ c.toNat ∧ c.toNat ≤ 13) := by omega
  have ascii : ¬ 128 ≤ c.toNat := by omega
  simp only [Text.isWhite, Text.isAsciiWhite, noSpace, ascii, decide_false, Bool.false_or,
    Bool.false_and, Bool.or_false, Bool.and_eq_false_iff, decide_eq_false_iff_not]
  omega

theorem isAsciiWhite_of_isAlphanumeric {c : Char} (alphanumeric : HtmlEnd.isAlphanumeric c = true) :
    Text.isAsciiWhite c = false := by
  rw [Bool.eq_false_iff]
  intro white
  have dark := isWhite_of_isAlphanumeric alphanumeric
  rw [Text.isWhite_of_isAsciiWhite white] at dark
  cases dark

theorem isInlineSpace_of_isAlphanumeric {c : Char}
    (alphanumeric : HtmlEnd.isAlphanumeric c = true) : isInlineSpace c = false := by
  have other (d : Char) : HtmlEnd.isAlphanumeric d = false → c ≠ d :=
    ne_of_isAlphanumeric alphanumeric
  simp [isInlineSpace, other ' ' (by decide), other '\t' (by decide),
    other '\x0b' (by decide), other '\x0c' (by decide)]

private theorem noBreak_of_isAlphanumeric {c : Char}
    (alphanumeric : HtmlEnd.isAlphanumeric c = true) :
    c ≠ '\n' ∧ c ≠ '\r' :=
  ⟨ne_of_isAlphanumeric alphanumeric (by decide), ne_of_isAlphanumeric alphanumeric (by decide)⟩

namespace WrittenBlock

variable (block : WrittenBlock)

private theorem not_isAlphanumeric_mark : HtmlEnd.isAlphanumeric block.mark = false := by
  rcases block.mark_eq with isMark | isMark <;> rw [isMark] <;> decide

theorem mark_ne_newline : block.mark ≠ '\n' ∧ block.mark ≠ '\r' ∧ block.mark ≠ ' ' := by
  rcases block.mark_eq with isMark | isMark <;> rw [isMark] <;> decide

theorem exists_tag_cons : ∃ c rest, block.tag = c :: rest ∧ HtmlEnd.isAlphanumeric c = true := by
  obtain ⟨c, rest, equality⟩ := List.exists_cons_of_ne_nil block.tag_ne_nil
  exact ⟨c, rest, equality, block.tag_alphanumeric c (by rw [equality]; exact List.mem_cons_self)⟩

theorem exists_info_eq : ∃ rest, block.info = block.tag ++ rest ∧
    (rest = [] ∨ rest.head? = some ' ') := by
  rw [info]
  cases block.attributes with
  | none => exact ⟨[], (List.append_nil _).symm, Or.inl rfl⟩
  | some text => exact ⟨' ' :: text, rfl, Or.inr rfl⟩

theorem isLine_info : IsLine block.info := by
  have tagLine : IsLine block.tag := fun c member =>
    noBreak_of_isAlphanumeric (block.tag_alphanumeric c member)
  rw [info]
  cases written : block.attributes with
  | none => exact tagLine
  | some text =>
      intro c member
      rcases List.mem_append.mp member with inTag | behind
      · exact tagLine c inTag
      · rcases List.mem_cons.mp behind with rfl | inText
        · decide
        · exact block.attributes_line text written c inText

theorem backtick_notMem_info (isBacktick : block.mark = backtick) : backtick ∉ block.info := by
  have notInTag : backtick ∉ block.tag := fun member =>
    absurd (block.tag_alphanumeric backtick member) (by decide)
  rw [info]
  cases written : block.attributes with
  | none => exact notInTag
  | some text =>
      intro member
      rcases List.mem_append.mp member with inTag | behind
      · exact notInTag inTag
      · rcases List.mem_cons.mp behind with isSpace | inText
        · exact absurd isSpace (by decide)
        · exact block.attributes_unmarked isBacktick text written inText

theorem head?_info_ne_mark : block.info.head? ≠ some block.mark := by
  obtain ⟨c, rest, isTag, alphanumeric⟩ := block.exists_tag_cons
  obtain ⟨behind, isInfo, _⟩ := block.exists_info_eq
  rw [isInfo, isTag]
  intro same
  exact ne_of_isAlphanumeric alphanumeric block.not_isAlphanumeric_mark (Option.some.inj same)

theorem isLine_opening : IsLine block.opening :=
  isLine_append (isLine_replicate ⟨block.mark_ne_newline.1, block.mark_ne_newline.2.1⟩ _)
    block.isLine_info

theorem isLine_closing : IsLine block.closing :=
  isLine_append (isLine_replicate (by decide) _)
    (isLine_append (isLine_replicate ⟨block.mark_ne_newline.1, block.mark_ne_newline.2.1⟩ _)
      (isLine_replicate (by decide) _))

end WrittenBlock

private theorem Prose.first_alphanumeric (prose : Prose) :
    HtmlEnd.isAlphanumeric prose.first = true := by
  rw [HtmlEnd.isAlphanumeric, prose.first_letter, Bool.true_or]

theorem Passage.isLine_of_mem_lines {passage : Passage} {line : Text}
    (member : line ∈ passage.lines) : IsLine line := by
  cases passage with
  | blank indent =>
      obtain rfl : line = spaces indent := List.mem_singleton.mp member
      exact isLine_replicate (by decide) indent
  | prose text =>
      obtain rfl : line = text.first :: text.rest := List.mem_singleton.mp member
      intro c inLine
      rcases List.mem_cons.mp inLine with rfl | inRest
      · exact noBreak_of_isAlphanumeric text.first_alphanumeric
      · rcases text.rest_plain c inRest with alphanumeric | rfl
        · exact noBreak_of_isAlphanumeric alphanumeric
        · decide
  | fenced block =>
      rw [lines, WrittenBlock.lines] at member
      rcases List.mem_cons.mp member with rfl | later
      · exact isLine_append (isLine_replicate (by decide) _) block.isLine_opening
      · rcases List.mem_append.mp later with inBody | isClosing
        · exact block.body_lines line inBody
        · rw [List.mem_singleton.mp isClosing]
          exact block.isLine_closing

end DocCheck.Markdown
