import DocCheck.Proofs.Diagnostic.Relabelling

/-!
Texts in which paths of block files stand among pieces of other text. Main statement: where delimiters
set the paths off and nothing else looks like the beginning of one, exactly the paths are replaced, in
every text of a diagnostic.
-/

namespace DocCheck

namespace BlockPath

/-! ## Where a block file may begin -/

/-- The text begins with the name of the directory, a slash and the lead of a block file. -/
def beginsBlock (name text : Text) : Bool :=
  match List.isPrefixOf? name text with
  | some (slash :: rest) => isSlash slash && List.isPrefixOf fileLead rest
  | _ => false

/-- How often the name, a slash and the lead of a block file stand in the text. -/
def countBlocks (name : Text) : Text → Nat
  | [] => 0
  | c :: rest => (if beginsBlock name (c :: rest) then 1 else 0) + countBlocks name rest

private theorem beginsBlock_iff {name text : Text} :
    beginsBlock name text = true ↔
      ∃ slash rest, isSlash slash = true ∧ text = name ++ slash :: (fileLead ++ rest) := by
  constructor
  · intro begins
    rw [beginsBlock] at begins
    split at begins
    · next slash rest stripped =>
        rw [Bool.and_eq_true, List.isPrefixOf_iff_prefix] at begins
        obtain ⟨slashed, behind, led⟩ := begins
        refine ⟨slash, behind, slashed, ?_⟩
        rw [← List.append_eq_of_isPrefixOf?_eq_some stripped, led]
    · cases begins
  · rintro ⟨slash, rest, slashed, rfl⟩
    have led : fileLead.isPrefixOf (fileLead ++ rest) = true :=
      List.isPrefixOf_iff_prefix.mpr (List.prefix_append fileLead rest)
    simp only [beginsBlock, Text.isPrefixOf?_append, slashed, led, Bool.and_self]

private theorem beginsBlock_append {name text : Text} (begins : beginsBlock name text = true)
    (rest : Text) :
    beginsBlock name (text ++ rest) = true := by
  obtain ⟨slash, behind, slashed, rfl⟩ := beginsBlock_iff.mp begins
  exact beginsBlock_iff.mpr ⟨slash, behind ++ rest, slashed, by simp⟩

/-- What a block file may begin at in one of two parts, it may begin at in the whole. -/
private theorem countBlocks_append (name front back : Text) :
    countBlocks name front + countBlocks name back ≤ countBlocks name (front ++ back) := by
  induction front with
  | nil => exact Nat.le_of_eq (Nat.zero_add _)
  | cons c front inductionHypothesis =>
      rw [List.cons_append, countBlocks, countBlocks]
      by_cases begins : beginsBlock name (c :: front) = true
      · have still : beginsBlock name (c :: (front ++ back)) = true :=
          beginsBlock_append begins back
        rw [if_pos begins, if_pos still]
        omega
      · rw [if_neg begins]
        omega

private theorem countBlocks_cons_of_begins {name rest : Text} {c : Char}
    (begins : beginsBlock name (c :: rest) = true) :
    countBlocks name (c :: rest) = countBlocks name rest + 1 := by
  rw [countBlocks, if_pos begins, Nat.add_comm]

private theorem beginsBlock_eq_false {name text : Text} (uncounted : countBlocks name text = 0) :
    beginsBlock name text = false := by
  refine Bool.eq_false_iff.mpr fun begins => ?_
  cases text with
  | nil =>
      obtain ⟨slash, rest, _, empty⟩ := beginsBlock_iff.mp begins
      simp at empty
  | cons c rest =>
      rw [countBlocks_cons_of_begins begins] at uncounted
      cases uncounted

/-! ## Texts without block files -/

private theorem beginsBlock_of_afterBlock? {name text after : Text}
    (found : afterBlock? name text = some after) : beginsBlock name text = true := by
  rw [afterBlock?] at found
  split at found
  · next slash rest stripped =>
      split at found
      · next slashed =>
          rw [afterFile?] at found
          split at found
          · cases found
          · next behind led =>
              refine beginsBlock_iff.mpr ⟨slash, behind, slashed, ?_⟩
              rw [← List.append_eq_of_isPrefixOf?_eq_some stripped,
                ← List.append_eq_of_isPrefixOf?_eq_some led]
      · cases found
  · cases found

private theorem afterBlock?_of_uncounted {name text : Text}
    (uncounted : countBlocks name text = 0) :
    afterBlock? name text = none := by
  refine Option.eq_none_iff_forall_ne_some.mpr fun after found => ?_
  have begins := beginsBlock_of_afterBlock? found
  rw [beginsBlock_eq_false uncounted] at begins
  cases begins

/-- Behind a directory, at least one character further on, no block file begins. -/
private theorem afterDirectories?_of_uncounted {name : Text} {c : Char} {rest : Text}
    (uncounted : countBlocks name rest = 0) : afterDirectories? name (c :: rest) = none := by
  have none : afterDirectories? name rest = none := by
    cases rest with
    | nil => rfl
    | cons d rest =>
        rw [countBlocks] at uncounted
        exact afterDirectories?_of_uncounted (Nat.eq_zero_of_add_eq_zero uncounted).2
  rw [afterDirectories?, none, afterBlock?_of_uncounted uncounted]
  split
  · rfl
  · exact ite_self _

private theorem pattern_of_uncounted {name text : Text} (uncounted : countBlocks name text = 0)
    (before : Option Char) : pattern name before text = none := by
  have directories : afterDirectories? name text = none := by
    cases text with
    | nil => rfl
    | cons c rest =>
        rw [countBlocks] at uncounted
        exact afterDirectories?_of_uncounted (Nat.eq_zero_of_add_eq_zero uncounted).2
  rw [pattern, directories, afterBlock?_of_uncounted uncounted]
  rfl

/-- Nothing is replaced where no block file begins. -/
private theorem relabel_of_uncounted {name text : Text} (uncounted : countBlocks name text = 0)
    (label : Text) : relabel name label text = text := by
  have plain : ∀ before, Text.segmentsFrom (pattern name) before 0 text =
      text.map Text.Segment.plain := by
    induction text with
    | nil =>
        intro before
        rw [Text.segmentsFrom, if_pos rfl, pattern_of_uncounted uncounted]
        rfl
    | cons c rest inductionHypothesis =>
        intro before
        have later := uncounted
        rw [countBlocks] at later
        rw [Text.segmentsFrom_of_none (pattern_of_uncounted uncounted before),
          inductionHypothesis (Nat.eq_zero_of_add_eq_zero later).2]
        rfl
  rw [relabel, Text.replaceAll, Text.segments, plain none, List.flatMap_map]
  exact List.flatMap_singleton' text

/-! ## Paths in a text -/

/-- The path of a block file in a directory of the given name, as a text may have it: behind a
directory or not, and with slashes of either kind. -/
structure Token (name : Text) where
  directory : Text
  slash : Char
  digits : Text
  undelimited : ∀ c ∈ directory, isDelimiter c = false
  closed : ∀ c ∈ directory.getLast?, isSlash c = true
  slashed : isSlash slash = true
  number : IsNumber digits

namespace Token

variable {name : Text}

/-- A path that begins with the name of the scratch directory. -/
def bare (slash : Char) (digits : Text) (slashed : isSlash slash = true) (number : IsNumber digits) :
    Token name where
  directory := []
  slash := slash
  digits := digits
  undelimited := fun _ member => nomatch member
  closed := fun _ last => nomatch last
  slashed := slashed
  number := number

/-- The path from the name of the scratch directory on. -/
def file (token : Token name) : Text :=
  name ++ token.slash :: (fileLead ++ (token.digits ++ fileEnding))

def text (token : Token name) : Text :=
  token.directory ++ token.file

variable (token : Token name)

private theorem beginsBlock_file (rest : Text) : beginsBlock name (token.file ++ rest) = true :=
  beginsBlock_iff.mpr ⟨token.slash, token.digits ++ (fileEnding ++ rest), token.slashed,
    by simp [file]⟩

private theorem exists_file_eq (rest : Text) : ∃ c more, token.file ++ rest = c :: more := by
  cases whole : token.file ++ rest with
  | nil => simp [file] at whole
  | cons c more => exact ⟨c, more, rfl⟩

private theorem countBlocks_text (rest : Text) : 1 ≤ countBlocks name (token.text ++ rest) := by
  obtain ⟨c, more, whole⟩ := token.exists_file_eq rest
  have begins := token.beginsBlock_file rest
  rw [whole] at begins
  have parts := countBlocks_append name token.directory (c :: more)
  rw [countBlocks_cons_of_begins begins] at parts
  rw [text, List.append_assoc, whole]
  omega

private theorem afterBlock?_file {rest : Text} (ends : Text.endsWord rest.head? = true) :
    afterBlock? name (token.file ++ rest) = some rest := by
  have whole : token.file ++ rest =
      name ++ token.slash :: (fileLead ++ (token.digits ++ (fileEnding ++ rest))) := by
    simp [file]
  rw [whole, afterBlock?, Text.isPrefixOf?_append]
  dsimp only
  rw [if_pos token.slashed, afterFile?_file token.number ends]

/-- A path matches as a whole if no other one begins in it or behind it. -/
theorem pattern_text {rest : Text} (ends : Text.endsWord rest.head? = true)
    (once : countBlocks name (token.text ++ rest) = 1) (before : Option Char) :
    pattern name before (token.text ++ rest) = some ((), rest) := by
  have file := token.afterBlock?_file ends
  have nested : afterDirectories? name (token.file ++ rest) = none := by
    obtain ⟨c, more, whole⟩ := token.exists_file_eq rest
    have begins := token.beginsBlock_file rest
    have parts := countBlocks_append name token.directory (token.file ++ rest)
    rw [text, List.append_assoc] at once
    rw [whole] at begins parts once ⊢
    rw [countBlocks_cons_of_begins begins] at parts
    exact afterDirectories?_of_uncounted (by omega)
  rw [text, List.append_assoc]
  rcases List.eq_nil_or_concat token.directory with empty | ⟨lead, last, isDirectory⟩
  · rw [empty, List.nil_append, pattern, nested, file]
    rfl
  · rw [List.concat_eq_append] at isDirectory
    have slashed : isSlash last = true := token.closed last (by rw [isDirectory]; simp)
    have undelimited := token.undelimited
    rw [isDirectory] at undelimited
    have passes : isDelimiter last = false := undelimited last (by simp)
    have inside : afterDirectories? name (last :: (token.file ++ rest)) = some rest := by
      rw [afterDirectories?, nested, file, passes, slashed]
      rfl
    have found := afterDirectories?_append_of_some
      (fun c member => undelimited c (List.mem_append_left _ member)) inside
    rw [isDirectory, List.append_assoc, List.singleton_append, pattern, found]

private theorem relabel_text {rest : Text} (ends : Text.endsWord rest.head? = true)
    (once : countBlocks name (token.text ++ rest) = 1) (label : Text) :
    relabel name label (token.text ++ rest) = label ++ rest := by
  have filled : token.text ≠ [] := by simp [text, file]
  have parts := countBlocks_append name token.text rest
  have first := token.countBlocks_text []
  rw [List.append_nil] at first
  have behind : relabel name label rest = rest := relabel_of_uncounted (by omega) label
  rw [relabel, Text.replaceAll, Text.segments,
    Text.segmentsFrom_of_match filled (token.pattern_text ends once none),
    segmentsFrom_pattern name _ none]
  exact congrArg (label ++ ·) behind

end Token

/-! ## Paths among other text -/

/-- The last character of the text sets off what follows it. -/
def EndsInDelimiter (text : Text) : Prop :=
  ∃ lead d, text = lead ++ [d] ∧ isDelimiter d = true

/-- Paths, each with the text up to the next one. No word goes on behind a path, and a delimiter stands
before the next path. -/
def AreSetOff {name : Text} : List (Token name × Text) → Prop
  | [] => True
  | (_, piece) :: parts =>
      Text.endsWord piece.head? = true ∧ (parts ≠ [] → EndsInDelimiter piece) ∧ AreSetOff parts

/-- The text with something in place of every path. -/
def fillIn {name : Text} (shown : Token name → Text) (parts : List (Token name × Text)) : Text :=
  parts.flatMap fun part => shown part.1 ++ part.2

/-- A text in which paths of block files stand among other text and begin nowhere else. -/
structure Passage (name : Text) where
  lead : Text
  parts : List (Token name × Text)
  begins : parts ≠ [] → lead = [] ∨ EndsInDelimiter lead
  setOff : AreSetOff parts
  once : countBlocks name (lead ++ fillIn Token.text parts) = parts.length

namespace Passage

variable {name : Text}

def text (passage : Passage name) : Text :=
  passage.lead ++ fillIn Token.text passage.parts

/-- The text with a label in place of every path. -/
def labelled (label : Text) (passage : Passage name) : Text :=
  passage.lead ++ fillIn (fun _ => label) passage.parts

/-- A text without paths. -/
def plain (text : Text) (uncounted : countBlocks name text = 0) : Passage name where
  lead := text
  parts := []
  begins := fun filled => absurd rfl filled
  setOff := trivial
  once := by
    have whole : text ++ fillIn Token.text ([] : List (Token name × Text)) = text :=
      List.append_nil text
    rw [whole, uncounted]
    rfl

end Passage

private theorem length_le_countBlocks {name : Text} (parts : List (Token name × Text)) :
    parts.length ≤ countBlocks name (fillIn Token.text parts) := by
  induction parts with
  | nil => exact Nat.zero_le _
  | cons part parts inductionHypothesis =>
      have front := part.1.countBlocks_text part.2
      have both := countBlocks_append name (part.1.text ++ part.2) (fillIn Token.text parts)
      have whole : fillIn Token.text (part :: parts) =
          part.1.text ++ part.2 ++ fillIn Token.text parts := List.flatMap_cons
      rw [whole, List.length_cons]
      omega

section Delimited

variable {name : Text} (undelimited : ∀ c ∈ name, isDelimiter c = false) (label : Text)

include undelimited

private theorem relabel_fillIn {parts : List (Token name × Text)} (setOff : AreSetOff parts)
    (once : countBlocks name (fillIn Token.text parts) = parts.length) :
    relabel name label (fillIn Token.text parts) = fillIn (fun _ => label) parts := by
  induction parts with
  | nil => exact relabel_nil name label
  | cons part parts inductionHypothesis =>
      obtain ⟨token, piece⟩ := part
      obtain ⟨ends, sets, setOffRest⟩ := setOff
      have split (shown : Token name → Text) : fillIn shown ((token, piece) :: parts) =
          shown token ++ piece ++ fillIn shown parts := List.flatMap_cons
      -- No part of the text has more beginnings of block files than it has paths.
      have first := token.countBlocks_text piece
      have later := length_le_countBlocks parts
      have both := countBlocks_append name (token.text ++ piece) (fillIn Token.text parts)
      rw [split, List.length_cons] at once
      have others := inductionHypothesis setOffRest (by omega)
      rw [split, split]
      by_cases last : parts = []
      · subst last
        have empty (shown : Token name → Text) : fillIn shown [] = [] := rfl
        rw [empty, empty, List.append_nil, List.append_nil, token.relabel_text ends (by omega)]
      · obtain ⟨lead, d, rfl, delimits⟩ := sets last
        have fewer := countBlocks_append name (token.text ++ lead) [d]
        have least := token.countBlocks_text lead
        have endsLead : Text.endsWord lead.head? = true := by
          cases lead with
          | nil => rfl
          | cons c lead => exact ends
        rw [List.append_assoc] at fewer
        have whole (front rest : Text) :
            front ++ (lead ++ [d]) ++ rest = front ++ lead ++ d :: rest := by
          simp
        rw [whole, whole, relabel_append_delimiter undelimited label _ delimits, others,
          token.relabel_text endsLead (by omega)]

/-- Every path is replaced, and every other piece of the text is kept. -/
theorem Passage.relabel_text (passage : Passage name) :
    relabel name label passage.text = passage.labelled label := by
  have later := length_le_countBlocks passage.parts
  have both := countBlocks_append name passage.lead (fillIn Token.text passage.parts)
  have once := passage.once
  have uncounted : countBlocks name passage.lead = 0 := by omega
  have paths := relabel_fillIn undelimited label passage.setOff (by omega)
  have fillIn_nil (shown : Token name → Text) (none : passage.parts = []) :
      fillIn shown passage.parts = [] := by
    rw [none]
    rfl
  rw [text, labelled]
  by_cases none : passage.parts = []
  · rw [fillIn_nil _ none, fillIn_nil _ none, List.append_nil, relabel_of_uncounted uncounted]
  · rcases passage.begins none with empty | ⟨lead, d, isLead, delimits⟩
    · rw [empty, List.nil_append, List.nil_append, paths]
    · have fewer := countBlocks_append name lead [d]
      rw [isLead] at uncounted
      have unchanged : relabel name label lead = lead := relabel_of_uncounted (by omega) label
      rw [isLead, List.append_assoc, List.singleton_append,
        relabel_append_delimiter undelimited label _ delimits, unchanged, paths, List.append_assoc,
        List.singleton_append]

end Delimited

end BlockPath

namespace Diagnostic

open BlockPath

/-- A diagnostic with a passage for every text. -/
structure OfPassages (name : Text) where
  kind : DiagnosticKind
  message : Passage name
  detail : Passage name
  /-- The files of the positions, with lines and columns. -/
  positions : List (Passage name × Nat × Nat)
  codes : List (Passage name)
  extra : List (Text × Passage name)

/-- The diagnostic whose texts the passages are shown as. -/
def OfPassages.diagnostic {name : Text} (passages : OfPassages name) (shown : Passage name → Text) :
    Diagnostic where
  kind := passages.kind
  message := shown passages.message
  detail := shown passages.detail
  positions := passages.positions.map fun position => ⟨shown position.1, position.2.1, position.2.2⟩
  codes := passages.codes.map shown
  extra := passages.extra.map fun field => (field.1, shown field.2)

/-- Scrubbing puts the label, whatever it is, in place of exactly the paths of block files, in the
message, the detail, the files of the positions, the codes and the further fields, and changes nothing
else. -/
theorem scrub_passages (scratch : ScratchDir)
    (undelimited : ∀ c ∈ scratch.name, isDelimiter c = false) (label : Text)
    (passages : OfPassages scratch.name) :
    (passages.diagnostic Passage.text).scrub scratch.blockPattern label =
      passages.diagnostic (Passage.labelled label) := by
  have replaced (passage : Passage scratch.name) :
      Text.replaceAll scratch.blockPattern (fun _ _ => label) passage.text =
        passage.labelled label := passage.relabel_text undelimited label
  simp only [scrub, mapTexts, OfPassages.diagnostic, List.map_map, Function.comp_def, replaced]

/-- Paths with slashes of both kinds in a directory with signs in its name, and a text that only
resembles one. -/
def OfPassages.withSigns : OfPassages "docs.t+p".toList where
  kind := .typeCheck
  message := .plain "not in docsxt+p/block-12.ts".toList (by decide)
  detail :=
    { lead := []
      parts :=
        [({ directory := "C:\\w\\".toList
            slash := '\\'
            digits := "12".toList
            undelimited := Text.forall_mem_of_all (by decide)
            closed := fun _ last => by cases last; rfl
            slashed := rfl
            number := ⟨by decide, Text.forall_mem_of_all (by decide)⟩ },
            "(1,2): error '".toList),
          (.bare '/' "3".toList rfl ⟨by decide, Text.forall_mem_of_all (by decide)⟩, ['\''])]
      begins := fun _ => Or.inl rfl
      setOff := ⟨by decide, fun _ => ⟨"(1,2): error ".toList, '\'', rfl, by decide⟩,
        by decide, fun more => absurd rfl more, trivial⟩
      once := by decide }
  positions :=
    [({ lead := []
        parts := [(.bare '/' "12".toList rfl ⟨by decide, Text.forall_mem_of_all (by decide)⟩, [])]
        begins := fun _ => Or.inl rfl
        setOff := ⟨by decide, fun more => absurd rfl more, trivial⟩
        once := by decide }, 1, 2)]
  codes := [.plain "TS2304".toList (by decide)]
  extra :=
    [("stderr".toList,
      { lead := "see ".toList
        parts :=
          [({ directory := "./".toList
              slash := '/'
              digits := "12".toList
              undelimited := Text.forall_mem_of_all (by decide)
              closed := fun _ last => by cases last; rfl
              slashed := rfl
              number := ⟨by decide, Text.forall_mem_of_all (by decide)⟩ },
            ":1:2".toList)]
        begins := fun _ => Or.inr ⟨"see".toList, ' ', rfl, by decide⟩
        setOff := ⟨by decide, fun more => absurd rfl more, trivial⟩
        once := by decide })]

theorem scrub_passages_with_signs :
    let scratch : ScratchDir := ⟨"docs.t+p".toList, "./docs.t+p".toList⟩
    let label := "$1.md → Code Block 4".toList
    let diagnostic := OfPassages.withSigns.diagnostic Passage.text
    (∀ c ∈ scratch.name, isDelimiter c = false) ∧
      diagnostic =
        ⟨.typeCheck, "not in docsxt+p/block-12.ts".toList,
          "C:\\w\\docs.t+p\\block-12.ts(1,2): error 'docs.t+p/block-3.ts'".toList,
          [⟨"docs.t+p/block-12.ts".toList, 1, 2⟩], ["TS2304".toList],
          [("stderr".toList, "see ./docs.t+p/block-12.ts:1:2".toList)]⟩ ∧
      diagnostic.scrub scratch.blockPattern label =
        ⟨.typeCheck, "not in docsxt+p/block-12.ts".toList,
          "$1.md → Code Block 4(1,2): error '$1.md → Code Block 4'".toList,
          [⟨"$1.md → Code Block 4".toList, 1, 2⟩], ["TS2304".toList],
          [("stderr".toList, "see $1.md → Code Block 4:1:2".toList)]⟩ := by
  intro scratch label diagnostic
  have undelimited : ∀ c ∈ scratch.name, isDelimiter c = false :=
    Text.forall_mem_of_all (by decide)
  have scrubbed := scrub_passages scratch undelimited label OfPassages.withSigns
  exact ⟨undelimited, by decide +kernel, scrubbed.trans (by decide +kernel)⟩

end Diagnostic

end DocCheck
