import DocCheck.Diagnostic.Scrub
import DocCheck.Proofs.Text.Basic
import DocCheck.Proofs.Text.Cut

/-!
Paths of block files in texts, up to the numbers in them. Two texts are alike if they differ in the
numbers of block files at most. Main statement: once block files are replaced by a label, texts that
are alike are equal.
-/

namespace DocCheck.BlockPath

/-! ## The names of block files -/

/-- A character of the names that are given to scratch directories. -/
def isNameChar (c : Char) : Bool :=
  c.isAlphanum || c = '-' || c = '_'

private theorem ne_of_isNameChar {c d : Char} (plain : isNameChar c = true)
    (outside : isNameChar d = false) : c ≠ d := by
  rintro rfl
  rw [plain] at outside
  cases outside

theorem isNameChar_of_isDigit {c : Char} (digit : c.isDigit = true) : isNameChar c = true := by
  simp [isNameChar, Char.isAlphanum, digit]

theorem toNat_lt_of_isNameChar {c : Char} (plain : isNameChar c = true) : c.toNat < 128 := by
  have upper : 'Z'.val.toNat = 90 := rfl
  have lower : 'z'.val.toNat = 122 := rfl
  have digit : '9'.val.toNat = 57 := rfl
  delta isNameChar Char.isAlphanum Char.isAlpha Char.isUpper Char.isLower Char.isDigit at plain
  simp only [Bool.or_eq_true, Bool.and_eq_true, decide_eq_true_eq, UInt32.le_iff_toNat_le] at plain
  rcases plain with (letterOrDigit | rfl) | rfl
  · rw [← Char.toNat_val]
    omega
  · decide
  · decide

/-- A name is not interrupted by what ends or separates directories. -/
private theorem passes_of_isNameChar {c : Char} (plain : isNameChar c = true) :
    isDelimiter c = false ∧ isSlash c = false :=
  Text.of_ascii (p := fun c => isDelimiter c = false ∧ isSlash c = false)
    (by decide) (toNat_lt_of_isNameChar plain) plain

/-- The name of the file of the block with a number of its own. -/
def fileName (id : Nat) : Text :=
  fileLead ++ Text.decimal id ++ fileEnding

theorem isDigit_of_mem_decimal {id : Nat} {c : Char} (member : c ∈ Text.decimal id) :
    c.isDigit = true :=
  Nat.isDigit_of_mem_toDigits (by decide) (by decide) member

/-- The digits of a number: ASCII digits, and at least one. -/
def IsNumber (digits : Text) : Prop :=
  digits ≠ [] ∧ ∀ c ∈ digits, c.isDigit = true

theorem isNumber_decimal (id : Nat) : IsNumber (Text.decimal id) :=
  ⟨Nat.toDigits_ne_nil, fun _ member => isDigit_of_mem_decimal member⟩

theorem isDigit_of_isNumber {digits : Text} (number : IsNumber digits) {c : Char}
    (member : c ∈ digits) : Text.isDigit c = true := by
  apply Text.isDigit_of_isAsciiDigit
  have digit := number.2 c member
  simpa [Char.isDigit, Text.isAsciiDigit, UInt32.le_iff_toNat_le] using digit

/-- A character that no name of a block file holds, and behind which no word goes on. -/
structure EndsFile (c : Char) : Prop where
  noLead : c ∉ fileLead
  noEnding : c ∉ fileEnding
  noDigit : Text.isDigit c = false
  noWord : Text.isWord c = false

private theorem endsFile_slash : EndsFile '/' where
  noLead := by decide
  noEnding := by decide
  noDigit := by decide
  noWord := by decide

/-- The name of a block file is read no further than to a character that ends it. -/
theorem afterFile?_append_cons {c : Char} (ends : EndsFile c) (text rest : Text) :
    afterFile? (text ++ c :: rest) = (afterFile? text).map (· ++ c :: rest) := by
  rw [afterFile?, afterFile?, Text.isPrefixOf?_append_cons ends.noLead]
  cases List.isPrefixOf? fileLead text with
  | none => rfl
  | some tail =>
      simp only [Option.map_some, Text.takeWhile_append_cons ends.noDigit,
        Text.dropWhile_append_cons ends.noDigit, Text.isPrefixOf?_append_cons ends.noEnding]
      split
      · rfl
      · cases List.isPrefixOf? fileEnding (tail.dropWhile Text.isDigit) with
        | none => rfl
        | some after =>
            have sameEnd : Text.endsWord (after ++ c :: rest).head? = Text.endsWord after.head? := by
              cases after with
              | nil => simp [Text.endsWord, ends.noWord]
              | cons first after => rfl
            rw [Option.map_some]
            dsimp only
            rw [sameEnd]
            split <;> rfl

/-! ## The names of directories -/

/-- A name that is told from what stands around it: it holds no delimiter and no slash, and it does
not begin with the name of a block file. -/
structure IsPlain (name : Text) : Prop where
  whole : '/' ∉ name
  undelimited : ∀ c ∈ name, isDelimiter c = false
  unnumbered : afterFile? name = none

theorem notMem_name {name : Text} (plain : ∀ c ∈ name, isNameChar c = true) {c : Char}
    (outside : isNameChar c = false) : c ∉ name :=
  fun member => ne_of_isNameChar (plain c member) outside rfl

theorem isPlain_of_isNameChar {name : Text} (plain : ∀ c ∈ name, isNameChar c = true) :
    IsPlain name where
  whole := notMem_name plain (by decide)
  undelimited := fun c member => (passes_of_isNameChar (plain c member)).1
  unnumbered := by
    rw [afterFile?]
    split
    · rfl
    next tail stripped =>
      have noEnding : List.isPrefixOf? fileEnding (tail.dropWhile Text.isDigit) = none := by
        cases found : List.isPrefixOf? fileEnding (tail.dropWhile Text.isDigit) with
        | none => rfl
        | some after =>
            have dot : '.' ∈ tail.dropWhile Text.isDigit := by
              rw [← List.append_eq_of_isPrefixOf?_eq_some found]
              exact List.mem_cons_self
            have member : '.' ∈ name := by
              rw [← List.append_eq_of_isPrefixOf?_eq_some stripped]
              exact List.mem_append_right _ ((List.dropWhile_suffix _).subset dot)
            exact absurd member (notMem_name plain (by decide))
      rw [noEnding, ite_self]

/-! ## Texts alike -/

/-- The path of a block file from the slash before the scratch directory on, with what follows. -/
def quoted (name digits rest : Text) : Text :=
  '/' :: (name ++ '/' :: (fileLead ++ (digits ++ (fileEnding ++ rest))))

/-- `Alike name left right` means that two texts differ at most in the numbers of block files in the
scratch directory of that name. -/
inductive Alike (name : Text) : Text → Text → Prop
  | nil : Alike name [] []
  | char {left right : Text} (c : Char) :
      Alike name left right → Alike name (c :: left) (c :: right)
  | path {left right digits digits' : Text} :
      IsNumber digits → IsNumber digits' → Text.endsWord left.head? = true →
      Alike name left right →
      Alike name (quoted name digits left) (quoted name digits' right)

namespace Alike

variable {name left right : Text}

theorem append_left (lead : Text) (alike : Alike name left right) :
    Alike name (lead ++ left) (lead ++ right) := by
  induction lead with
  | nil => exact alike
  | cons c lead inductionHypothesis => exact .char c inductionHypothesis

private theorem head?_eq (alike : Alike name left right) : left.head? = right.head? := by
  cases alike with
  | nil => rfl
  | char c alike => rfl
  | path number number' ends alike => rfl

/-- Reading a text without slashes stays outside the paths. -/
private theorem isPrefixOf? {lead : Text} (whole : '/' ∉ lead) (alike : Alike name left right) :
    Option.Rel (Alike name) (List.isPrefixOf? lead left) (List.isPrefixOf? lead right) := by
  induction lead generalizing left right with
  | nil => exact .some alike
  | cons first lead inductionHypothesis =>
      rw [List.mem_cons, not_or] at whole
      cases alike with
      | nil => exact .none
      | char c alike =>
          rw [List.isPrefixOf?, List.isPrefixOf?]
          split
          · exact inductionHypothesis whole.2 alike
          · exact .none
      | path number number' ends alike =>
          have noSlash : ¬ (first == '/') = true := fun same => whole.1 (beq_iff_eq.mp same).symm
          rw [quoted, quoted, List.isPrefixOf?, List.isPrefixOf?, if_neg noSlash, if_neg noSlash]
          exact .none

private theorem takeWhile_isDigit (alike : Alike name left right) :
    left.takeWhile Text.isDigit = right.takeWhile Text.isDigit := by
  induction alike with
  | nil => rfl
  | char c alike inductionHypothesis =>
      rw [List.takeWhile_cons, List.takeWhile_cons, inductionHypothesis]
  | path number number' ends alike => rfl

private theorem dropWhile_isDigit (alike : Alike name left right) :
    Alike name (left.dropWhile Text.isDigit) (right.dropWhile Text.isDigit) := by
  induction alike with
  | nil => exact .nil
  | char c alike inductionHypothesis =>
      rw [List.dropWhile_cons, List.dropWhile_cons]
      split
      · exact inductionHypothesis
      · exact .char c alike
  | path number number' ends alike => exact .path number number' ends alike

private theorem afterFile? (alike : Alike name left right) :
    Option.Rel (Alike name) (BlockPath.afterFile? left) (BlockPath.afterFile? right) := by
  have noSlash : '/' ∉ fileLead := by decide
  have lead := alike.isPrefixOf? noSlash
  rw [BlockPath.afterFile?, BlockPath.afterFile?]
  generalize List.isPrefixOf? fileLead left = rest, List.isPrefixOf? fileLead right = rest'
    at lead ⊢
  cases lead with
  | none => exact .none
  | @some rest rest' alike =>
      dsimp only
      rw [alike.takeWhile_isDigit]
      split
      · exact .none
      · have noSlash : '/' ∉ fileEnding := by decide
        have ending := alike.dropWhile_isDigit.isPrefixOf? noSlash
        generalize List.isPrefixOf? fileEnding (rest.dropWhile Text.isDigit) = after,
          List.isPrefixOf? fileEnding (rest'.dropWhile Text.isDigit) = after' at ending ⊢
        cases ending with
        | none => exact .none
        | some alike =>
            dsimp only
            rw [alike.head?_eq]
            split
            · exact .some alike
            · exact .none

end Alike

/-! ## What matches in texts alike -/

theorem afterFile?_file {digits rest : Text} (number : IsNumber digits)
    (ends : Text.endsWord rest.head? = true) :
    afterFile? (fileLead ++ (digits ++ (fileEnding ++ rest))) = some rest := by
  have noDigit : Text.isDigit '.' = false := by decide
  have taken : (digits ++ (fileEnding ++ rest)).takeWhile Text.isDigit = digits := by
    rw [List.takeWhile_append_of_pos fun c => isDigit_of_isNumber number]
    simp [fileEnding, noDigit]
  have left : (digits ++ (fileEnding ++ rest)).dropWhile Text.isDigit = fileEnding ++ rest := by
    rw [List.dropWhile_append_of_pos fun c => isDigit_of_isNumber number]
    simp [fileEnding, noDigit]
  have filled : digits.isEmpty = false := by simpa using number.1
  simp only [afterFile?, Text.isPrefixOf?_append, taken, left, filled, ends, Bool.false_eq_true,
    if_false, if_true]

/-- The path of a block file is read to its end. -/
theorem afterBlock?_quoted (name : Text) {digits rest : Text} (number : IsNumber digits)
    (ends : Text.endsWord rest.head? = true) :
    afterBlock? name (name ++ '/' :: (fileLead ++ (digits ++ (fileEnding ++ rest)))) =
      some rest := by
  have slash : isSlash '/' = true := by decide
  rw [afterBlock?, Text.isPrefixOf?_append]
  dsimp only
  rw [if_pos slash, afterFile?_file number ends]

private theorem forall_mem_file {property : Char → Prop} {digits : Text} (number : IsNumber digits)
    (lead : ∀ c ∈ fileLead, property c) (inDigits : ∀ c, c.isDigit = true → property c)
    (ending : ∀ c ∈ fileEnding, property c) :
    ∀ c ∈ fileLead ++ (digits ++ fileEnding), property c := by
  intro c member
  rcases List.mem_append.mp member with inLead | member
  · exact lead c inLead
  · rcases List.mem_append.mp member with isDigit | inEnding
    · exact inDigits c (number.2 c isDigit)
    · exact ending c inEnding

/-- Directories are passed over where nothing ends or separates them. -/
private theorem afterDirectories?_append (name : Text) {lead : Text}
    (passes : ∀ c ∈ lead, isDelimiter c = false ∧ isSlash c = false) (rest : Text) :
    afterDirectories? name (lead ++ rest) = afterDirectories? name rest := by
  induction lead with
  | nil => rfl
  | cons c lead inductionHypothesis =>
      have first := passes c List.mem_cons_self
      have others := inductionHypothesis fun c member => passes c (List.mem_cons_of_mem _ member)
      rw [List.cons_append, afterDirectories?, first.1, first.2, others]
      cases afterDirectories? name rest with
      | none => rfl
      | some after => rfl

/-- The name of a block file is passed over. -/
private theorem afterDirectories?_file (name : Text) {digits : Text} (number : IsNumber digits)
    (rest : Text) :
    afterDirectories? name (fileLead ++ (digits ++ (fileEnding ++ rest))) =
      afterDirectories? name rest := by
  have inFile : ∀ c ∈ fileLead ++ (digits ++ fileEnding),
      isDelimiter c = false ∧ isSlash c = false :=
    forall_mem_file number (Text.forall_mem_of_all (by decide))
      (fun c digit => passes_of_isNameChar (isNameChar_of_isDigit digit))
      (Text.forall_mem_of_all (by decide))
  have whole : fileLead ++ (digits ++ (fileEnding ++ rest)) =
      (fileLead ++ (digits ++ fileEnding)) ++ rest := by simp
  rw [whole, afterDirectories?_append name inFile]

section Name

variable {name : Text} (plain : IsPlain name)

include plain

/-- The directory is not taken for a block file. -/
private theorem afterFile?_name (rest : Text) : afterFile? (name ++ '/' :: rest) = none := by
  rw [afterFile?_append_cons endsFile_slash, plain.unnumbered]
  rfl

/-- The name of a block file does not begin with the scratch directory. -/
private theorem afterBlock?_file {digits rest : Text} (number : IsNumber digits)
    (ends : Text.endsWord rest.head? = true) :
    afterBlock? name (fileLead ++ (digits ++ (fileEnding ++ rest))) = none := by
  have inFile : ∀ c ∈ fileLead ++ (digits ++ fileEnding), isSlash c = false :=
    forall_mem_file number (Text.forall_mem_of_all (by decide))
      (fun c digit => (passes_of_isNameChar (isNameChar_of_isDigit digit)).2)
      (Text.forall_mem_of_all (by decide))
  rw [afterBlock?]
  split
  · next slash after stripped =>
      by_cases separates : isSlash slash = true
      · have equality : name ++ slash :: after = (fileLead ++ (digits ++ fileEnding)) ++ rest := by
          rw [List.append_eq_of_isPrefixOf?_eq_some stripped]
          simp
        -- The name ends within the file, which holds no slash, or it begins with the file.
        have begins : ∀ tail, Text.endsWord tail.head? = true →
            name ≠ (fileLead ++ (digits ++ fileEnding)) ++ tail := by
          intro tail ends isName
          have numbered := afterFile?_file number ends
          have same : fileLead ++ (digits ++ (fileEnding ++ tail)) = name := by
            rw [isName]
            simp
          rw [same, plain.unnumbered] at numbered
          cases numbered
        rcases List.append_eq_append_iff.mp equality with ⟨tail, file, behind⟩ |
          ⟨tail, isName, behind⟩
        · cases tail with
          | nil => exact absurd (by simpa using file.symm) (begins [] rfl)
          | cons c tail =>
              obtain ⟨rfl, _⟩ := List.cons.inj behind
              have member : slash ∈ fileLead ++ (digits ++ fileEnding) := by
                rw [file]
                simp
              rw [inFile slash member] at separates
              cases separates
        · cases tail with
          | nil => exact absurd isName (begins [] rfl)
          | cons c tail =>
              rw [behind] at ends
              exact absurd isName (begins (c :: tail) ends)
      · rw [if_neg separates]
  · rfl

/-- Within its own name the directory is not found again. -/
private theorem afterBlock?_of_shorter {tail : Text} (shorter : tail.length < name.length)
    (rest : Text) :
    afterBlock? name (tail ++ '/' :: rest) = none := by
  have missing : List.isPrefixOf? name (tail ++ '/' :: rest) = none := by
    refine Option.eq_none_iff_forall_ne_some.mpr fun after stripped => ?_
    rcases List.append_eq_append_iff.mp (List.append_eq_of_isPrefixOf?_eq_some stripped).symm with
      ⟨more, isName, behind⟩ | ⟨more, isTail, _⟩
    · cases more with
      | nil => simp [isName] at shorter
      | cons c more =>
          obtain ⟨rfl, _⟩ := List.cons.inj behind
          exact plain.whole (by simp [isName])
    · rw [isTail, List.length_append] at shorter
      omega
  rw [afterBlock?, missing]

/-- The name of the directory is passed over. -/
theorem afterDirectories?_name {tail : Text} (inName : tail <:+ name) (rest : Text) :
    afterDirectories? name (tail ++ '/' :: rest) = afterDirectories? name ('/' :: rest) := by
  induction tail with
  | nil => rfl
  | cons c tail inductionHypothesis =>
      have passes := plain.undelimited c (inName.subset List.mem_cons_self)
      have shorter : tail.length < name.length := inName.length_le
      rw [List.cons_append, afterDirectories?, passes,
        inductionHypothesis ((List.suffix_cons c tail).trans inName),
        afterBlock?_of_shorter plain shorter]
      cases afterDirectories? name ('/' :: rest) with
      | none => simp
      | some after => rfl

private theorem Alike.afterBlock? {left right : Text} (alike : Alike name left right) :
    Option.Rel (Alike name) (BlockPath.afterBlock? name left)
      (BlockPath.afterBlock? name right) := by
  have stripped := alike.isPrefixOf? plain.whole
  rw [BlockPath.afterBlock?, BlockPath.afterBlock?]
  generalize List.isPrefixOf? name left = rest, List.isPrefixOf? name right = rest' at stripped ⊢
  cases stripped with
  | none => exact .none
  | some alike =>
      cases alike with
      | nil => exact .none
      | char c alike =>
          dsimp only
          split
          · exact alike.afterFile?
          · exact .none
      | path number number' ends alike =>
          simp only [quoted, isSlash, afterFile?_name plain]
          exact .none

/-- The path of a block file is passed over from the slash before the file on. -/
theorem afterDirectories?_slash_file {digits rest : Text} (number : IsNumber digits)
    (ends : Text.endsWord rest.head? = true) :
    afterDirectories? name ('/' :: (fileLead ++ (digits ++ (fileEnding ++ rest)))) =
      afterDirectories? name rest := by
  have slash : isDelimiter '/' = false := by decide
  rw [afterDirectories?, slash, afterDirectories?_file name number, afterBlock?_file plain number ends]
  cases afterDirectories? name rest with
  | none => simp
  | some after => rfl

/-- Behind the path of a block file the search goes on, and without a later one it ends there. -/
theorem afterDirectories?_quoted {digits rest : Text} (number : IsNumber digits)
    (ends : Text.endsWord rest.head? = true) :
    afterDirectories? name (quoted name digits rest) =
      some ((afterDirectories? name rest).getD rest) := by
  have slash : isSlash '/' = true ∧ isDelimiter '/' = false := by decide
  rw [quoted, afterDirectories?, afterDirectories?_name plain (List.suffix_refl name),
    afterDirectories?_slash_file plain number ends, slash.1, slash.2,
    afterBlock?_quoted name number ends]
  cases afterDirectories? name rest with
  | none => rfl
  | some after => rfl

private theorem Alike.afterDirectories? {left right : Text} (alike : Alike name left right) :
    Option.Rel (Alike name) (BlockPath.afterDirectories? name left)
      (BlockPath.afterDirectories? name right) := by
  induction alike with
  | nil => exact .none
  | @char left right c alike inductionHypothesis =>
      rw [BlockPath.afterDirectories?, BlockPath.afterDirectories?]
      split
      · exact .none
      · generalize BlockPath.afterDirectories? name left = after,
          BlockPath.afterDirectories? name right = after' at inductionHypothesis ⊢
        cases inductionHypothesis with
        | some alike => exact .some alike
        | none =>
            dsimp only
            split
            · exact alike.afterBlock? plain
            · exact .none
  | @path left right digits digits' number number' ends alike inductionHypothesis =>
      rw [afterDirectories?_quoted plain number ends,
        afterDirectories?_quoted plain number' (alike.head?_eq ▸ ends)]
      generalize BlockPath.afterDirectories? name left = after,
        BlockPath.afterDirectories? name right = after' at inductionHypothesis ⊢
      cases inductionHypothesis with
      | some alike => exact .some alike
      | none => exact .some alike

private theorem Alike.pattern {left right : Text} (alike : Alike name left right)
    (before before' : Option Char) :
    (BlockPath.pattern name before left = none ∧ BlockPath.pattern name before' right = none) ∨
      ∃ after after', BlockPath.pattern name before left = some ((), after) ∧
        BlockPath.pattern name before' right = some ((), after') ∧ Alike name after after' := by
  have directories := alike.afterDirectories? plain
  have block := alike.afterBlock? plain
  rw [BlockPath.pattern, BlockPath.pattern]
  generalize BlockPath.afterDirectories? name left = after,
    BlockPath.afterDirectories? name right = after' at directories ⊢
  cases directories with
  | some alike => exact Or.inr ⟨_, _, rfl, rfl, alike⟩
  | none =>
      generalize BlockPath.afterBlock? name left = after,
        BlockPath.afterBlock? name right = after' at block ⊢
      cases block with
      | some alike => exact Or.inr ⟨_, _, rfl, rfl, alike⟩
      | none => exact Or.inl ⟨rfl, rfl⟩

end Name

/-! ## Replacement -/

private theorem exists_of_afterFile? {text after : Text} (found : afterFile? text = some after) :
    ∃ matched, matched ≠ [] ∧ text = matched ++ after := by
  rw [afterFile?] at found
  split at found
  · cases found
  next rest stripped =>
    split at found
    · cases found
    · split at found
      · cases found
      next behind ending =>
        split at found
        · cases found
          refine ⟨fileLead ++ (rest.takeWhile Text.isDigit ++ fileEnding), by simp [fileLead], ?_⟩
          rw [← List.append_eq_of_isPrefixOf?_eq_some stripped, List.append_assoc, List.append_assoc,
            List.append_eq_of_isPrefixOf?_eq_some ending, List.takeWhile_append_dropWhile]
        · cases found

private theorem exists_of_afterBlock? {name text after : Text}
    (found : afterBlock? name text = some after) :
    ∃ matched, matched ≠ [] ∧ text = matched ++ after := by
  rw [afterBlock?] at found
  split at found
  next slash rest stripped =>
    split at found
    · obtain ⟨matched, nonempty, rfl⟩ := exists_of_afterFile? found
      refine ⟨name ++ slash :: matched, by simp, ?_⟩
      rw [← List.append_eq_of_isPrefixOf?_eq_some stripped]
      simp
    · cases found
  · cases found

private theorem exists_of_afterDirectories? {name text after : Text}
    (found : afterDirectories? name text = some after) :
    ∃ matched, matched ≠ [] ∧ text = matched ++ after := by
  induction text with
  | nil => cases found
  | cons c rest inductionHypothesis =>
      rw [afterDirectories?] at found
      split at found
      · cases found
      · split at found
        next behind =>
          cases found
          obtain ⟨matched, nonempty, rfl⟩ := inductionHypothesis behind
          exact ⟨c :: matched, List.cons_ne_nil c matched, rfl⟩
        · split at found
          · obtain ⟨matched, nonempty, rfl⟩ := exists_of_afterBlock? found
            exact ⟨c :: matched, List.cons_ne_nil c matched, rfl⟩
          · cases found

theorem consumes_pattern (name : Text) : Text.Consumes (pattern name) := by
  intro before text value after found
  rw [pattern] at found
  split at found
  next directories =>
    cases found
    exact exists_of_afterDirectories? directories
  · obtain ⟨behind, block, pair⟩ := Option.map_eq_some_iff.mp found
    cases pair
    exact exists_of_afterBlock? block

/-- A search stops at the path of a block file at the latest, so it meets texts alike at texts
alike. -/
private theorem flatMap_segmentsFrom_of_alike {name : Text} (plain : IsPlain name)
    (replacement : Text) {left right : Text} (alike : Alike name left right)
    (before before' : Option Char) :
    (Text.segmentsFrom (pattern name) before 0 left).flatMap
        (Text.Segment.replaceWith fun _ _ => replacement) =
      (Text.segmentsFrom (pattern name) before' 0 right).flatMap
        (Text.Segment.replaceWith fun _ _ => replacement) := by
  -- The induction is on the length, for behind a match the search goes on further down.
  generalize size : left.length = length
  induction length using Nat.strongRecOn generalizing left right before before' with
  | ind length inductionHypothesis =>
  subst size
  rcases alike.pattern plain before before' with ⟨missing, missing'⟩ |
    ⟨after, after', found, found', behind⟩
  · cases alike with
    | nil => rw [Text.segmentsFrom, Text.segmentsFrom, if_pos rfl, if_pos rfl, missing, missing']
    | @char left right c alike =>
        have rest := inductionHypothesis left.length (Nat.lt_succ_self _) alike (some c) (some c)
          rfl
        rw [Text.segmentsFrom_of_none missing, Text.segmentsFrom_of_none missing',
          List.flatMap_cons, List.flatMap_cons, rest]
    | path number number' ends alike =>
        rw [pattern, afterDirectories?_quoted plain number ends] at missing
        cases missing
  · obtain ⟨matched, nonempty, rfl⟩ := consumes_pattern name found
    obtain ⟨matched', nonempty', rfl⟩ := consumes_pattern name found'
    have shorter : after.length < (matched ++ after).length := by
      have := List.length_pos_iff.mpr nonempty
      rw [List.length_append]
      omega
    have rest := inductionHypothesis after.length shorter behind matched.getLast? matched'.getLast?
      rfl
    rw [Text.segmentsFrom_of_match nonempty found, Text.segmentsFrom_of_match nonempty' found',
      List.flatMap_cons, List.flatMap_cons, rest]
    rfl

/-- Texts that are alike become equal once the paths of block files are replaced. -/
theorem replaceAll_eq_of_alike {name : Text} (plain : IsPlain name)
    (replacement : Text) {left right : Text} (alike : Alike name left right) :
    Text.replaceAll (pattern name) (fun _ _ => replacement) left =
      Text.replaceAll (pattern name) (fun _ _ => replacement) right :=
  flatMap_segmentsFrom_of_alike plain replacement alike none none

end DocCheck.BlockPath
