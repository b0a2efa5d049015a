import DocCheck.Proofs.Diagnostic.BlockPath

/-!
Delimiters around the paths of block files. No match crosses one, so a text is replaced piece by
piece. Main statements: a path without delimiters is replaced as a whole, whatever directories it
leads through, and of a path with delimiters all is left up to the last of them.
-/

namespace DocCheck

private theorem Text.inRanges_eq_false_of_apart {left right : List CodePointRange} {codePoint : Nat}
    (apart : (left.all fun range => right.all fun other =>
      decide (range.2 < other.1) || decide (other.2 < range.1)) = true)
    (member : inRanges left codePoint = true) : inRanges right codePoint = false := by
  obtain ⟨range, inLeft, within⟩ := List.any_eq_true.mp member
  refine Bool.eq_false_iff.mpr fun inRight => ?_
  obtain ⟨other, isOther, within'⟩ := List.any_eq_true.mp inRight
  have disjoint := List.all_eq_true.mp (List.all_eq_true.mp apart range inLeft) other isOther
  simp only [Bool.and_eq_true, Bool.or_eq_true, decide_eq_true_eq] at within within' disjoint
  omega

namespace BlockPath

/-! ## Delimiters -/

/-- A delimiter is no slash, no digit and no character of a word. -/
theorem passes_of_isDelimiter {c : Char} (delimits : isDelimiter c = true) :
    isSlash c = false ∧ Text.isDigit c = false ∧ Text.isWord c = false := by
  by_cases ascii : c.toNat < 128
  · exact Text.of_ascii
      (p := fun c => isSlash c = false ∧ Text.isDigit c = false ∧ Text.isWord c = false)
      (by decide) ascii delimits
  · -- Beyond ASCII the delimiters are white space, which lies apart from digits and words.
    have other : ∀ d : Char, d.toNat < 128 → c ≠ d := fun d bound same => ascii (same ▸ bound)
    have notAscii : isSlash c = false ∧ Text.isAsciiWhite c = false ∧
        Text.isAsciiDigit c = false ∧ Text.isAsciiWord c = false := by
      simp [isSlash, Text.isAsciiWhite, Text.isAsciiDigit, Text.isAsciiWord, Text.isAsciiLetter,
        other]
      omega
    have white : Text.inRanges Text.whiteRanges c.toNat = true := by
      have isWhite : Text.isWhite c = true := by simpa [isDelimiter, other] using delimits
      rw [Text.isWhite, notAscii.2.1, Bool.false_or, Bool.and_eq_true] at isWhite
      exact isWhite.2
    have noDigit : Text.inRanges Text.digitRanges c.toNat = false :=
      Text.inRanges_eq_false_of_apart (by decide +kernel) white
    have noWord : Text.inRanges Text.wordRanges c.toNat = false :=
      Text.inRanges_eq_false_of_apart (by decide +kernel) white
    refine ⟨notAscii.1, ?_, ?_⟩
    · rw [Text.isDigit, notAscii.2.2.1, noDigit, Bool.and_false, Bool.or_false]
    · rw [Text.isWord, notAscii.2.2.2, noWord, Bool.and_false, Bool.or_false]

private theorem notMem_of_isDelimiter {text : Text}
    (undelimited : ∀ c ∈ text, isDelimiter c = false)
    {d : Char} (delimits : isDelimiter d = true) : d ∉ text := by
  intro member
  rw [undelimited d member] at delimits
  cases delimits

private theorem endsFile_of_isDelimiter {d : Char} (delimits : isDelimiter d = true) :
    EndsFile d where
  noLead := notMem_of_isDelimiter (Text.forall_mem_of_all (by decide)) delimits
  noEnding := notMem_of_isDelimiter (Text.forall_mem_of_all (by decide)) delimits
  noDigit := (passes_of_isDelimiter delimits).2.1
  noWord := (passes_of_isDelimiter delimits).2.2

/-! ## Piece by piece -/

section Delimited

variable {name : Text} {d : Char} (absent : d ∉ name) (delimits : isDelimiter d = true)

include absent delimits

private theorem afterBlock?_append_delimiter (text rest : Text) :
    afterBlock? name (text ++ d :: rest) = (afterBlock? name text).map (· ++ d :: rest) := by
  rw [afterBlock?, afterBlock?, Text.isPrefixOf?_append_cons absent]
  cases List.isPrefixOf? name text with
  | none => rfl
  | some behind =>
      cases behind with
      | nil => simp [(passes_of_isDelimiter delimits).1]
      | cons slash behind =>
          simp only [Option.map_some, List.cons_append,
            afterFile?_append_cons (endsFile_of_isDelimiter delimits)]
          split <;> rfl

private theorem afterDirectories?_append_delimiter (text rest : Text) :
    afterDirectories? name (text ++ d :: rest) =
      (afterDirectories? name text).map (· ++ d :: rest) := by
  induction text with
  | nil => simp only [List.nil_append, afterDirectories?, if_pos delimits, Option.map_none]
  | cons c text inductionHypothesis =>
      rw [List.cons_append, afterDirectories?, afterDirectories?, inductionHypothesis,
        afterBlock?_append_delimiter absent delimits]
      split
      · rfl
      · cases afterDirectories? name text with
        | some after => rfl
        | none =>
            dsimp only [Option.map_none]
            split <;> rfl

private theorem pattern_append_delimiter (before : Option Char) (text rest : Text) :
    pattern name before (text ++ d :: rest) =
      (pattern name before text).map fun found => (found.1, found.2 ++ d :: rest) := by
  rw [pattern, pattern, afterDirectories?_append_delimiter absent delimits,
    afterBlock?_append_delimiter absent delimits]
  cases afterDirectories? name text with
  | some after => rfl
  | none => cases afterBlock? name text <;> rfl

/-- A delimiter that the name lacks falls into no path, so the texts around it are replaced on their
own. -/
theorem replaceAll_append_of_notMem (replacement text rest : Text) :
    Text.replaceAll (pattern name) (fun _ _ => replacement) (text ++ d :: rest) =
      Text.replaceAll (pattern name) (fun _ _ => replacement) text ++
        d :: Text.replaceAll (pattern name) (fun _ _ => replacement) rest :=
  Text.replaceAll_append_cons (consumes_pattern name)
    (fun before text => pattern_append_delimiter absent delimits before text rest) rfl _ text

end Delimited

theorem replaceAll_nil (name replacement : Text) :
    Text.replaceAll (pattern name) (fun _ _ => replacement) [] = [] := by
  cases name <;> rfl

/-- What stands before a text has no say in what matches there. -/
theorem segmentsFrom_pattern (name : Text) (before other : Option Char) (text : Text) :
    Text.segmentsFrom (pattern name) before 0 text =
      Text.segmentsFrom (pattern name) other 0 text :=
  Text.segmentsFrom_congr rfl

/-- The pieces of a text between delimiters are replaced on their own. -/
theorem replaceAll_append_delimiter {name : Text} (undelimited : ∀ c ∈ name, isDelimiter c = false)
    {d : Char} (delimits : isDelimiter d = true) (replacement text rest : Text) :
    Text.replaceAll (pattern name) (fun _ _ => replacement) (text ++ d :: rest) =
      Text.replaceAll (pattern name) (fun _ _ => replacement) text ++
        d :: Text.replaceAll (pattern name) (fun _ _ => replacement) rest :=
  replaceAll_append_of_notMem (notMem_of_isDelimiter undelimited delimits) delimits replacement
    text rest

/-! ## Paths without delimiters -/

/-- The path of a block file in a directory of the given name, with no delimiter before that name. -/
inductive IsShown (name : Text) : Text → Prop
  | alone {digits : Text} :
      IsNumber digits → IsShown name (name ++ '/' :: (fileLead ++ (digits ++ fileEnding)))
  | inside {lead digits : Text} :
      (∀ c ∈ lead, isDelimiter c = false) → IsNumber digits →
      IsShown name (lead ++ quoted name digits [])

theorem IsShown.getLast?_eq {name path : Text} (shown : IsShown name path) :
    path.getLast? = some 's' := by
  have ending : ∀ front digits : Text,
      (front ++ (digits ++ fileEnding)).getLast? = some 's' := by
    intro front digits
    rw [List.getLast?_append, List.getLast?_append]
    rfl
  cases shown with
  | @alone digits number =>
      rw [← ending (name ++ '/' :: fileLead) digits]
      simp
  | @inside lead digits undelimited number =>
      rw [← ending (lead ++ '/' :: (name ++ '/' :: fileLead)) digits]
      simp [quoted]

theorem afterDirectories?_append_of_some {name lead text after : Text}
    (undelimited : ∀ c ∈ lead, isDelimiter c = false)
    (found : afterDirectories? name text = some after) :
    afterDirectories? name (lead ++ text) = some after := by
  induction lead with
  | nil => exact found
  | cons c lead inductionHypothesis =>
      rw [List.cons_append, afterDirectories?, undelimited c List.mem_cons_self,
        inductionHypothesis fun c member => undelimited c (List.mem_cons_of_mem _ member)]
      rfl

section Plain

variable {name : Text} (plain : IsPlain name)

include plain

/-- Such a path matches as a whole, and then as much behind it as any directory would. -/
private theorem pattern_append_of_isShown {path : Text} (shown : IsShown name path) {rest : Text}
    (ends : Text.endsWord rest.head? = true) (before : Option Char) :
    pattern name before (path ++ rest) =
      some ((), (afterDirectories? name rest).getD rest) := by
  cases shown with
  | @alone digits number =>
      have whole : name ++ '/' :: (fileLead ++ (digits ++ fileEnding)) ++ rest =
          name ++ '/' :: (fileLead ++ (digits ++ (fileEnding ++ rest))) := by simp
      rw [whole, pattern, afterDirectories?_name plain (List.suffix_refl name),
        afterDirectories?_slash_file plain number ends, afterBlock?_quoted name number ends]
      cases afterDirectories? name rest <;> rfl
  | @inside lead digits undelimited number =>
      have whole : lead ++ quoted name digits [] ++ rest = lead ++ quoted name digits rest := by
        simp [quoted]
      rw [whole, pattern, afterDirectories?_append_of_some undelimited
        (afterDirectories?_quoted plain number ends)]

theorem replaceAll_append_of_isShown {path : Text} (shown : IsShown name path) {rest : Text}
    (ends : Text.endsWord rest.head? = true) (replacement : Text) :
    Text.replaceAll (pattern name) (fun _ _ => replacement) (path ++ rest) =
      replacement ++ Text.replaceAll (pattern name) (fun _ _ => replacement)
        ((afterDirectories? name rest).getD rest) := by
  have found := pattern_append_of_isShown plain shown ends none
  obtain ⟨matched, nonempty, whole⟩ := consumes_pattern name found
  rw [whole] at found ⊢
  rw [Text.replaceAll, Text.segments, Text.segmentsFrom_of_match nonempty found,
    segmentsFrom_pattern name _ none]
  rfl

theorem replaceAll_of_isShown {path : Text} (shown : IsShown name path) (replacement : Text) :
    Text.replaceAll (pattern name) (fun _ _ => replacement) path = replacement := by
  have whole := @replaceAll_append_of_isShown name plain path shown [] rfl replacement
  rwa [List.append_nil, afterDirectories?, Option.getD_none, replaceAll_nil, List.append_nil]
    at whole

end Plain

end BlockPath

end DocCheck
