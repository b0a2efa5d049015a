import DocCheck.Text.Basic
import Mathlib.Data.List.DropRight

/-!
Reading and trimming of texts. Reading from the left gets as far as a character that stands out,
whatever follows it, and trimming from the right gets as far as one that is to be kept.
-/

namespace DocCheck.Text

-- A property of all characters of a known text is decided on the text: there are too many
-- characters to go through them.
theorem forall_mem_of_all {property : Char → Prop} [DecidablePred property] {text : Text}
    (all : (text.all fun c => decide (property c)) = true) : ∀ c ∈ text, property c := by
  simpa using all

/-- What all ASCII characters of a class have is decided by going through them. -/
theorem of_ascii {inClass : Char → Bool} {p : Char → Prop}
    (all : ∀ code < 128, inClass (Char.ofNat code) = true → p (Char.ofNat code)) {c : Char}
    (ascii : c.toNat < 128) (inside : inClass c = true) : p c := by
  have holds := all c.toNat ascii
  rw [Char.ofNat_toNat] at holds
  exact holds inside

/-! ## Reading from the left -/

theorem isPrefixOf?_append (lead rest : Text) : lead.isPrefixOf? (lead ++ rest) = some rest :=
  List.isPrefixOf?_eq_some_iff_append_eq.mpr rfl

theorem isPrefixOf?_append_cons {lead : Text} {c : Char} (absent : c ∉ lead) (text rest : Text) :
    List.isPrefixOf? lead (text ++ c :: rest) =
      (List.isPrefixOf? lead text).map (· ++ c :: rest) := by
  induction lead generalizing text with
  | nil => rfl
  | cons first lead inductionHypothesis =>
      rw [List.mem_cons, not_or] at absent
      cases text with
      | nil => simp [List.isPrefixOf?, Ne.symm absent.1]
      | cons d text =>
          simp only [List.cons_append, List.isPrefixOf?]
          split
          · exact inductionHypothesis absent.2 text
          · rfl

theorem dropWhile_append_cons {inClass : Char → Bool} {c : Char} (outside : inClass c = false)
    (text rest : Text) :
    (text ++ c :: rest).dropWhile inClass = text.dropWhile inClass ++ c :: rest := by
  rw [List.dropWhile_append]
  split
  · next empty =>
      rw [List.isEmpty_iff.mp empty, List.dropWhile_cons_of_neg (by simp [outside])]
      rfl
  · rfl

theorem takeWhile_append_cons {inClass : Char → Bool} {c : Char} (outside : inClass c = false)
    (text rest : Text) : (text ++ c :: rest).takeWhile inClass = text.takeWhile inClass := by
  induction text with
  | nil => simp [outside]
  | cons first text inductionHypothesis =>
      rw [List.cons_append, List.takeWhile_cons, List.takeWhile_cons, inductionHypothesis]

/-- A text falls in one way into what stands before its first character of a class, that character
and the rest. -/
theorem append_cons_unique (inClass : Char → Bool) {lead lead' rest rest' : Text} {c c' : Char}
    (inside : inClass c = true) (inside' : inClass c' = true)
    (outside : ∀ d ∈ lead, inClass d = false) (outside' : ∀ d ∈ lead', inClass d = false)
    (equality : lead ++ c :: rest = lead' ++ c' :: rest') :
    lead = lead' ∧ c = c' ∧ rest = rest' := by
  induction lead generalizing lead' with
  | nil =>
      cases lead' with
      | nil => simpa using equality
      | cons d lead' =>
          obtain ⟨rfl, _⟩ := List.cons.inj equality
          rw [outside' c List.mem_cons_self] at inside
          cases inside
  | cons d lead inductionHypothesis =>
      cases lead' with
      | nil =>
          obtain ⟨rfl, _⟩ := List.cons.inj equality
          rw [outside d List.mem_cons_self] at inside'
          cases inside'
      | cons d' lead' =>
          obtain ⟨rfl, tails⟩ := List.cons.inj equality
          obtain ⟨rfl, same⟩ := inductionHypothesis
            (fun e member => outside e (List.mem_cons_of_mem _ member))
            (fun e member => outside' e (List.mem_cons_of_mem _ member)) tails
          exact ⟨rfl, same⟩

/-- A character that the first part lacks is found in the second one. -/
theorem exists_of_append_eq_of_notMem_left {front back lead rest : Text} {c : Char}
    (absent : c ∉ front) (equality : front ++ back = lead ++ c :: rest) :
    ∃ inner, lead = front ++ inner ∧ back = inner ++ c :: rest := by
  rcases List.append_eq_append_iff.mp equality with ⟨inner, isLead, isBack⟩ | ⟨inner, isFront, split⟩
  · exact ⟨inner, isLead, isBack⟩
  · cases inner with
    | nil => exact ⟨[], by simpa using isFront.symm, by simpa using split.symm⟩
    | cons d inner =>
        obtain ⟨rfl, _⟩ := List.cons.inj split
        exact absurd (by rw [isFront]; simp) absent

/-- A character that the second part lacks is found in the first one. -/
theorem exists_of_append_eq_of_notMem_right {front back lead rest : Text} {c : Char}
    (absent : c ∉ back) (equality : front ++ back = lead ++ c :: rest) :
    ∃ inner, front = lead ++ c :: inner ∧ rest = inner ++ back := by
  rcases List.append_eq_append_iff.mp equality with ⟨inner, isLead, isBack⟩ | ⟨inner, isFront, split⟩
  · exact absurd (by rw [isBack]; simp) absent
  · cases inner with
    | nil => exact absurd (by rw [← List.nil_append back, ← split]; simp) absent
    | cons d inner =>
        obtain ⟨rfl, isRest⟩ := List.cons.inj split
        exact ⟨inner, isFront, isRest⟩

theorem isPrefix_of_append_cons {lead front rest behind : Text} {c : Char} (absent : c ∉ front)
    (cut : lead ++ c :: rest = front ++ behind) : front <+: lead := by
  rcases List.append_eq_append_iff.mp cut with ⟨gap, rfl, rests⟩ | ⟨gap, rfl, _⟩
  · cases gap with
    | nil => exact ⟨[], by rw [List.append_nil, List.append_nil]⟩
    | cons d gap =>
        obtain ⟨rfl, _⟩ := List.cons.inj rests
        exact absurd (List.mem_append_right lead List.mem_cons_self) absent
  · exact List.prefix_append front gap

theorem isInfix_of_isInfix_append {lead text inner : Text} {c : Char} (absent : c ∉ lead)
    (inside : c :: inner <:+: lead ++ text) : c :: inner <:+: text := by
  induction lead with
  | nil => exact inside
  | cons d lead inductionHypothesis =>
      rw [List.mem_cons, not_or] at absent
      rcases List.infix_cons_iff.mp inside with first | later
      · exact absurd (List.cons_prefix_cons.mp first).1 absent.1
      · exact inductionHypothesis absent.2 later

/-- A word begins in the first part of a text, or it lies in the second one. -/
theorem isInfix_append_cases {word front back : Text} (inside : word <:+: front ++ back) :
    (∃ inner, inner <:+ front ∧ inner ≠ [] ∧ word <+: inner ++ back) ∨ word <:+: back := by
  induction front with
  | nil => exact Or.inr inside
  | cons c front inductionHypothesis =>
      rcases List.infix_cons_iff.mp inside with first | later
      · exact Or.inl ⟨c :: front, List.suffix_refl _, List.cons_ne_nil c front, first⟩
      · rcases inductionHypothesis later with ⟨inner, inFront, filled, begins⟩ | inBack
        · exact Or.inl ⟨inner, inFront.trans (List.suffix_cons c front), filled, begins⟩
        · exact Or.inr inBack

/-- A text holds no character of a class, or there is a last one. -/
theorem exists_last_of_class (inClass : Char → Bool) (text : Text) :
    (∀ c ∈ text, inClass c = false) ∨
      ∃ front last back, text = front ++ last :: back ∧ inClass last = true ∧
        ∀ c ∈ back, inClass c = false := by
  induction text with
  | nil => exact Or.inl nofun
  | cons c text inductionHypothesis =>
      rcases inductionHypothesis with outside | ⟨front, last, back, rfl, inside, outside⟩
      · by_cases first : inClass c = true
        · exact Or.inr ⟨[], c, text, rfl, first, outside⟩
        · exact Or.inl (List.forall_mem_cons.mpr ⟨by simpa using first, outside⟩)
      · exact Or.inr ⟨c :: front, last, back, rfl, inside, outside⟩

theorem drop_length_takeWhile (inClass : Char → Bool) (text : Text) :
    text.drop (text.takeWhile inClass).length = text.dropWhile inClass := by
  induction text with
  | nil => rfl
  | cons c rest inductionHypothesis =>
      rw [List.takeWhile_cons, List.dropWhile_cons]
      split
      · rw [List.length_cons, List.drop_succ_cons, inductionHypothesis]
      · rfl

theorem splitOnce?_singleton {separator : Char} {lead : Text} (absent : separator ∉ lead)
    (rest : Text) : splitOnce? [separator] (lead ++ separator :: rest) = some (lead, rest) := by
  induction lead with
  | nil => simp [splitOnce?, List.isPrefixOf?]
  | cons c lead inductionHypothesis =>
      rw [List.mem_cons, not_or] at absent
      simp [splitOnce?, List.isPrefixOf?, absent.1, inductionHypothesis absent.2]

theorem eq_append_of_splitOnce? {separator text before after : Text}
    (isSplit : splitOnce? separator text = some (before, after)) :
    text = before ++ (separator ++ after) := by
  induction text generalizing before with
  | nil =>
      rw [splitOnce?] at isSplit
      split at isSplit
      · next empty =>
          cases isSplit
          rw [List.isEmpty_iff.mp empty]
          rfl
      · cases isSplit
  | cons c text inductionHypothesis =>
      rw [splitOnce?] at isSplit
      split at isSplit
      · next stripped =>
          cases isSplit
          exact (List.append_eq_of_isPrefixOf?_eq_some stripped).symm
      · obtain ⟨⟨front, back⟩, isLater, pair⟩ := Option.map_eq_some_iff.mp isSplit
        cases pair
        rw [inductionHypothesis isLater]
        rfl

/-- The first word of a text that begins with it. -/
theorem firstWord?_append {word rest : Text} (nonempty : word ≠ [])
    (dark : ∀ c ∈ word, isWhite c = false) (ends : ∀ c ∈ rest.head?, isWhite c = true) :
    firstWord? (word ++ rest) = some word := by
  have unspaced : (word ++ rest).dropWhile isWhite = word ++ rest := by
    cases word with
    | nil => exact absurd rfl nonempty
    | cons c word =>
        exact List.dropWhile_cons_of_neg (by simp [dark c List.mem_cons_self])
  have stops : rest.takeWhile (fun c => !isWhite c) = [] := by
    cases rest with
    | nil => rfl
    | cons c rest => exact List.takeWhile_cons_of_neg (by simp [ends c rfl])
  have taken : (word ++ rest).takeWhile (fun c => !isWhite c) = word := by
    rw [List.takeWhile_append_of_pos (by simpa using dark), stops, List.append_nil]
  rw [firstWord?, unspaced, taken]
  cases word with
  | nil => exact absurd rfl nonempty
  | cons c word => rfl

/-! ## Parts -/

theorem splitAt_ne_nil (separator : Char) (text : Text) : splitAt separator text ≠ [] := by
  cases text with
  | nil => exact List.cons_ne_nil [] []
  | cons c text =>
      rw [splitAt]
      split
      · exact List.cons_ne_nil _ _
      · split
        · exact List.cons_ne_nil _ _
        · exact List.cons_ne_nil _ _

theorem splitAt_of_notMem {separator : Char} {part : Text} (absent : separator ∉ part) :
    splitAt separator part = [part] := by
  induction part with
  | nil => rfl
  | cons c part inductionHypothesis =>
      rw [List.mem_cons, not_or] at absent
      rw [splitAt, if_neg (Ne.symm absent.1), inductionHypothesis absent.2]

theorem splitAt_append (separator : Char) (lead rest : Text) :
    splitAt separator (lead ++ separator :: rest) =
      splitAt separator lead ++ splitAt separator rest := by
  induction lead with
  | nil => simp [splitAt]
  | cons c lead inductionHypothesis =>
      rw [List.cons_append, splitAt, splitAt, inductionHypothesis]
      by_cases isSeparator : c = separator
      · rw [if_pos isSeparator, if_pos isSeparator, List.cons_append]
      · rw [if_neg isSeparator, if_neg isSeparator]
        obtain ⟨part, parts, isSplit⟩ :=
          List.exists_cons_of_ne_nil (splitAt_ne_nil separator lead)
        rw [isSplit]
        rfl

/-- A part without separators goes to the first one of what follows it. -/
theorem splitAt_append_of_notMem {separator : Char} {lead : Text} (absent : separator ∉ lead)
    {rest part : Text} {parts : List Text} (isSplit : splitAt separator rest = part :: parts) :
    splitAt separator (lead ++ rest) = (lead ++ part) :: parts := by
  induction lead with
  | nil => exact isSplit
  | cons c lead inductionHypothesis =>
      rw [List.mem_cons, not_or] at absent
      rw [List.cons_append, splitAt, if_neg (Ne.symm absent.1), inductionHypothesis absent.2]
      rfl

theorem splitAt_flatMap {separator : Char} {parts : List Text}
    (absent : ∀ part ∈ parts, separator ∉ part) :
    splitAt separator (parts.flatMap fun part => part ++ [separator]) = parts ++ [[]] := by
  induction parts with
  | nil => rfl
  | cons part parts inductionHypothesis =>
      rw [List.forall_mem_cons] at absent
      rw [List.flatMap_cons, List.append_assoc, List.singleton_append, splitAt_append,
        splitAt_of_notMem absent.1, inductionHypothesis absent.2]
      rfl

/-! ## Lines -/

private theorem lines_cons {c : Char} {text line : Text} {more : List Text} (unbroken : c ≠ '\n')
    (unpaired : c = '\r' → text.head? ≠ some '\n') (isRead : lines text = line :: more) :
    lines (c :: text) = (c :: line) :: more := by
  rw [lines, isRead]
  · exact fun isNewline => absurd isNewline unbroken
  · rintro rest isReturn rfl
    exact unpaired isReturn rfl

theorem lines_of_notMem {line : Text} (unbroken : '\n' ∉ line) (filled : line ≠ []) :
    lines line = [line] := by
  induction line with
  | nil => exact absurd rfl filled
  | cons c line inductionHypothesis =>
      rw [List.mem_cons, not_or] at unbroken
      cases line with
      | nil =>
          rw [lines]
          · rfl
          · exact fun isNewline => absurd isNewline.symm unbroken.1
          · exact fun _ _ => nofun
      | cons d line =>
          refine lines_cons (Ne.symm unbroken.1) (fun _ => ?_)
            (inductionHypothesis unbroken.2 (List.cons_ne_nil d line))
          rintro ⟨⟩
          exact unbroken.2 List.mem_cons_self

theorem lines_append_returned {line : Text} (unbroken : '\n' ∉ line) (rest : Text) :
    lines (line ++ '\r' :: '\n' :: rest) = line :: lines rest := by
  induction line with
  | nil => rfl
  | cons c line inductionHypothesis =>
      rw [List.mem_cons, not_or] at unbroken
      refine lines_cons (Ne.symm unbroken.1) (fun _ => ?_) (inductionHypothesis unbroken.2)
      cases line with
      | nil => exact nofun
      | cons d line =>
          rintro ⟨⟩
          exact unbroken.2 List.mem_cons_self

theorem lines_append_newline {line : Text} (unbroken : '\n' ∉ line)
    (unreturned : line.getLast? ≠ some '\r') (rest : Text) :
    lines (line ++ '\n' :: rest) = line :: lines rest := by
  induction line with
  | nil => rfl
  | cons c line inductionHypothesis =>
      rw [List.mem_cons, not_or] at unbroken
      cases line with
      | nil =>
          refine lines_cons (Ne.symm unbroken.1) ?_ rfl
          rintro rfl
          exact absurd rfl unreturned
      | cons d line =>
          rw [List.getLast?_cons_cons] at unreturned
          refine lines_cons (Ne.symm unbroken.1) (fun _ => ?_)
            (inductionHypothesis unbroken.2 unreturned)
          rintro ⟨⟩
          exact unbroken.2 List.mem_cons_self

/-- The first line of a text stands at its beginning. -/
private theorem isPrefix_of_lines_eq_cons {text line : Text} {more : List Text}
    (isRead : lines text = line :: more) : line <+: text := by
  induction text generalizing line more with
  | nil => cases isRead
  | cons c rest inductionHypothesis =>
      rw [lines.eq_def] at isRead
      split at isRead
      · cases isRead
      · cases isRead
        exact List.nil_prefix
      · cases isRead
        exact List.nil_prefix
      · next first others _ _ same =>
          obtain ⟨rfl, rfl⟩ := List.cons.inj same
          split at isRead
          · cases isRead
            exact List.prefix_append [c] rest
          · next inner later readLater =>
              cases isRead
              exact List.cons_prefix_cons.mpr ⟨rfl, inductionHypothesis readLater⟩

theorem isInfix_of_mem_lines {text line : Text} (member : line ∈ lines text) : line <:+: text := by
  fun_induction lines text with
  | case1 => cases member
  | case2 rest inductionHypothesis =>
      rcases List.mem_cons.mp member with rfl | later
      · exact List.nil_infix
      · exact (inductionHypothesis later).trans (List.suffix_cons _ rest).isInfix
  | case3 rest inductionHypothesis =>
      rcases List.mem_cons.mp member with rfl | later
      · exact List.nil_infix
      · exact (inductionHypothesis later).trans (List.suffix_append ['\r', '\n'] rest).isInfix
  | case4 c rest _ _ _ inductionHypothesis =>
      obtain rfl := List.mem_singleton.mp member
      exact (List.prefix_append [c] rest).isInfix
  | case5 c rest _ _ first more isRead inductionHypothesis =>
      rcases List.mem_cons.mp member with rfl | later
      · exact (List.cons_prefix_cons.mpr ⟨rfl, isPrefix_of_lines_eq_cons isRead⟩).isInfix
      · have inRest := inductionHypothesis (by rw [isRead]; exact List.mem_cons_of_mem first later)
        exact inRest.trans (List.suffix_cons c rest).isInfix

/-! ## Trimming from the right -/

theorem dropEndWhile_eq_rdropWhile (inClass : Char → Bool) (text : Text) :
    dropEndWhile inClass text = text.rdropWhile inClass :=
  rfl

theorem head?_of_head?_dropEndWhile {inClass : Char → Bool} {text : Text} {c : Char}
    (first : (dropEndWhile inClass text).head? = some c) : text.head? = some c := by
  obtain ⟨rest, whole⟩ := List.rdropWhile_prefix inClass text
  rw [dropEndWhile_eq_rdropWhile] at first
  rw [← whole, List.head?_append, first]
  rfl

/-- What is trimmed is all of the class. -/
theorem exists_eq_dropEndWhile_append (inClass : Char → Bool) (text : Text) :
    ∃ rest, text = dropEndWhile inClass text ++ rest ∧ ∀ c ∈ rest, inClass c = true :=
  ⟨text.rtakeWhile inClass, List.rdropWhile_append_rtakeWhile.symm,
    fun _ => List.mem_rtakeWhile_imp⟩

/-- What is left of a text ends in a character that is to be kept. -/
theorem getLast?_dropEndWhile (inClass : Char → Bool) (text : Text) :
    ∀ c ∈ (dropEndWhile inClass text).getLast?, inClass c = false := by
  intro c last
  rw [dropEndWhile, List.getLast?_reverse] at last
  have stops := List.head?_dropWhile_not inClass text.reverse
  rw [last] at stops
  exact stops

/-- What is to be kept keeps all that stands before it. -/
theorem dropEndWhile_append {inClass : Char → Bool} {lead : Text}
    (kept : ∀ c ∈ lead.getLast?, inClass c = false) (rest : Text) :
    dropEndWhile inClass (lead ++ rest) = lead ++ dropEndWhile inClass rest := by
  have unchanged : lead.reverse.dropWhile inClass = lead.reverse := by
    rw [← List.head?_reverse] at kept
    cases reversed : lead.reverse with
    | nil => rfl
    | cons c before =>
        rw [reversed] at kept
        exact List.dropWhile_cons_of_neg (by simp [kept c rfl])
  rw [dropEndWhile, dropEndWhile, List.reverse_append, List.dropWhile_append]
  split
  · next empty =>
      rw [unchanged, List.reverse_reverse, List.isEmpty_iff.mp empty, List.reverse_nil,
        List.append_nil]
  · rw [List.reverse_append, List.reverse_reverse]

/-- What is to be kept is left where all that follows it is of the class. -/
theorem dropEndWhile_append_of_all {inClass : Char → Bool} {lead rest : Text}
    (kept : ∀ c ∈ lead.getLast?, inClass c = false) (dropped : ∀ c ∈ rest, inClass c = true) :
    dropEndWhile inClass (lead ++ rest) = lead := by
  rw [dropEndWhile_append kept, dropEndWhile_eq_rdropWhile, List.rdropWhile_eq_nil_iff.mpr dropped,
    List.append_nil]

theorem trim_eq_nil_iff {text : Text} : trim text = [] ↔ ∀ c ∈ text, isWhite c = true := by
  rw [trim, trimEnd, dropEndWhile_eq_rdropWhile, List.rdropWhile_eq_nil_iff]
  constructor
  · intro white c member
    rw [← List.takeWhile_append_dropWhile (p := isWhite) (l := text), List.mem_append] at member
    rcases member with front | back
    · exact List.all_eq_true.mp List.all_takeWhile c front
    · exact white c back
  · intro white c member
    exact white c ((List.dropWhile_sublist _).subset member)

/-- A part of a text that ends in a character that is to be kept is not trimmed. -/
theorem isInfix_dropEndWhile {inClass : Char → Bool} {part text : Text} (inText : part <:+: text)
    (kept : ∀ c ∈ part.getLast?, inClass c = false) : part <:+: dropEndWhile inClass text := by
  obtain ⟨front, back, rfl⟩ := inText
  cases part with
  | nil => exact List.nil_infix
  | cons c part =>
      have keptAll : ∀ d ∈ (front ++ c :: part).getLast?, inClass d = false := by
        intro d last
        apply kept d
        rw [List.getLast?_append, List.getLast?_cons] at last
        rwa [List.getLast?_cons]
      rw [dropEndWhile_append keptAll]
      exact List.infix_append front (c :: part) _

/-! ## Joining -/

theorem joinWith_cons (separator first : Text) (more : List Text) :
    joinWith separator (first :: more) = first ++ more.flatMap (separator ++ ·) := by
  induction more generalizing first with
  | nil => simp [joinWith]
  | cons second more inductionHypothesis =>
      have parts := inductionHypothesis second
      rw [joinWith] at parts ⊢
      rw [List.intercalate_cons_cons, parts, List.flatMap_cons, List.append_assoc, List.append_assoc]

theorem length_le_joinWith {texts : List Text} {text : Text} (member : text ∈ texts)
    (separator : Text) : text.length ≤ (joinWith separator texts).length := by
  cases texts with
  | nil => cases member
  | cons first more =>
      rw [joinWith_cons, List.length_append]
      rcases List.mem_cons.mp member with rfl | later
      · exact Nat.le_add_right _ _
      · obtain ⟨front, back, rfl⟩ := List.append_of_mem later
        simp only [List.flatMap_append, List.flatMap_cons, List.length_append]
        omega

/-! ## Length in bytes -/

theorem byteLength_append (front back : Text) :
    byteLength (front ++ back) = byteLength front + byteLength back := by
  induction front with
  | nil => exact (Nat.zero_add _).symm
  | cons c front inductionHypothesis =>
      rw [List.cons_append, byteLength, byteLength, inductionHypothesis, Nat.add_assoc]

theorem byteLength_eq_length {text : Text} (ascii : ∀ c ∈ text, c.toNat < 128) :
    byteLength text = text.length := by
  induction text with
  | nil => rfl
  | cons c rest inductionHypothesis =>
      have first : c.utf8Size = 1 := by
        rw [Char.utf8Size_eq_one_iff, UInt32.le_iff_toNat_le]
        exact Nat.le_of_lt_succ (ascii c List.mem_cons_self)
      rw [byteLength, List.length_cons, first,
        inductionHypothesis fun d member => ascii d (List.mem_cons_of_mem _ member), Nat.add_comm]

end DocCheck.Text
