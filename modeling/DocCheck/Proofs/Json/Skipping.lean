import DocCheck.Proofs.Json.Grammar

/-!
Passing over lists and objects, and all that is nested in them. Main statement: a value is passed over
as a whole, and what follows it is left.
-/

namespace DocCheck.Json

/-! ## What is open -/

private def Frame.opener : Frame → Char
  | .list => '['
  | .object => '\x7b'

/-- Goes on inside of what is open, if anything is. -/
def resume (fuel : Nat) : Except Misreading (List Frame × Text) → Except Misreading Text
  | .error failure => .error failure
  | .ok ([], rest) => .ok rest
  | .ok (.list :: outer, rest) => skipWithin fuel (.list :: outer) rest
  | .ok (.object :: outer, rest) =>
      match skipKey rest with
      | .error failure => .error failure
      | .ok rest => skipWithin fuel (.object :: outer) rest

/-- Passes what begins a value, if its white space has been passed. -/
def begin (frames : List Frame) (text : Text) : Except Misreading (List Frame × Text) :=
  match text with
  | '[' :: rest => settle false (.list :: frames) rest
  | '\x7b' :: rest => settle false (.object :: frames) rest
  | _ =>
      match skipScalar text with
      | .error failure => .error failure
      | .ok rest => settle true frames rest

private theorem skipWithin_succ (fuel : Nat) (frames : List Frame) (text : Text) :
    skipWithin (fuel + 1) frames text = resume fuel (begin frames (skipSpace text)) := by
  rw [skipWithin]
  rfl

private theorem skipWithin_append {spaces : Text} (isSpaces : IsSpaces spaces) (fuel : Nat)
    (frames : List Frame) (rest : Text) :
    skipWithin (fuel + 1) frames (spaces ++ rest) = skipWithin (fuel + 1) frames rest := by
  rw [skipWithin_succ, skipWithin_succ, skipSpace_append isSpaces]

private theorem skipWithin_scalar {text rest : Text} (isScalar : IsScalar text)
    (behind : BehindNumber rest) (fuel : Nat) (frames : List Frame) :
    skipWithin (fuel + 1) frames (text ++ rest) = resume fuel (settle true frames rest) := by
  have skipped := skipScalar_append isScalar behind
  obtain ⟨c, more, rfl, starts, noList, noObject⟩ := isScalar.starts
  rw [skipWithin_succ, List.cons_append, skipSpace_cons starts.dark, begin]
  · rw [← List.cons_append, skipped]
  · exact fun _ same => noList (List.cons.inj same).1
  · exact fun _ same => noObject (List.cons.inj same).1

private theorem skipWithin_opener (frame : Frame) (fuel : Nat) (frames : List Frame) (rest : Text) :
    skipWithin (fuel + 1) frames (frame.opener :: rest) =
      resume fuel (settle false (frame :: frames) rest) := by
  cases frame <;> exact skipWithin_succ fuel frames _

private theorem resume_skipSpace (fuel : Nat) (frames : List Frame) (rest : Text)
    (filled : frames ≠ []) :
    resume (fuel + 1) (.ok (frames, skipSpace rest)) = resume (fuel + 1) (.ok (frames, rest)) := by
  cases frames with
  | nil => exact absurd rfl filled
  | cons frame outer =>
      cases frame with
      | list => rw [resume, resume, skipWithin_succ, skipWithin_succ, skipSpace_skipSpace]
      | object => rw [resume, resume, skipKey, skipKey, skipSpace_skipSpace]

/-! ## Ends and commas -/

private theorem settle_append {spaces : Text} (isSpaces : IsSpaces spaces) (complete : Bool)
    (frame : Frame) (outer : List Frame) (rest : Text) :
    settle complete (frame :: outer) (spaces ++ rest) = settle complete (frame :: outer) rest := by
  rw [settle, settle, skipSpace_append isSpaces]

theorem Frame.closer_spec (frame : Frame) :
    isSpace frame.closer = false ∧ frame.closer ≠ ',' ∧ EndsNumber frame.closer := by
  cases frame <;> exact ⟨by decide, by decide, by decide, by decide, by decide⟩

private theorem settle_closer (complete : Bool) (frame : Frame) (outer : List Frame) (rest : Text) :
    settle complete (frame :: outer) (frame.closer :: rest) = settle true outer rest := by
  obtain ⟨dark, noComma, _⟩ := frame.closer_spec
  rw [settle, skipSpace_cons dark]
  simp [noComma]

private theorem settle_comma (frame : Frame) (outer : List Frame) (rest : Text) :
    settle true (frame :: outer) (',' :: rest) = .ok (frame :: outer, rest) := by
  rw [settle, skipSpace_cons rfl]
  rfl

/-! ## One value after the other -/

/-- A text is passed over as a value, whatever is open and wherever no number goes on. -/
def Skips (text : Text) : Prop :=
  ∃ count < text.length, ∀ fuel frames rest, BehindNumber rest →
    skipWithin (fuel + count + 1) frames (text ++ rest) = resume fuel (settle true frames rest)

/-- A text is passed over as an element or a member of what a frame stands for. -/
structure IsItem (frame : Frame) (text : Text) : Prop where
  starts : ∀ rest, ∃ c more, skipSpace (text ++ rest) = c :: more ∧ c ≠ frame.closer
  passes : ∃ count < text.length, ∀ fuel outer rest, BehindNumber rest →
    resume (fuel + count + 1) (.ok (frame :: outer, text ++ rest)) =
      resume fuel (settle true (frame :: outer) rest)

private theorem Element.skipWithin_text {element : Element} (spaced : element.IsSpaced)
    (skips : Skips element.value) : ∃ count < element.text.length, ∀ fuel frame outer rest,
      BehindNumber rest → skipWithin (fuel + count + 1) (frame :: outer) (element.text ++ rest) =
        resume fuel (settle true (frame :: outer) rest) := by
  obtain ⟨count, short, skipped⟩ := skips
  refine ⟨count, ?_, ?_⟩
  · simp only [text, List.length_append]
    omega
  · intro fuel frame outer rest behind
    rw [text, List.append_assoc, List.append_assoc, skipWithin_append spaced.1,
      skipped fuel _ _ (behind.append spaced.2), settle_append spaced.2]

private theorem Element.isItem {element : Element} (spaced : element.IsSpaced)
    (starts : ∃ c more, element.value = c :: more ∧ StartsValue c)
    (skips : Skips element.value) : IsItem .list element.text where
  starts := by
    obtain ⟨c, more, value, start⟩ := starts
    intro rest
    refine ⟨c, more ++ (element.behind ++ rest), ?_, start.noEnd⟩
    rw [text, List.append_assoc, List.append_assoc, skipSpace_append spaced.1, value,
      List.cons_append, skipSpace_cons start.dark]
  passes := by
    obtain ⟨count, short, skipped⟩ := skipWithin_text spaced skips
    exact ⟨count, short, fun fuel outer rest behind => skipped fuel .list outer rest behind⟩

private theorem Member.skipKey_text {member : Member} (spaced : member.IsSpaced)
    (isContent : IsContent member.key) (rest : Text) :
    skipKey (member.text ++ rest) = .ok (member.element.text ++ rest) := by
  have whole : member.text ++ rest = member.before ++ '"' :: (member.key ++
      '"' :: (member.behind ++ ':' :: (member.element.text ++ rest))) := by
    simp [text, opened]
  rw [whole, skipKey, skipSpace_append spaced.1, skipSpace_cons rfl]
  simp only [if_true, skipString_of_isContent isContent, skipSpace_append spaced.2.1,
    skipSpace_cons (show isSpace ':' = false from rfl)]

private theorem Member.isItem {member : Member} (spaced : member.IsSpaced)
    (isContent : IsContent member.key)
    (skips : Skips member.element.value) : IsItem .object member.text where
  starts := by
    intro rest
    refine ⟨'"', member.opened ++ rest, ?_, by decide⟩
    rw [text, List.append_assoc, skipSpace_append spaced.1]
    exact skipSpace_cons rfl _
  passes := by
    obtain ⟨count, short, skipped⟩ := Element.skipWithin_text spaced.2.2 skips
    refine ⟨count, ?_, fun fuel outer rest behind => ?_⟩
    · simp only [text, opened, List.length_append, List.length_cons]
      omega
    · rw [resume, skipKey_text spaced isContent]
      exact skipped fuel .object outer rest behind

/-- Elements or members are passed one after the other, up to the end of what they stand in. -/
theorem resume_items {frame : Frame} {first : Text} {more : List Text} (isItem : IsItem frame first)
    (areItems : ∀ text ∈ more, IsItem frame text) :
    ∃ count < (Text.joinWith [','] (first :: more)).length, ∀ fuel outer rest,
      resume (fuel + count + 1) (.ok (frame :: outer,
        Text.joinWith [','] (first :: more) ++ frame.closer :: rest)) =
          resume fuel (settle true outer rest) := by
  obtain ⟨count, short, passed⟩ := isItem.passes
  induction more generalizing first count with
  | nil =>
      refine ⟨count, ?_, fun fuel outer rest => ?_⟩
      · simpa [Text.joinWith_cons] using short
      · have behind := frame.closer_spec.2.2.behindNumber rest
        rw [Text.joinWith_cons, List.flatMap_nil, List.append_nil, passed fuel _ _ behind,
          settle_closer]
  | cons second more inductionHypothesis =>
      have isSecond := areItems second List.mem_cons_self
      obtain ⟨countSecond, shortSecond, passedSecond⟩ := isSecond.passes
      obtain ⟨countMore, shortMore, passedMore⟩ := inductionHypothesis isSecond
        (fun text member => areItems text (List.mem_cons_of_mem _ member)) countSecond shortSecond
        passedSecond
      refine ⟨countMore + 1 + count, ?_, fun fuel outer rest => ?_⟩
      · rw [Text.joinWith_cons] at shortMore ⊢
        simp only [List.length_append, List.flatMap_cons, List.length_cons, List.length_nil] at *
        omega
      · have split : Text.joinWith [','] (first :: second :: more) ++ frame.closer :: rest =
            first ++ ',' :: (Text.joinWith [','] (second :: more) ++ frame.closer :: rest) := by
          simp [Text.joinWith_cons]
        have counted : fuel + (countMore + 1 + count) + 1 = fuel + countMore + 1 + count + 1 := by
          omega
        rw [split, counted, passed _ _ _ (endsNumber_comma.behindNumber _), settle_comma, passedMore]

/-! ## Values -/

private theorem skips_scalar {text : Text} (isScalar : IsScalar text) : Skips text := by
  obtain ⟨c, more, rfl, _⟩ := isScalar.starts
  exact ⟨0, Nat.succ_pos _, fun fuel frames rest behind =>
    skipWithin_scalar isScalar behind fuel frames⟩

private theorem skips_empty (frame : Frame) {spaces : Text} (isSpaces : IsSpaces spaces) :
    Skips (frame.opener :: (spaces ++ [frame.closer])) := by
  refine ⟨0, Nat.succ_pos _, fun fuel frames rest _ => ?_⟩
  rw [List.cons_append, List.append_assoc, skipWithin_opener, settle_append isSpaces,
    List.singleton_append, settle_closer]

private theorem skips_items (frame : Frame) {texts : List Text} (filled : texts ≠ [])
    (areItems : ∀ text ∈ texts, IsItem frame text) :
    Skips (frame.opener :: (Text.joinWith [','] texts ++ [frame.closer])) := by
  obtain ⟨first, more, rfl⟩ := List.exists_cons_of_ne_nil filled
  have isFirst := areItems first List.mem_cons_self
  obtain ⟨count, short, passed⟩ := resume_items isFirst fun text member =>
    areItems text (List.mem_cons_of_mem _ member)
  refine ⟨count + 1, ?_, fun fuel frames rest _ => ?_⟩
  · simp only [List.length_cons, List.length_append, List.length_nil]
    omega
  · have inside : settle false (frame :: frames)
        (Text.joinWith [','] (first :: more) ++ frame.closer :: rest) =
        .ok (frame :: frames,
          skipSpace (Text.joinWith [','] (first :: more) ++ frame.closer :: rest)) := by
      rw [Text.joinWith_cons, List.append_assoc]
      obtain ⟨c, behind, starts, noEnd⟩ :=
        isFirst.starts (more.flatMap ([','] ++ ·) ++ frame.closer :: rest)
      rw [settle, starts]
      simp [noEnd]
    rw [List.cons_append, List.append_assoc, List.singleton_append, skipWithin_opener, inside,
      ← Nat.add_assoc, resume_skipSpace _ _ _ (List.cons_ne_nil _ _)]
    exact passed fuel frames rest

private theorem IsValue.starts {text : Text} (isValue : IsValue text) :
    ∃ c more, text = c :: more ∧ StartsValue c := by
  cases isValue with
  | scalar isScalar =>
      obtain ⟨c, more, whole, starts, _⟩ := isScalar.starts
      exact ⟨c, more, whole, starts⟩
  | emptyList _ => exact ⟨_, _, rfl, rfl, by decide⟩
  | list _ _ _ => exact ⟨_, _, rfl, rfl, by decide⟩
  | emptyObject _ => exact ⟨_, _, rfl, rfl, by decide⟩
  | object _ _ _ _ => exact ⟨_, _, rfl, rfl, by decide⟩

theorem IsValue.skips {text : Text} (isValue : IsValue text) : Skips text := by
  induction isValue with
  | scalar isScalar => exact skips_scalar isScalar
  | emptyList isSpaces => exact skips_empty .list isSpaces
  | emptyObject isSpaces => exact skips_empty .object isSpaces
  | list filled spaced values inductionHypothesis =>
      refine skips_items .list (by simpa using filled) fun text isText => ?_
      obtain ⟨element, isElement, rfl⟩ := List.mem_map.mp isText
      exact Element.isItem (spaced element isElement) (values element isElement).starts
        (inductionHypothesis element isElement)
  | object filled spaced keys values inductionHypothesis =>
      refine skips_items .object (by simpa using filled) fun text isText => ?_
      obtain ⟨member, isMember, rfl⟩ := List.mem_map.mp isText
      exact Member.isItem (spaced member isMember) (keys member isMember)
        (inductionHypothesis member isMember)

/-- A value is passed over as a whole. -/
theorem skipValue_append {text spaces rest : Text} (isSpaces : IsSpaces spaces)
    (isValue : IsValue text) (behind : BehindNumber rest) :
    skipValue (spaces ++ (text ++ rest)) = .ok rest := by
  obtain ⟨count, short, skipped⟩ := isValue.skips
  obtain ⟨fuel, counted⟩ : ∃ fuel, (spaces ++ (text ++ rest)).length = fuel + count := by
    refine Nat.exists_eq_add_of_le' ?_
    simp only [List.length_append]
    omega
  rw [skipValue, skipWithin_append isSpaces, counted, skipped fuel _ _ behind]
  rfl

end DocCheck.Json
