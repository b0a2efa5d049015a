import DocCheck.Proofs.Diagnostic.Blame
import DocCheck.Proofs.Diagnostic.BlockPath
import DocCheck.Proofs.Text.Numeral

/-!
Reports as the compiler writes them, from the faults that they are about. Names of files and texts of
faults are arbitrary, but for the marks that a report is read by. Main statement: reading a report
gives back the positions and the codes of the faults that it was written for.
-/

namespace DocCheck.Diagnostic

/-! ## Faults and their lines -/

inductive Level where
  | error
  | warning
  | message
  deriving Repr, DecidableEq

def Level.name : Level → Text
  | error => "error".toList
  | warning => "warning".toList
  | message => "message".toList

/-- The code of a fault: `TS` and a number. -/
structure FaultCode where
  digits : Text
  number : BlockPath.IsNumber digits

def FaultCode.text (code : FaultCode) : Text :=
  'T' :: 'S' :: code.digits

/-- What stands between the place of a fault and its level. -/
def placeEnd : Text := "): ".toList

/-- A fault at a place that can be counted, in a file whose name holds no end of a place. -/
structure PlacedFault where
  position : Position
  level : Level
  code : FaultCode
  text : Text
  named : position.file ≠ []
  unplaced : ¬ placeEnd <:+: position.file
  counted : position.line < UInt64.size ∧ position.column < UInt64.size
  unbroken : '\n' ∉ position.file ∧ '\n' ∉ text

/-- A fault without a place: an error or a warning, whose text holds no end of a place. -/
structure GeneralFault where
  level : Level
  code : FaultCode
  text : Text
  grave : level ≠ .message
  unplaced : ¬ placeEnd <:+: text
  unbroken : '\n' ∉ text

/-- Any other line: no place ends in it, and no fault begins it. -/
structure Remark where
  text : Text
  unplaced : ¬ placeEnd <:+: text
  faultless : ¬ "error TS".toList <+: text ∧ ¬ "warning TS".toList <+: text
  unbroken : '\n' ∉ text

/-- What a line of a report is about. -/
inductive Entry where
  | placed (fault : PlacedFault)
  | general (fault : GeneralFault)
  | remark (comment : Remark)

/-- The part of a line that all faults have: `level code: text`. -/
def announcement (level : Level) (code : FaultCode) (text : Text) : Text :=
  level.name ++ ' ' :: (code.text ++ ':' :: ' ' :: text)

def placeMark (position : Position) : Text :=
  '(' :: (Text.decimal position.line ++ ',' :: (Text.decimal position.column ++ placeEnd))

namespace Entry

def line : Entry → Text
  | placed fault =>
      fault.position.file ++
        (placeMark fault.position ++ announcement fault.level fault.code fault.text)
  | general fault => announcement fault.level fault.code fault.text
  | remark comment => comment.text

def position? : Entry → Option Position
  | placed fault => some fault.position
  | _ => none

def code? : Entry → Option Text
  | placed fault => some fault.code.text
  | general fault => some fault.code.text
  | remark _ => none

end Entry

inductive LineEnd where
  | newline
  | returnAndNewline
  deriving Repr, DecidableEq

def LineEnd.text : LineEnd → Text
  | newline => ['\n']
  | returnAndNewline => ['\r', '\n']

/-- The output of a compiler that reports these entries, each line with its end. -/
def written (entries : List (Entry × LineEnd)) : Text :=
  entries.flatMap fun entry => entry.1.line ++ entry.2.text

/-! ## Lines read back -/

/-- `IsReadAs line read` means that `read` is the line, or all of it but a carriage return at its
end. -/
private def IsReadAs (line read : Text) : Prop :=
  read = line ∨ line = read ++ ['\r']

private theorem IsReadAs.isPrefix {line read : Text} (isRead : IsReadAs line read) :
    read <+: line := by
  rcases isRead with rfl | rfl
  · exact List.prefix_refl read
  · exact List.prefix_append read ['\r']

private theorem IsReadAs.exists_append {lead text read : Text} (kept : lead.getLast? ≠ some '\r')
    (isRead : IsReadAs (lead ++ text) read) : ∃ rest, read = lead ++ rest := by
  rcases isRead with rfl | returned
  · exact ⟨text, rfl⟩
  · have inRead : lead <+: read ++ ['\r'] := ⟨text, returned⟩
    rcases List.prefix_concat_iff.mp inRead with rfl | ⟨rest, whole⟩
    · simp at kept
    · exact ⟨rest, whole.symm⟩

private theorem lines_append_lineEnd {line : Text} (unbroken : '\n' ∉ line) (lineEnd : LineEnd)
    (rest : Text) :
    ∃ read, Text.lines (line ++ lineEnd.text ++ rest) = read :: Text.lines rest ∧
      IsReadAs line read := by
  rw [List.append_assoc]
  cases lineEnd with
  | returnAndNewline => exact ⟨line, Text.lines_append_returned unbroken rest, Or.inl rfl⟩
  | newline =>
      by_cases returned : line.getLast? = some '\r'
      · obtain ⟨read, rfl⟩ := List.getLast?_eq_some_iff.mp returned
        rw [List.mem_append, not_or] at unbroken
        refine ⟨read, ?_, Or.inr rfl⟩
        rw [List.append_assoc]
        exact Text.lines_append_returned unbroken.1 rest
      · exact ⟨line, Text.lines_append_newline unbroken returned rest, Or.inl rfl⟩

/-! ## Announcements -/

private theorem digits?_faultCode (code : FaultCode) (rest : Text) :
    digits? (code.digits ++ ':' :: rest) = some (code.digits, ':' :: rest) :=
  digits?_append_cons
    ⟨code.number.1, fun _ member => BlockPath.isDigit_of_isNumber code.number member⟩
    (by decide) rest

private theorem levelAndCode?_cons_of_none {level : Text} {levels : List Text} {text : Text}
    (missing : List.isPrefixOf? (level ++ " TS".toList) text = none) :
    ReportLine.levelAndCode? (level :: levels) text = ReportLine.levelAndCode? levels text := by
  simp only [ReportLine.levelAndCode?, List.findSome?_cons, missing]

private theorem levelAndCode?_cons_name (level : Level) (levels : List Text) (code : FaultCode)
    (text : Text) :
    ReportLine.levelAndCode? (level.name :: levels) (announcement level code text) =
      some code.text := by
  have split : announcement level code text =
      level.name ++ " TS".toList ++ (code.digits ++ ':' :: ' ' :: text) := by
    rw [List.append_assoc]
    rfl
  rw [split]
  simp only [ReportLine.levelAndCode?, List.findSome?_cons, Text.isPrefixOf?_append,
    digits?_faultCode]
  rfl

private theorem levelAndCode?_located (level : Level) (code : FaultCode) (text : Text) :
    ReportLine.levelAndCode? ReportLine.locatedLevels (announcement level code text) =
      some code.text := by
  cases level with
  | error => exact levelAndCode?_cons_name .error _ code text
  | warning =>
      exact (levelAndCode?_cons_of_none rfl).trans (levelAndCode?_cons_name .warning _ code text)
  | message =>
      exact ((levelAndCode?_cons_of_none rfl).trans (levelAndCode?_cons_of_none rfl)).trans
        (levelAndCode?_cons_name .message _ code text)

private theorem levelAndCode?_general {level : Level} (grave : level ≠ .message) (code : FaultCode)
    (text : Text) :
    ReportLine.levelAndCode? ReportLine.generalLevels (announcement level code text) =
      some code.text := by
  cases level with
  | error => exact levelAndCode?_cons_name .error _ code text
  | warning =>
      exact (levelAndCode?_cons_of_none rfl).trans (levelAndCode?_cons_name .warning _ code text)
  | message => exact absurd rfl grave

private theorem isPrefix_of_levelAndCode? {line code : Text}
    (found : ReportLine.levelAndCode? ReportLine.generalLevels line = some code) :
    "error TS".toList <+: line ∨ "warning TS".toList <+: line := by
  obtain ⟨level, member, read⟩ := List.exists_of_findSome?_eq_some found
  have begins : level ++ " TS".toList <+: line := by
    split at read
    · cases read
    · next rest stripped =>
        rw [← List.append_eq_of_isPrefixOf?_eq_some stripped]
        exact List.prefix_append _ rest
  simp only [ReportLine.generalLevels, List.mem_cons, List.not_mem_nil, or_false] at member
  rcases member with rfl | rfl
  · exact Or.inl begins
  · exact Or.inr begins

private theorem notMem_announcement (level : Level) (code : FaultCode) {text : Text}
    (unbroken : '\n' ∉ text) : '\n' ∉ announcement level code text := by
  have digits : '\n' ∉ code.digits := fun member => absurd (code.number.2 _ member) (by decide)
  have name : '\n' ∉ level.name := by cases level <;> decide
  simp [announcement, FaultCode.text, name, digits, unbroken]

/-- An announcement is read as one even if its text is cut short. -/
private theorem announcement_of_isReadAs {lead read text : Text} {level : Level} {code : FaultCode}
    (isRead : IsReadAs (lead ++ announcement level code text) read) :
    ∃ rest, read = lead ++ announcement level code rest := by
  have split (text : Text) : lead ++ announcement level code text =
      lead ++ announcement level code [] ++ text := by
    simp [announcement]
  have kept : (lead ++ announcement level code []).getLast? ≠ some '\r' := by
    simp [announcement, List.getLast?_append, List.getLast?_cons]
  rw [split] at isRead
  obtain ⟨rest, rfl⟩ := isRead.exists_append kept
  exact ⟨rest, (split rest).symm⟩

/-! ## Places -/

private theorem placed?_placeMark (position : Position) (level : Level) (code : FaultCode)
    (text : Text) :
    ReportLine.placed? (placeMark position ++ announcement level code text) =
      some (Text.decimal position.line, Text.decimal position.column, code.text) := by
  have parenthesised := parenthesised?_eq_some_iff.mpr
    ⟨isNumeral_decimal position.line, isNumeral_decimal position.column,
      (rfl : _ = '(' :: (Text.decimal position.line ++ ',' ::
        (Text.decimal position.column ++ ')' :: ':' :: ' ' :: announcement level code text)))⟩
  have same : placeMark position ++ announcement level code text =
      '(' :: (Text.decimal position.line ++ ',' ::
        (Text.decimal position.column ++ ')' :: ':' :: ' ' :: announcement level code text)) := by
    simp [placeMark, placeEnd]
  rw [same, ReportLine.placed?, parenthesised]
  simp only [levelAndCode?_located, Option.map_some]

private theorem exists_of_placed? {text : Text} {found : Text × Text × Text}
    (isPlaced : ReportLine.placed? text = some found) :
    ∃ place behind, text = '(' :: (place ++ behind) ∧ placeEnd <:+ place ∧ '(' ∉ place := by
  rw [ReportLine.placed?] at isPlaced
  split at isPlaced
  · next line column behind parenthesised =>
      obtain ⟨lineNumeral, columnNumeral, rfl⟩ := parenthesised?_eq_some_iff.mp parenthesised
      refine ⟨line ++ ',' :: (column ++ placeEnd), behind, by simp [placeEnd],
        ⟨line ++ ',' :: column, by simp⟩, ?_⟩
      simp [not_mem_of_isNumeral lineNumeral (c := '(') (by decide),
        not_mem_of_isNumeral columnNumeral (c := '(') (by decide), placeEnd]
  · cases isPlaced

/-- A place that is found before the parenthesis of another one has its end there, too. -/
private theorem isInfix_of_placed? {lead rest : Text} {found : Text × Text × Text}
    (filled : lead ≠ [])
    (isPlaced : ReportLine.placed? (lead ++ '(' :: rest) = some found) : placeEnd <:+: lead := by
  obtain ⟨place, behind, whole, ends, unopened⟩ := exists_of_placed? isPlaced
  obtain ⟨c, lead, rfl⟩ := List.exists_cons_of_ne_nil filled
  have inLead : place <+: lead := Text.isPrefix_of_append_cons unopened (List.cons.inj whole).2
  exact (ends.isInfix.trans inLead.isInfix).trans (List.suffix_cons c lead).isInfix

private theorem isInfix_of_located? {line : Text} {found : Text × Text × Text × Text}
    (isLocated : ReportLine.located? line = some found) : placeEnd <:+: line := by
  induction line generalizing found with
  | nil => cases isLocated
  | cons c line inductionHypothesis =>
      refine List.IsInfix.trans ?_ (List.suffix_cons c line).isInfix
      rw [ReportLine.located?] at isLocated
      split at isLocated
      · next place isPlaced =>
          obtain ⟨inner, behind, rfl, ends, _⟩ := exists_of_placed? isPlaced
          exact ends.isInfix.trans ⟨['('], behind, rfl⟩
      · obtain ⟨place, later, _⟩ := Option.map_eq_some_iff.mp isLocated
        exact inductionHypothesis later

/-- No place ends in an announcement before its text. -/
private theorem isInfix_of_isInfix_announcement {level : Level} {code : FaultCode} {text : Text}
    (inside : placeEnd <:+: announcement level code text) : placeEnd <:+: text := by
  have digits : ')' ∉ code.digits := fun member => absurd (code.number.2 _ member) (by decide)
  have name : ')' ∉ level.name := by cases level <;> decide
  have unclosed : ')' ∉ announcement level code [] := by
    simp [announcement, FaultCode.text, name, digits]
  have split : announcement level code text = announcement level code [] ++ text := by
    simp [announcement]
  rw [split] at inside
  exact Text.isInfix_of_isInfix_append unclosed inside

private theorem located?_placeMark {file : Text} (named : file ≠ [])
    (unplaced : ¬ placeEnd <:+: file)
    (position : Position) (level : Level) (code : FaultCode) (text : Text) :
    ReportLine.located? (file ++ (placeMark position ++ announcement level code text)) =
      some (file, Text.decimal position.line, Text.decimal position.column, code.text) := by
  induction file with
  | nil => exact absurd rfl named
  | cons c file inductionHypothesis =>
      rw [List.cons_append, ReportLine.located?]
      by_cases last : file = []
      · subst last
        rw [List.nil_append, placed?_placeMark]
      · have unplacedRest : ¬ placeEnd <:+: file := fun inside =>
          unplaced (inside.trans (List.suffix_cons c file).isInfix)
        have missing : ReportLine.placed?
            (file ++ (placeMark position ++ announcement level code text)) = none :=
          Option.eq_none_iff_forall_ne_some.mpr fun found isPlaced =>
            unplacedRest (isInfix_of_placed? last isPlaced)
        rw [missing, inductionHypothesis last unplacedRest, Option.map_some]

example :
    ReportLine.located? "docs(1,2)/a, b.ts(3,4): error TS7: f(5,6): error TS8: g".toList =
      some ("docs(1,2)/a, b.ts".toList, "3".toList, "4".toList, "TS7".toList) := by
  decide

/-! ## Lines of a report -/

namespace Entry

private theorem code?_eq_none_iff {entry : Entry} :
    entry.code? = none ↔ ∃ comment, entry = .remark comment := by
  cases entry <;> simp [code?]

private theorem notMem_line (entry : Entry) : '\n' ∉ entry.line := by
  cases entry with
  | placed fault =>
      have digits (n : Nat) : '\n' ∉ Text.decimal n := fun member =>
        absurd (BlockPath.isDigit_of_mem_decimal member) (by decide)
      simp [line, placeMark, placeEnd, fault.unbroken.1, digits,
        notMem_announcement fault.level fault.code fault.unbroken.2]
  | general fault => exact notMem_announcement fault.level fault.code fault.unbroken
  | remark comment => exact comment.unbroken

/-- A line is read as what it was written for. -/
private theorem ofText_of_isReadAs {entry : Entry} {read : Text}
    (isRead : IsReadAs entry.line read) :
    (ReportLine.ofText read).position? = entry.position? ∧
      (ReportLine.ofText read).code? = entry.code? := by
  cases entry with
  | placed fault =>
      rw [line, ← List.append_assoc] at isRead
      obtain ⟨rest, rfl⟩ := announcement_of_isReadAs isRead
      rw [List.append_assoc, ReportLine.ofText,
        located?_placeMark fault.named fault.unplaced]
      simp only [ReportLine.code?, ReportLine.position?, Text.parseDecimal?_decimal fault.counted.1,
        Text.parseDecimal?_decimal fault.counted.2, Option.map_some]
      exact ⟨rfl, rfl⟩
  | general fault =>
      have missing : ReportLine.located? read = none :=
        Option.eq_none_iff_forall_ne_some.mpr fun found isLocated =>
          fault.unplaced (isInfix_of_isInfix_announcement
            ((isInfix_of_located? isLocated).trans isRead.isPrefix.isInfix))
      rw [line, ← List.nil_append (announcement _ _ _)] at isRead
      obtain ⟨rest, rfl⟩ := announcement_of_isReadAs isRead
      rw [ReportLine.ofText, missing, List.nil_append, levelAndCode?_general fault.grave]
      exact ⟨rfl, rfl⟩
  | remark comment =>
      have missing : ReportLine.located? read = none :=
        Option.eq_none_iff_forall_ne_some.mpr fun found isLocated =>
          comment.unplaced ((isInfix_of_located? isLocated).trans isRead.isPrefix.isInfix)
      have unannounced : ReportLine.levelAndCode? ReportLine.generalLevels read = none := by
        refine Option.eq_none_iff_forall_ne_some.mpr fun code found => ?_
        rcases isPrefix_of_levelAndCode? found with begins | begins
        · exact comment.faultless.1 (begins.trans isRead.isPrefix)
        · exact comment.faultless.2 (begins.trans isRead.isPrefix)
      rw [ReportLine.ofText, missing, unannounced]
      exact ⟨rfl, rfl⟩

end Entry

private theorem filterMap_lines_written {α : Type} {ofLine : ReportLine → Option α}
    {ofEntry : Entry → Option α} (same : ∀ {entry : Entry} {read : Text}, IsReadAs entry.line read →
      ofLine (ReportLine.ofText read) = ofEntry entry)
    (entries : List (Entry × LineEnd)) :
    ((Text.lines (written entries)).map ReportLine.ofText).filterMap ofLine =
      entries.filterMap fun entry => ofEntry entry.1 := by
  induction entries with
  | nil => rfl
  | cons entry entries inductionHypothesis =>
      obtain ⟨read, lines, isRead⟩ :=
        lines_append_lineEnd entry.1.notMem_line entry.2 (written entries)
      rw [written, List.flatMap_cons, ← written, lines, List.map_cons, List.filterMap_cons,
        List.filterMap_cons, same isRead, inductionHypothesis]

/-! ## Reports -/

/-- A text of white space only. -/
def IsBlank (text : Text) : Prop :=
  ∀ c ∈ text, Text.isWhite c = true

-- The characters of the text are gone through, and not all that there are.
instance (text : Text) : Decidable (IsBlank text) :=
  List.decidableBAll (fun c => Text.isWhite c = true) text

/-- `IsTrimmed text trimmed` means that `trimmed` is the text without the white space at its end. -/
def IsTrimmed (text trimmed : Text) : Prop :=
  (∃ white, text = trimmed ++ white ∧ IsBlank white) ∧
    ∀ c ∈ trimmed.getLast?, Text.isWhite c = false

private theorem isTrimmed_iff {text trimmed : Text} :
    IsTrimmed text trimmed ↔ trimmed = Text.trimEnd text := by
  constructor
  · rintro ⟨⟨white, rfl, isBlank⟩, kept⟩
    exact (Text.dropEndWhile_append_of_all kept isBlank).symm
  · rintro rfl
    exact ⟨Text.exists_eq_dropEndWhile_append Text.isWhite text,
      Text.getLast?_dropEndWhile Text.isWhite text⟩

private theorem trimEnd_eq_nil_iff {text : Text} : Text.trimEnd text = [] ↔ IsBlank text :=
  List.rdropWhile_eq_nil_iff

private theorem mem_insertField_of_ne {key value : Text} {fields : List (Text × Text)}
    {field : Text × Text} (other : field.1 ≠ key) :
    field ∈ insertField key value fields ↔ field ∈ fields := by
  have different (value : Text) : field ≠ (key, value) := by
    rintro rfl
    exact other rfl
  fun_induction insertField key value fields with
  | case1 => simp [different]
  | case2 first fields same =>
      have notFirst : field ≠ first := by
        rintro rfl
        exact other same.symm
      simp [different, notFirst]
  | case3 first fields distinct smaller => simp [different]
  | case4 first fields distinct larger inductionHypothesis => simp [inductionHypothesis]

private theorem mem_insertField_self {key value other : Text} {fields : List (Text × Text)}
    (fresh : ∀ value, (key, value) ∉ fields) :
    (key, other) ∈ insertField key value fields ↔ other = value := by
  fun_induction insertField key value fields with
  | case1 => simp
  | case2 first fields same =>
      subst same
      exact absurd List.mem_cons_self (fresh first.2)
  | case3 first fields distinct smaller =>
      have notLater := fresh other
      rw [List.mem_cons, Prod.mk.injEq]
      simp [notLater]
  | case4 first fields distinct larger inductionHypothesis =>
      have notFirst : (key, other) ≠ first := fun same => distinct (congrArg Prod.fst same)
      have notLater : ∀ value, (key, value) ∉ fields := fun value member =>
        fresh value (List.mem_cons_of_mem first member)
      rw [List.mem_cons, inductionHypothesis notLater]
      simp [notFirst]

theorem mem_extra_ofReport {stdout stderr value : Text} {exitStatus : Option Int} :
    ("stderr".toList, value) ∈ (ofReport stdout stderr exitStatus).extra ↔
      ¬ IsBlank stdout ∧ ¬ IsBlank stderr ∧ IsTrimmed stderr value := by
  have notNamed (value : Text) :
      ("stderr".toList, value) ∉ insertField "name".toList "TSError".toList [] := by
    rw [mem_insertField_of_ne (show "stderr".toList ≠ "name".toList by decide)]
    exact List.not_mem_nil
  have notExited (status : Int) (value : Text) : ("stderr".toList, value) ∉
      insertField "exitCode".toList (toString status).toList
        (insertField "name".toList "TSError".toList []) := by
    rw [mem_insertField_of_ne (show "stderr".toList ≠ "exitCode".toList by decide)]
    exact notNamed value
  rw [← trimEnd_eq_nil_iff, ← trimEnd_eq_nil_iff, isTrimmed_iff]
  by_cases silent : (Text.trimEnd stdout).isEmpty || (Text.trimEnd stderr).isEmpty
  · have noField : ("stderr".toList, value) ∉ (ofReport stdout stderr exitStatus).extra := by
      unfold ofReport
      simp only [if_pos silent]
      cases exitStatus with
      | none => exact notNamed value
      | some status => exact notExited status value
    rw [Bool.or_eq_true, List.isEmpty_iff, List.isEmpty_iff] at silent
    constructor
    · exact fun member => absurd member noField
    · rintro ⟨spoken, complained, _⟩
      exact absurd silent (not_or.mpr ⟨spoken, complained⟩)
  · have fields : ("stderr".toList, value) ∈ (ofReport stdout stderr exitStatus).extra ↔
        value = Text.trimEnd stderr := by
      unfold ofReport
      simp only [if_neg silent]
      cases exitStatus with
      | none => exact mem_insertField_self notNamed
      | some status => exact mem_insertField_self (notExited status)
    rw [Bool.or_eq_true, List.isEmpty_iff, List.isEmpty_iff, not_or] at silent
    rw [fields]
    exact ⟨fun same => ⟨silent.1, silent.2, same⟩, fun parts => parts.2.2⟩

private theorem isTrimmed_detail (stdout stderr : Text) (exitStatus : Option Int) :
    if IsBlank stdout then IsTrimmed stderr (ofReport stdout stderr exitStatus).detail
    else IsTrimmed stdout (ofReport stdout stderr exitStatus).detail := by
  have isEmpty_iff : (Text.trimEnd stdout).isEmpty = true ↔ IsBlank stdout :=
    List.isEmpty_iff.trans trimEnd_eq_nil_iff
  obtain ⟨message, extra, read⟩ := exists_ofReport_eq stdout stderr exitStatus
  rw [congrArg Diagnostic.detail read]
  by_cases blank : IsBlank stdout
  · rw [if_pos blank, if_pos (isEmpty_iff.mpr blank)]
    exact isTrimmed_iff.mpr rfl
  · rw [if_neg blank, if_neg (mt isEmpty_iff.mp blank)]
    exact isTrimmed_iff.mpr rfl

/-- Reading what is written for any faults and remarks gives their positions and codes in order,
whatever the other output and the exit status; it is a crash exactly if there are only remarks. -/
theorem ofReport_written (entries : List (Entry × LineEnd)) (stderr : Text)
    (exitStatus : Option Int) :
    let stdout := written entries
    let diagnostic := ofReport stdout stderr exitStatus
    diagnostic.positions = entries.filterMap (fun entry => entry.1.position?) ∧
      diagnostic.codes = entries.filterMap (fun entry => entry.1.code?) ∧
      (diagnostic.kind = .crash ↔ ∀ entry ∈ entries, ∃ comment, entry.1 = .remark comment) ∧
      (if IsBlank stdout then IsTrimmed stderr diagnostic.detail
        else IsTrimmed stdout diagnostic.detail) ∧
      ∀ value, ("stderr".toList, value) ∈ diagnostic.extra ↔
        ¬ IsBlank stdout ∧ ¬ IsBlank stderr ∧ IsTrimmed stderr value := by
  intro stdout diagnostic
  have codes : ((Text.lines stdout).map ReportLine.ofText).filterMap ReportLine.code? =
      entries.filterMap fun entry => entry.1.code? :=
    filterMap_lines_written (fun isRead => (Entry.ofText_of_isReadAs isRead).2) entries
  have positions : ((Text.lines stdout).map ReportLine.ofText).filterMap ReportLine.position? =
      entries.filterMap fun entry => entry.1.position? :=
    filterMap_lines_written (fun isRead => (Entry.ofText_of_isReadAs isRead).1) entries
  obtain ⟨message, extra, read⟩ := exists_ofReport_eq stdout stderr exitStatus
  rw [codes, positions] at read
  refine ⟨congrArg Diagnostic.positions read, congrArg Diagnostic.codes read, ?_,
    isTrimmed_detail stdout stderr exitStatus, fun value => mem_extra_ofReport⟩
  have crashes : diagnostic.kind = .crash ↔
      (entries.filterMap fun entry => entry.1.code?) = [] := by
    rw [congrArg Diagnostic.kind read, ← List.isEmpty_iff]
    simp
  rw [crashes, List.filterMap_eq_nil_iff]
  simp only [Entry.code?_eq_none_iff]

/-- A fault whose file name and text hold what looks like a place. -/
def missingName : PlacedFault where
  position := ⟨"a(1,2).ts".toList, 3, 7⟩
  level := .error
  code := ⟨Text.decimal 2304, BlockPath.isNumber_decimal 2304⟩
  text := "No 'f(5,6): error TS8: g'.".toList
  named := by decide
  unplaced := by decide +kernel
  counted := by decide
  unbroken := by decide

def missingInputs : GeneralFault where
  level := .warning
  code := ⟨Text.decimal 18003, BlockPath.isNumber_decimal 18003⟩
  text := "No inputs.".toList
  grave := by decide
  unplaced := by decide +kernel
  unbroken := by decide

def tally : Remark where
  text := "Found 1 error in a(1,2).ts:3".toList
  unplaced := by decide +kernel
  faultless := by decide
  unbroken := by decide

/-- A line of each kind, with both line ends, and another output that is not blank. -/
theorem ofReport_written_of_each_kind :
    let entries := [(Entry.placed missingName, LineEnd.returnAndNewline),
      (.general missingInputs, .newline), (.remark tally, .returnAndNewline)]
    let diagnostic := ofReport (written entries) "npm failed\n".toList (some 2)
    written entries =
        "a(1,2).ts(3,7): error TS2304: No 'f(5,6): error TS8: g'.\r\n".toList ++
          "warning TS18003: No inputs.\nFound 1 error in a(1,2).ts:3\r\n".toList ∧
      diagnostic.positions = [⟨"a(1,2).ts".toList, 3, 7⟩] ∧
      diagnostic.codes = ["TS2304".toList, "TS18003".toList] ∧
      diagnostic.kind ≠ .crash ∧
      diagnostic.detail ++ ['\r', '\n'] = written entries ∧
      ("stderr".toList, "npm failed".toList) ∈ diagnostic.extra := by
  intro entries diagnostic
  have spoken : ¬ IsBlank (written entries) := by decide
  have trimmed : IsTrimmed "npm failed\n".toList "npm failed".toList :=
    isTrimmed_iff.mpr (by decide)
  obtain ⟨positions, codes, crashes, detail, complaint⟩ :=
    ofReport_written entries "npm failed\n".toList (some 2)
  rw [if_neg spoken, isTrimmed_iff] at detail
  refine ⟨by decide +kernel, positions, codes, ?_, ?_,
    (complaint _).mpr ⟨spoken, by decide, trimmed⟩⟩
  · intro crash
    obtain ⟨comment, same⟩ := crashes.mp crash _ List.mem_cons_self
    cases same
  · rw [detail]
    decide

end DocCheck.Diagnostic
