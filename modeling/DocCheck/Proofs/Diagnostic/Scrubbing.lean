import DocCheck.Diagnostic.Report
import DocCheck.Proofs.Diagnostic.Reference
import DocCheck.Proofs.Diagnostic.Relabelling

/-!
Reports whose paths of block files are replaced before they are read. Lines, places and codes are set
off by delimiters, which no path crosses. Main statement: it makes no difference whether a report is
read first or the paths in it are replaced first.
-/

namespace DocCheck

namespace Diagnostic

open BlockPath (relabel relabelled_relabel isSlash isDelimiter)

/-! ## Codes and places -/

/-- The code behind a level that a text begins with. -/
def codeBehind? (level text : Text) : Option Text :=
  match List.isPrefixOf? (level ++ " TS".toList) text with
  | none => none
  | some rest =>
      match digits? rest with
      | some (number, ':' :: ' ' :: _) => some ('T' :: 'S' :: number)
      | _ => none

/-- A level and a code, up to the colon behind them. -/
def codeText (level number : Text) : Text :=
  level ++ " TS".toList ++ number

/-- A place, up to the colon behind it. -/
def placeText (line column : Text) : Text :=
  '(' :: (line ++ ',' :: (column ++ [')']))

private theorem codeBehind?_eq_some_iff {level text code : Text} :
    codeBehind? level text = some code ↔
      ∃ number, IsNumeral number ∧ code = 'T' :: 'S' :: number ∧
        codeText level number ++ ": ".toList <+: text := by
  constructor
  · intro read
    unfold codeBehind? at read
    split at read
    · cases read
    · next rest stripped =>
        split at read
        · next number behind readNumber =>
            cases read
            obtain ⟨numeral, _, rfl⟩ := digits?_eq_some_iff.mp readNumber
            refine ⟨number, numeral, rfl, behind, ?_⟩
            rw [← List.append_eq_of_isPrefixOf?_eq_some stripped]
            simp [codeText]
        · cases read
  · rintro ⟨number, numeral, rfl, behind, rfl⟩
    have split : codeText level number ++ ": ".toList ++ behind =
        level ++ " TS".toList ++ (number ++ ':' :: ' ' :: behind) := by
      simp [codeText]
    have readNumber := digits?_append_cons numeral (c := ':') (by decide) (' ' :: behind)
    rw [split]
    simp only [codeBehind?, Text.isPrefixOf?_append, readNumber]

/-- No level begins as another one does. -/
private theorem level_unique :
    ∀ level ∈ ReportLine.locatedLevels, ∀ other ∈ ReportLine.locatedLevels,
    level ++ " TS".toList <+: other ++ " TS".toList → level = other := by
  decide

private theorem levelAndCode?_eq_some_iff {levels : List Text}
    (known : ∀ level ∈ levels, level ∈ ReportLine.locatedLevels) {text code : Text} :
    ReportLine.levelAndCode? levels text = some code ↔
      ∃ level ∈ levels, codeBehind? level text = some code := by
  constructor
  · exact fun read => List.exists_of_findSome?_eq_some read
  · rintro ⟨level, member, read⟩
    have isRead : (ReportLine.levelAndCode? levels text).isSome = true :=
      List.findSome?_isSome_iff.mpr ⟨level, member, Option.isSome_of_eq_some read⟩
    obtain ⟨other, isOther⟩ := Option.isSome_iff_exists.mp isRead
    obtain ⟨level', member', read'⟩ := List.exists_of_findSome?_eq_some isOther
    have begins {level code : Text} (read : codeBehind? level text = some code) :
        level ++ " TS".toList <+: text := by
      obtain ⟨number, _, _, isPrefix⟩ := codeBehind?_eq_some_iff.mp read
      exact (List.prefix_append _ number).trans ((List.prefix_append _ _).trans isPrefix)
    have same : level = level' := by
      rcases List.prefix_or_prefix_of_prefix (begins read) (begins read') with first | second
      · exact level_unique _ (known level member) _ (known level' member') first
      · exact (level_unique _ (known level' member') _ (known level member) second).symm
    subst same
    rw [isOther, ← read]
    exact read'.symm

theorem placed?_eq_some_iff {text line column code : Text} :
    ReportLine.placed? text = some (line, column, code) ↔
      IsNumeral line ∧ IsNumeral column ∧
        ∃ level ∈ ReportLine.locatedLevels, ∃ number, IsNumeral number ∧
          code = 'T' :: 'S' :: number ∧
            placeText line column ++ (": ".toList ++ (codeText level number ++ ": ".toList)) <+:
              text := by
  have joined (line column behind : Text) :
      '(' :: (line ++ ',' :: (column ++ ')' :: ':' :: ' ' :: behind)) =
        placeText line column ++ (": ".toList ++ behind) := by
    simp [placeText]
  constructor
  · intro read
    rw [ReportLine.placed?] at read
    split at read
    · next line column behind parenthesised =>
        obtain ⟨lineNumeral, columnNumeral, rfl⟩ := parenthesised?_eq_some_iff.mp parenthesised
        obtain ⟨code, readCode, same⟩ := Option.map_eq_some_iff.mp read
        cases same
        obtain ⟨level, member, readCode⟩ := (levelAndCode?_eq_some_iff fun _ => id).mp readCode
        obtain ⟨number, numeral, isCode, begins⟩ := codeBehind?_eq_some_iff.mp readCode
        refine ⟨lineNumeral, columnNumeral, level, member, number, numeral, isCode, ?_⟩
        rw [joined]
        exact (List.prefix_append_right_inj _).mpr ((List.prefix_append_right_inj _).mpr begins)
    · cases read
  · rintro ⟨lineNumeral, columnNumeral, level, member, number, numeral, isCode, behind, rfl⟩
    have readCode : ReportLine.levelAndCode? ReportLine.locatedLevels
        (codeText level number ++ ": ".toList ++ behind) = some code :=
      (levelAndCode?_eq_some_iff fun _ => id).mpr ⟨level, member,
        codeBehind?_eq_some_iff.mpr ⟨number, numeral, isCode, List.prefix_append _ _⟩⟩
    have parenthesised := parenthesised?_eq_some_iff.mpr ⟨lineNumeral, columnNumeral,
      (joined line column (codeText level number ++ ": ".toList ++ behind)).symm⟩
    have whole : placeText line column ++ (": ".toList ++ (codeText level number ++ ": ".toList)) ++
        behind =
          placeText line column ++ (": ".toList ++ (codeText level number ++ ": ".toList ++ behind)) := by
      simp only [List.append_assoc]
    rw [whole, ReportLine.placed?, parenthesised]
    exact congrArg (Option.map _) readCode

/-- A place and a code right at the beginning of a text, or the first ones behind a name. -/
def locatedFrom? (text : Text) : Option (Text × Text × Text × Text) :=
  match ReportLine.placed? text with
  | some found => some ([], found)
  | none => ReportLine.located? text

private theorem located?_cons (c : Char) (rest : Text) :
    ReportLine.located? (c :: rest) =
      (locatedFrom? rest).map fun found => (c :: found.1, found.2) := by
  rw [ReportLine.located?, locatedFrom?]
  cases ReportLine.placed? rest <;> rfl

/-- The place of a line stands behind the name of its file. -/
theorem exists_placed?_of_located? {text : Text} {found : Text × Text × Text × Text}
    (isLocated : ReportLine.located? text = some found) :
    ∃ rest, text = found.1 ++ rest ∧ ReportLine.placed? rest = some found.2 := by
  induction text generalizing found with
  | nil => cases isLocated
  | cons c rest inductionHypothesis =>
      rw [located?_cons, locatedFrom?] at isLocated
      obtain ⟨later, isLater, rfl⟩ := Option.map_eq_some_iff.mp isLocated
      split at isLater
      · next place isPlaced =>
          cases isLater
          exact ⟨rest, rfl, isPlaced⟩
      · obtain ⟨behind, whole, isPlaced⟩ := inductionHypothesis isLater
        exact ⟨behind, congrArg (c :: ·) whole, isPlaced⟩

private theorem locatedFrom?_of_ne {c : Char} (unopened : c ≠ '(') (rest : Text) :
    locatedFrom? (c :: rest) = ReportLine.located? (c :: rest) := by
  have unplaced : ReportLine.placed? (c :: rest) = none := by
    refine Option.eq_none_iff_forall_ne_some.mpr fun ⟨line, column, code⟩ found => ?_
    obtain ⟨_, _, level, _, number, _, _, begins⟩ := placed?_eq_some_iff.mp found
    exact unopened (List.cons_prefix_cons.mp begins).1.symm
  rw [locatedFrom?, unplaced]

/-- No place begins before the first parenthesis. -/
private theorem located?_append {lead : Text} (filled : lead ≠ [])
    (unopened : '(' ∉ lead) (rest : Text) :
    ReportLine.located? (lead ++ rest) =
      (locatedFrom? rest).map fun found => (lead ++ found.1, found.2) := by
  induction lead with
  | nil => exact absurd rfl filled
  | cons c lead inductionHypothesis =>
      rw [List.mem_cons, not_or] at unopened
      rw [List.cons_append, located?_cons]
      cases lead with
      | nil => rfl
      | cons d lead =>
          have unopenedRest := unopened.2
          rw [List.mem_cons, not_or] at unopened
          rw [List.cons_append, locatedFrom?_of_ne (Ne.symm unopened.2.1), ← List.cons_append,
            inductionHypothesis (List.cons_ne_nil d lead) unopenedRest, Option.map_map]
          rfl

private theorem located?_of_unopened {text : Text} (unopened : '(' ∉ text) :
    ReportLine.located? text = none := by
  by_cases filled : text = []
  · subst filled
    rfl
  · have none : locatedFrom? [] = none := rfl
    rw [← List.append_nil text, located?_append filled unopened, none, Option.map_none]

private theorem eq_nil_or_cons_of_locatedFrom? {c : Char} {rest : Text}
    {found : Text × Text × Text × Text} (isLocated : locatedFrom? (c :: rest) = some found) :
    found.1 = [] ∨ ∃ file, found.1 = c :: file := by
  rw [locatedFrom?] at isLocated
  split at isLocated
  · cases isLocated
    exact Or.inl rfl
  · rw [located?_cons] at isLocated
    obtain ⟨later, _, rfl⟩ := Option.map_eq_some_iff.mp isLocated
    exact Or.inr ⟨later.1, rfl⟩

namespace ReportLine

/-- The line with another name of the file. -/
def mapFile (f : Text → Text) : ReportLine → ReportLine
  | located file line column code => located (f file) line column code
  | general code => general code
  | other => other

private theorem position?_mapFile (f : Text → Text) (line : ReportLine) :
    (line.mapFile f).position? =
      line.position?.map fun position => { position with file := f position.file } := by
  cases line with
  | located file line column code =>
      rw [mapFile, position?, position?]
      cases Text.parseDecimal? line with
      | none => rfl
      | some lineNumber => cases Text.parseDecimal? column <;> rfl
  | general code => rfl
  | other => rfl

private theorem code?_mapFile (f : Text → Text) (line : ReportLine) :
    (line.mapFile f).code? = line.code? := by
  cases line with
  | located file line column code =>
      have same := position?_mapFile f (located file line column code)
      rw [mapFile] at same
      rw [mapFile, code?, code?, same, Option.map_map]
      rfl
  | general code => rfl
  | other => rfl

/-- A code consists of two letters and a numeral. -/
private theorem exists_of_code? {line : Text} {code : Text}
    (isCode : (ofText line).code? = some code) :
    ∃ number, IsNumeral number ∧ code = 'T' :: 'S' :: number := by
  rw [ofText] at isCode
  split at isCode
  · next file lineDigits columnDigits reported isLocated =>
      obtain ⟨position, _, rfl⟩ := Option.map_eq_some_iff.mp isCode
      obtain ⟨rest, _, isPlaced⟩ := exists_placed?_of_located? isLocated
      obtain ⟨_, _, _, _, number, numeral, isCode, _⟩ := placed?_eq_some_iff.mp isPlaced
      exact ⟨number, numeral, isCode⟩
  · split at isCode
    · next reported read =>
        cases isCode
        obtain ⟨level, _, read⟩ := List.exists_of_findSome?_eq_some read
        obtain ⟨number, numeral, isCode, _⟩ := codeBehind?_eq_some_iff.mp read
        exact ⟨number, numeral, isCode⟩
    · cases isCode

end ReportLine

section Reading

variable {name label : Text} (undelimited : ∀ c ∈ name, isDelimiter c = false)
  (unmistakable : BlockPath.Unmistakable label)

include undelimited unmistakable

/-! ## Lines and ends -/

private theorem lines_relabel (text : Text) :
    Text.lines (relabel name label text) = (Text.lines text).map (relabel name label) := by
  -- The induction is on the length, for the text behind a newline is read next.
  generalize size : text.length = length
  induction length using Nat.strongRecOn generalizing text with
  | ind length inductionHypothesis =>
  subst size
  by_cases broken : '\n' ∈ text
  · obtain ⟨line, rest, rfl, unbroken⟩ := List.eq_append_cons_of_mem broken
    have shorter : rest.length < (line ++ '\n' :: rest).length := by
      rw [List.length_append, List.length_cons]
      omega
    have others := inductionHypothesis rest.length shorter rest rfl
    rw [BlockPath.relabel_append_delimiter undelimited label line (by decide)]
    by_cases returned : line.getLast? = some '\r'
    · obtain ⟨line, rfl⟩ := List.getLast?_eq_some_iff.mp returned
      rw [List.mem_append, not_or] at unbroken
      have ended (line rest : Text) :
          line ++ ['\r'] ++ '\n' :: rest = line ++ '\r' :: '\n' :: rest := by
        simp
      rw [BlockPath.relabel_append_delimiter undelimited label line (by decide),
        BlockPath.relabel_nil, ended, ended, Text.lines_append_returned unbroken.1,
        Text.lines_append_returned (BlockPath.notMem_relabel unbroken.1 unmistakable.unbroken),
        List.map_cons, others]
    · have unbrokenLine : '\n' ∉ relabel name label line :=
        BlockPath.notMem_relabel unbroken unmistakable.unbroken
      rw [Text.lines_append_newline unbroken returned, Text.lines_append_newline unbrokenLine,
        List.map_cons, others]
      exact fun last => returned (unmistakable.getLast?_relabel (by decide) last)
  · by_cases filled : text = []
    · subst filled
      rw [BlockPath.relabel_nil]
      rfl
    · have stillFilled : relabel name label text ≠ [] := fun empty =>
        filled (((relabelled_relabel name label text).eq_nil_iff unmistakable.filled).mp empty)
      rw [Text.lines_of_notMem broken filled,
        Text.lines_of_notMem (BlockPath.notMem_relabel broken unmistakable.unbroken) stillFilled]
      rfl

omit unmistakable in
private theorem relabel_append_white (text : Text) {white : Text}
    (isWhite : ∀ c ∈ white, Text.isWhite c = true) :
    relabel name label (text ++ white) = relabel name label text ++ white := by
  cases white with
  | nil => rw [List.append_nil, List.append_nil]
  | cons d white =>
      have level : ∀ c ∈ white, isSlash c = false := fun c member =>
        (BlockPath.passes_of_isDelimiter (BlockPath.isDelimiter_of_isWhite
          (isWhite c (List.mem_cons_of_mem d member)))).1
      rw [BlockPath.relabel_append_delimiter undelimited label text
        (BlockPath.isDelimiter_of_isWhite (isWhite d List.mem_cons_self)),
        (relabelled_relabel name label white).eq_of_level level]

private theorem trimEnd_relabel (text : Text) :
    Text.trimEnd (relabel name label text) = relabel name label (Text.trimEnd text) := by
  obtain ⟨white, whole, isWhite⟩ := Text.exists_eq_dropEndWhile_append Text.isWhite text
  change text = Text.trimEnd text ++ white at whole
  have kept : ∀ c ∈ (relabel name label (Text.trimEnd text)).getLast?, Text.isWhite c = false := by
    intro c last
    refine Bool.eq_false_iff.mpr fun isWhite => ?_
    have inText := unmistakable.getLast?_relabel isWhite last
    rw [Text.getLast?_dropEndWhile Text.isWhite text c inText] at isWhite
    cases isWhite
  calc
    Text.trimEnd (relabel name label text)
        = Text.trimEnd (relabel name label (Text.trimEnd text) ++ white) := by
      rw [← relabel_append_white undelimited _ isWhite, ← whole]
    _ = relabel name label (Text.trimEnd text) := Text.dropEndWhile_append_of_all kept isWhite

/-! ## Codes and places -/

private theorem isPrefix_relabel_mark {lead : Text} (noArrow : '→' ∉ lead)
    (level : ∀ c ∈ lead, isSlash c = false) (text : Text) :
    lead ++ ": ".toList <+: relabel name label text ↔ lead ++ ": ".toList <+: text := by
  have split : lead ++ ": ".toList = lead ++ [':'] ++ [' '] := by simp
  have levelMark : ∀ c ∈ lead ++ [':'], isSlash c = false := by
    intro c member
    rcases List.mem_append.mp member with inLead | isColon
    · exact level c inLead
    · rw [List.mem_singleton.mp isColon]
      rfl
  have apart := unmistakable.apart noArrow
  rw [split] at apart ⊢
  exact BlockPath.isPrefix_relabel_iff undelimited (by decide) levelMark apart text

omit undelimited unmistakable in
private theorem notMem_codeText {level number : Text} (known : level ∈ ReportLine.locatedLevels)
    (numeral : IsNumeral number) {c : Char} (noDigit : Text.isDigit c = false)
    (absent : c ∉ "error TSwarningmessage".toList) : c ∉ codeText level number := by
  have inLevel : ∀ level ∈ ReportLine.locatedLevels, level ++ " TS".toList ⊆
      "error TSwarningmessage".toList := by
    decide
  rw [codeText, List.mem_append, not_or]
  exact ⟨fun member => absent (inLevel level known member), not_mem_of_isNumeral numeral noDigit⟩

omit undelimited unmistakable in
theorem isSlash_eq_false_of_notMem {text : Text} (forward : '/' ∉ text) (backward : '\\' ∉ text) :
    ∀ c ∈ text, isSlash c = false := by
  intro c member
  rw [isSlash, Bool.or_eq_false_iff, decide_eq_false_iff_not, decide_eq_false_iff_not]
  exact ⟨fun same => forward (same ▸ member), fun same => backward (same ▸ member)⟩

private theorem codeBehind?_relabel {level : Text} (known : level ∈ ReportLine.locatedLevels)
    (text : Text) : codeBehind? level (relabel name label text) = codeBehind? level text := by
  refine Option.ext fun code => ?_
  rw [codeBehind?_eq_some_iff, codeBehind?_eq_some_iff]
  refine exists_congr fun number => and_congr_right fun numeral => and_congr_right fun _ => ?_
  exact isPrefix_relabel_mark undelimited unmistakable
    (notMem_codeText known numeral (by decide) (by decide))
    (isSlash_eq_false_of_notMem (notMem_codeText known numeral (by decide) (by decide))
      (notMem_codeText known numeral (by decide) (by decide))) text

private theorem levelAndCode?_relabel {levels : List Text}
    (known : ∀ level ∈ levels, level ∈ ReportLine.locatedLevels) (text : Text) :
    ReportLine.levelAndCode? levels (relabel name label text) =
      ReportLine.levelAndCode? levels text := by
  refine Option.ext fun code => ?_
  rw [levelAndCode?_eq_some_iff known, levelAndCode?_eq_some_iff known]
  refine exists_congr fun level => and_congr_right fun member => ?_
  rw [codeBehind?_relabel undelimited unmistakable (known level member)]

private theorem placed?_relabel (text : Text) :
    ReportLine.placed? (relabel name label text) = ReportLine.placed? text := by
  refine Option.ext fun ⟨line, column, code⟩ => ?_
  rw [placed?_eq_some_iff, placed?_eq_some_iff]
  refine and_congr_right fun lineNumeral => and_congr_right fun columnNumeral => ?_
  refine exists_congr fun level => and_congr_right fun known => ?_
  refine exists_congr fun number => and_congr_right fun numeral => and_congr_right fun _ => ?_
  have absent : ∀ c : Char, Text.isDigit c = false → c ∉ "(,): error TSwarningmessage".toList →
      c ∉ placeText line column ++ (": ".toList ++ codeText level number) := by
    intro c noDigit apart
    have inLine := not_mem_of_isNumeral lineNumeral noDigit
    have inColumn := not_mem_of_isNumeral columnNumeral noDigit
    have inCode := notMem_codeText known numeral noDigit fun member =>
      apart (List.mem_append_right "(,): ".toList member)
    have others : c ≠ '(' ∧ c ≠ ',' ∧ c ≠ ')' ∧ c ≠ ':' ∧ c ≠ ' ' := by
      refine ⟨?_, ?_, ?_, ?_, ?_⟩ <;> rintro rfl <;> exact apart (by decide)
    simp [placeText, inLine, inColumn, inCode, others]
  have mark := isPrefix_relabel_mark undelimited unmistakable (absent '→' (by decide) (by decide))
    (isSlash_eq_false_of_notMem (absent '/' (by decide) (by decide))
      (absent '\\' (by decide) (by decide))) text
  simpa only [List.append_assoc] using mark

/-! ## Lines and reports -/

private theorem locatedFrom?_relabel {text : Text}
    (same : ReportLine.located? (relabel name label text) =
      (ReportLine.located? text).map fun found => (relabel name label found.1, found.2)) :
    locatedFrom? (relabel name label text) =
      (locatedFrom? text).map fun found => (relabel name label found.1, found.2) := by
  rw [locatedFrom?, locatedFrom?, placed?_relabel undelimited unmistakable]
  cases ReportLine.placed? text with
  | none => exact same
  | some found =>
      dsimp only [Option.map_some]
      rw [BlockPath.relabel_nil]

private theorem located?_relabel (text : Text) :
    ReportLine.located? (relabel name label text) =
      (ReportLine.located? text).map fun found => (relabel name label found.1, found.2) := by
  -- The induction is on the length, for the text from a parenthesis on is searched next.
  generalize size : text.length = length
  induction length using Nat.strongRecOn generalizing text with
  | ind length inductionHypothesis =>
  subst size
  by_cases opened : '(' ∈ text
  · obtain ⟨lead, rest, rfl, unopened⟩ := List.eq_append_cons_of_mem opened
    have behind (lead rest : Text) :=
      BlockPath.relabel_append_delimiter undelimited label lead (d := '(') (by decide) rest
    have atOnce (rest : Text) :
        relabel name label ('(' :: rest) = '(' :: relabel name label rest := by
      have whole := behind [] rest
      rwa [List.nil_append, BlockPath.relabel_nil, List.nil_append] at whole
    by_cases filled : lead = []
    · subst filled
      have shorter : rest.length < ([] ++ '(' :: rest).length := Nat.lt_succ_self _
      have fromRest := locatedFrom?_relabel undelimited unmistakable
        (inductionHypothesis rest.length shorter rest rfl)
      rw [List.nil_append, atOnce, located?_cons, located?_cons, fromRest, Option.map_map,
        Option.map_map]
      refine congrArg (fun f => Option.map f _) (funext fun found => ?_)
      dsimp only [Function.comp]
      rw [atOnce]
    · have shorter : ('(' :: rest).length < (lead ++ '(' :: rest).length := by
        have := List.length_pos_iff.mpr filled
        rw [List.length_append]
        omega
      have fromRest := locatedFrom?_relabel undelimited unmistakable
        (inductionHypothesis _ shorter ('(' :: rest) rfl)
      have stillFilled : relabel name label lead ≠ [] := fun empty =>
        filled (((relabelled_relabel name label lead).eq_nil_iff unmistakable.filled).mp empty)
      rw [behind, ← atOnce, located?_append filled unopened, located?_append stillFilled
        (BlockPath.notMem_relabel unopened unmistakable.unopened), fromRest]
      cases isLocated : locatedFrom? ('(' :: rest) with
      | none => rfl
      | some found =>
          have joined : relabel name label (lead ++ found.1) =
              relabel name label lead ++ relabel name label found.1 := by
            rcases eq_nil_or_cons_of_locatedFrom? isLocated with none | ⟨file, isFile⟩
            · rw [none, List.append_nil, BlockPath.relabel_nil, List.append_nil]
            · rw [isFile, behind, atOnce]
          dsimp only [Option.map_some]
          rw [joined]
  · rw [located?_of_unopened opened,
      located?_of_unopened (BlockPath.notMem_relabel opened unmistakable.unopened)]
    rfl

private theorem ofText_relabel (line : Text) :
    ReportLine.ofText (relabel name label line) =
      (ReportLine.ofText line).mapFile (relabel name label) := by
  have general : ∀ level ∈ ReportLine.generalLevels, level ∈ ReportLine.locatedLevels := by
    decide
  rw [ReportLine.ofText, ReportLine.ofText, located?_relabel undelimited unmistakable,
    levelAndCode?_relabel undelimited unmistakable general]
  cases ReportLine.located? line with
  | some found => rfl
  | none =>
      dsimp only [Option.map_none]
      cases ReportLine.levelAndCode? ReportLine.generalLevels line <;> rfl

/-- What is read of the lines of a replaced report. -/
theorem map_ofText_lines_relabel (text : Text) :
    (Text.lines (relabel name label text)).map ReportLine.ofText =
      ((Text.lines text).map ReportLine.ofText).map
        (ReportLine.mapFile (relabel name label)) := by
  rw [lines_relabel undelimited unmistakable, List.map_map, List.map_map]
  exact List.map_congr_left fun line _ => ofText_relabel undelimited unmistakable line

omit undelimited unmistakable in
private theorem relabel_code {line code : Text}
    (isCode : (ReportLine.ofText line).code? = some code) :
    relabel name label code = code := by
  obtain ⟨number, numeral, rfl⟩ := ReportLine.exists_of_code? isCode
  refine (relabelled_relabel name label _).eq_of_level (isSlash_eq_false_of_notMem ?_ ?_)
  · simp [not_mem_of_isNumeral numeral (c := '/') (by decide)]
  · simp [not_mem_of_isNumeral numeral (c := '\\') (by decide)]

end Reading

/-! ## Reports -/

private theorem map_insertField (f : Text → Text) (key value : Text) (fields : List (Text × Text)) :
    (insertField key value fields).map (fun field => (field.1, f field.2)) =
      insertField key (f value) (fields.map fun field => (field.1, f field.2)) := by
  fun_induction insertField key value fields with
  | case1 => rfl
  | case2 first fields same => simp [insertField, same]
  | case3 first fields distinct smaller => simp [insertField, distinct, smaller]
  | case4 first fields distinct larger inductionHypothesis =>
      simp [insertField, distinct, larger, inductionHypothesis]

private theorem mapTexts_withField (f : Text → Text) (key value : Text) (diagnostic : Diagnostic) :
    (diagnostic.withField key value).mapTexts f =
      (diagnostic.mapTexts f).withField key (f value) := by
  simp only [withField, mapTexts, map_insertField]

section Report

variable {name label : Text} (undelimited : ∀ c ∈ name, isDelimiter c = false)
  (unmistakable : BlockPath.Unmistakable label)

private theorem level_toString (status : Int) :
    ∀ c ∈ (toString status).toList, isSlash c = false := by
  have level (n : Nat) : ∀ c ∈ (toString n).toList, isSlash c = false := by
    have digits : (toString n).toList = Text.decimal n := Nat.toList_repr
    rw [digits]
    exact isSlash_eq_false_of_notMem (not_mem_of_isNumeral (isNumeral_decimal n) (by decide))
      (not_mem_of_isNumeral (isNumeral_decimal n) (by decide))
  cases status with
  | ofNat n => exact level n
  | negSucc n =>
      have signed : (toString (Int.negSucc n)).toList = '-' :: (toString (n + 1)).toList :=
        String.toList_append
      rw [signed]
      exact List.forall_mem_cons.mpr ⟨rfl, level (n + 1)⟩

include undelimited in
/-- The first line of a message ends where no path begins. -/
private theorem relabel_heading (label detail : Text) :
    relabel name label ("Unable to compile TypeScript:\n".toList ++ detail) =
      "Unable to compile TypeScript:\n".toList ++ relabel name label detail := by
  have ended : "Unable to compile TypeScript:\n".toList =
      "Unable to compile TypeScript:".toList ++ ['\n'] := by
    decide
  have level : ∀ c ∈ "Unable to compile TypeScript:".toList, isSlash c = false :=
    Text.forall_mem_of_all (by decide)
  rw [ended, List.append_assoc, List.append_assoc]
  exact BlockPath.relabel_append_of_level undelimited label level (by decide) detail

include undelimited unmistakable

private theorem codes_relabel (text : Text) :
    ((Text.lines (relabel name label text)).map ReportLine.ofText).filterMap ReportLine.code? =
        (((Text.lines text).map ReportLine.ofText).filterMap ReportLine.code?).map
          (relabel name label) := by
  have kept : ∀ code ∈ ((Text.lines text).map ReportLine.ofText).filterMap ReportLine.code?,
      relabel name label code = code := by
    intro code member
    obtain ⟨read, inLines, isCode⟩ := List.mem_filterMap.mp member
    obtain ⟨line, _, rfl⟩ := List.mem_map.mp inLines
    exact relabel_code isCode
  rw [map_ofText_lines_relabel undelimited unmistakable, List.filterMap_map,
    List.map_congr_left kept, List.map_id']
  exact congrArg (List.filterMap · _) (funext fun line => ReportLine.code?_mapFile _ line)

private theorem positions_relabel (text : Text) :
    ((Text.lines (relabel name label text)).map ReportLine.ofText).filterMap
        ReportLine.position? =
      (((Text.lines text).map ReportLine.ofText).filterMap ReportLine.position?).map
        fun position => { position with file := relabel name label position.file } := by
  rw [map_ofText_lines_relabel undelimited unmistakable, List.filterMap_map, List.map_filterMap]
  exact congrArg (List.filterMap · _) (funext fun line => ReportLine.position?_mapFile _ line)

end Report

/-- It makes no difference whether a report is read first or the paths of block files in it are
replaced first. -/
theorem scrub_ofReport {scratch : ScratchDir} {document : Text} {index : Nat}
    (undelimited : ∀ c ∈ scratch.name, BlockPath.isDelimiter c = false)
    (begins : ∀ c ∈ (blockLabel document index).head?, Text.isWhite c = false)
    (unopened : '(' ∉ blockLabel document index)
    (unbroken : '\n' ∉ blockLabel document index)
    (uncoloned : ¬ ": ".toList <:+: blockLabel document index)
    (stdout stderr : Text) (exitStatus : Option Int) :
    let label := blockLabel document index
    let replaced := Text.replaceAll scratch.blockPattern fun _ _ => label
    (ofReport stdout stderr exitStatus).scrub scratch.blockPattern label =
      ofReport (replaced stdout) (replaced stderr) exitStatus := by
  intro label replaced
  have unmistakable : BlockPath.Unmistakable label :=
    BlockPath.unmistakable_blockLabel begins unopened unbroken uncoloned
  change (ofReport stdout stderr exitStatus).mapTexts (relabel scratch.name label) =
    ofReport (relabel scratch.name label stdout) (relabel scratch.name label stderr) exitStatus
  unfold ofReport
  dsimp only
  rw [codes_relabel undelimited unmistakable, positions_relabel undelimited unmistakable,
    trimEnd_relabel undelimited unmistakable, trimEnd_relabel undelimited unmistakable,
    unmistakable.isEmpty_relabel, unmistakable.isEmpty_relabel, List.isEmpty_map]
  generalize Text.trimEnd stdout = output, Text.trimEnd stderr = errors
  have detail : relabel scratch.name label (if output.isEmpty then errors else output) =
      if output.isEmpty then relabel scratch.name label errors
      else relabel scratch.name label output := by
    split <;> rfl
  have message (detail : Text) := relabel_heading undelimited label detail
  have named : relabel scratch.name label "TSError".toList = "TSError".toList :=
    (relabelled_relabel _ _ _).eq_of_level (Text.forall_mem_of_all (by decide))
  -- From here on what the texts of the program say does not matter.
  generalize "Unable to compile TypeScript:\n".toList = heading at message ⊢
  generalize "TSError".toList = errorName at named ⊢
  rw [← detail]
  generalize (if output.isEmpty then errors else output) = detail
  cases exitStatus with
  | none =>
      dsimp only
      split
      · rw [mapTexts_withField, named, mapTexts, message]
        rfl
      · rw [mapTexts_withField, mapTexts_withField, named, mapTexts, message]
        rfl
  | some status =>
      have exitCode := (relabelled_relabel scratch.name label (toString status).toList).eq_of_level
        (level_toString status)
      dsimp only
      split
      · rw [mapTexts_withField, mapTexts_withField, exitCode, named, mapTexts, message]
        rfl
      · rw [mapTexts_withField, mapTexts_withField, mapTexts_withField, exitCode, named,
          mapTexts, message]
        rfl

/-- A report with the path of a block file at a place, in the text of a fault and in parentheses. -/
theorem scrub_ofReport_of_two_outputs :
    let scratch : ScratchDir := ⟨"tmp".toList, "./tmp".toList⟩
    let label := blockLabel "a b.md".toList 2
    let replaced := Text.replaceAll scratch.blockPattern fun _ _ => label
    let stdout := "./tmp/block-7.ts(3,5): error TS23: no x in tmp/block-7.ts\r\n"
    let fault := "a b.md → Code Block 2(3,5): error TS23: no x in ".toList ++ label
    ofReport (replaced stdout.toList) (replaced "at (/tmp/block-7.ts)\n".toList)
        (some 2) =
      ⟨.typeCheck, "Unable to compile TypeScript:\n".toList ++ fault, fault, [⟨label, 3, 5⟩],
        ["TS23".toList], [("exitCode".toList, "2".toList), ("name".toList, "TSError".toList),
          ("stderr".toList, "at (a b.md → Code Block 2)".toList)]⟩ := by
  intro scratch label replaced stdout fault
  have undelimited : ∀ c ∈ scratch.name, isDelimiter c = false :=
    Text.forall_mem_of_all (by decide)
  have begins : ∀ c ∈ label.head?, Text.isWhite c = false := by
    have first : label.head? = some 'a' := by decide +kernel
    intro c isFirst
    obtain rfl : 'a' = c := Option.some.inj (first.symm.trans isFirst)
    decide
  have unopened : '(' ∉ label := by decide +kernel
  have unbroken : '\n' ∉ label := by decide +kernel
  have uncoloned : ¬ ": ".toList <:+: label := by decide +kernel
  have scrubbed := scrub_ofReport undelimited begins unopened unbroken uncoloned stdout.toList
    "at (/tmp/block-7.ts)\n".toList (some 2)
  rw [← scrubbed]
  decide +kernel

end Diagnostic

end DocCheck
