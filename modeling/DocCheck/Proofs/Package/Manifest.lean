import DocCheck.Package.Manifest
import DocCheck.Proofs.Json.Skipping

/-!
Manifests, as they may be written. Main statement: the name and the main file are found wherever their
members stand, whatever stands in the other members, and however keys and texts are spelled; a name
that is missing or blank is refused.
-/

namespace DocCheck.Manifest

open Json

/-! ## Manifests as texts -/

/-- A field that is read. -/
inductive Field where
  | name
  | main
  deriving DecidableEq

def Field.key : Field → Text
  | .name => "name".toList
  | .main => "main".toList

/-- What a member of a manifest says. -/
inductive Statement where
  | field (field : Field) (value : Option Text)
  | other

/-- What is stated for a field. -/
def stated (field : Field) (statements : List Statement) : List (Option Text) :=
  statements.filterMap fun
    | .field known value => if known = field then some value else none
    | .other => none

/-- A field has a value: it is stated once, or it is not stated and the value is none. -/
def States (statements : List Statement) (field : Field) (value : Option Text) : Prop :=
  stated field statements = [value] ∨ stated field statements = [] ∧ value = none

/-- What stands for a text or for none. -/
inductive SpellsValue : Text → Option Text → Prop
  | null : SpellsValue "null".toList none
  | string {content text : Text} (spells : Spells content text) :
      SpellsValue ('"' :: (content ++ ['"'])) (some text)

/-- What a member says depends on its key, however that is spelled. -/
inductive Says : Member → Statement → Prop
  | field {member : Member} {value : Option Text} (field : Field) (key : Spells member.key field.key)
      (spells : SpellsValue member.element.value value) : Says member (.field field value)
  | other {member : Member} {key : Text} (spells : Spells member.key key)
      (noField : ∀ field : Field, key ≠ field.key) (isValue : IsValue member.element.value) :
      Says member .other

/-- A text is a manifest with the given statements, in their order. -/
inductive IsManifest : Text → List Statement → Prop
  | empty {before spaces behind : Text} (isBefore : IsSpaces before) (isSpaces : IsSpaces spaces)
      (isBehind : IsSpaces behind) :
      IsManifest (before ++ '\x7b' :: (spaces ++ '\x7d' :: behind)) []
  | filled {before behind : Text} {members : List Member} {statements : List Statement}
      (isBefore : IsSpaces before) (filled : members ≠ [])
      (spaced : ∀ member ∈ members, member.IsSpaced) (said : List.Forall₂ Says members statements)
      (isBehind : IsSpaces behind) :
      IsManifest (before ++ '\x7b' :: (Text.joinWith [','] (members.map Member.text) ++
        '\x7d' :: behind)) statements

/-! ## One member -/

/-- What has been met of a field. -/
def Fields.get (fields : Fields) : Field → Option (Option Text)
  | .name => fields.name
  | .main => fields.main

/-- The fields that have been met after a member. -/
def Fields.take (fields : Fields) : Statement → Fields
  | .field .name value => { fields with name := some value }
  | .field .main value => { fields with main := some value }
  | .other => fields

private theorem Fields.get_take (fields : Fields) (statement : Statement) (field : Field) :
    (fields.take statement).get field =
      (stated field [statement]).head?.or (fields.get field) := by
  rcases statement with ⟨_ | _, value⟩ | _ <;> cases field <;> rfl

private theorem member_key {fields : Fields} {field : Field} (missing : fields.get field = none)
    (text : Text) : Manifest.member fields field.key text =
      (fieldValue field.key none text).map fun value =>
        (fields.take (.field field value.1), value.2) := by
  cases field with
  | name =>
      have met : fields.name = none := missing
      rw [Manifest.member, if_pos (by rfl), met]
      rfl
  | main =>
      have met : fields.main = none := missing
      rw [Manifest.member, if_neg (by decide), if_pos (by rfl), met]
      rfl

/-- No field is stated twice, nor once if it has been met. -/
def Fields.Once (fields : Fields) (statements : List Statement) : Prop :=
  ∀ field, (fields.get field).toList.length + (stated field statements).length ≤ 1

private theorem Fields.Once.missing {fields : Fields} {field : Field} {value : Option Text}
    {statements : List Statement} (once : fields.Once (.field field value :: statements)) :
    fields.get field = none := by
  cases met : fields.get field with
  | none => rfl
  | some _ =>
      have twice : 1 + ((stated field statements).length + 1) ≤ 1 := by
        simpa [met, stated] using once field
      omega

private theorem stated_cons (field : Field) (statement : Statement) (statements : List Statement) :
    stated field (statement :: statements) = stated field [statement] ++ stated field statements :=
  List.filterMap_append (l := [statement])

private theorem Fields.Once.cons {fields : Fields} {statement : Statement}
    {statements : List Statement} (once : fields.Once (statement :: statements)) :
    fields.Once [statement] ∧ (fields.take statement).Once statements := by
  constructor <;> intro field <;> have counted := once field <;>
    rw [stated_cons, List.length_append] at counted
  · omega
  · rw [get_take]
    cases first : stated field [statement] with
    | nil => simpa [first] using counted
    | cons value more =>
        rw [first, List.length_cons] at counted
        simp only [List.head?_cons, Option.some_or, Option.toList_some, List.length_singleton]
        omega

private theorem get_foldl_take (statements : List Statement) (fields : Fields) (field : Field) :
    (statements.foldl Fields.take fields).get field =
      (stated field statements).getLast?.or (fields.get field) := by
  induction statements generalizing fields with
  | nil => rfl
  | cons statement statements inductionHypothesis =>
      have single : (stated field [statement]).head? = (stated field [statement]).getLast? := by
        rcases statement with ⟨_ | _, value⟩ | _ <;> cases field <;> rfl
      rw [List.foldl_cons, inductionHypothesis, Fields.get_take,
        stated_cons field statement statements, List.getLast?_append, Option.or_assoc, single]

private theorem colon_append {spaces : Text} (isSpaces : IsSpaces spaces) (rest : Text) :
    colon (spaces ++ ':' :: rest) = .ok rest := by
  rw [colon, skipSpace_append isSpaces, skipSpace_cons rfl]
  rfl

private theorem stringOrNull_append {before content : Text} {value : Option Text}
    (isBefore : IsSpaces before) (spells : SpellsValue content value) (rest : Text) :
    stringOrNull (before ++ (content ++ rest)) = .ok (value, rest) := by
  cases spells with
  | null =>
      rw [stringOrNull, skipSpace_append isBefore]
      rfl
  | string spells =>
      rw [stringOrNull, skipSpace_append isBefore, List.cons_append, skipSpace_cons rfl,
        List.append_assoc, List.singleton_append]
      exact congrArg (Except.map fun content => (some content.1, content.2))
        (readString_of_spells spells rest)

private theorem fieldValue_append {behind : Text} {element : Element} {value : Option Text}
    (isBehind : IsSpaces behind) (spaced : element.IsSpaced)
    (spells : SpellsValue element.value value) (key rest : Text) :
    fieldValue key none (behind ++ ':' :: (element.text ++ rest)) =
      .ok (value, element.behind ++ rest) := by
  rw [fieldValue, colon_append isBehind, Element.text, List.append_assoc, List.append_assoc]
  exact stringOrNull_append spaced.1 spells _

/-- A member is read behind the first quote of its key. -/
private theorem exists_member_eq {member : Member} {statement : Statement}
    (spaced : member.IsSpaced) (said : Says member statement) :
    ∃ key, (∀ rest, Json.readString (member.opened ++ rest) =
        .ok (key, member.behind ++ ':' :: (member.element.text ++ rest))) ∧
      ∀ (fields : Fields) (rest : Text), fields.Once [statement] → BehindNumber rest →
        Manifest.member fields key (member.behind ++ ':' :: (member.element.text ++ rest)) =
          .ok (fields.take statement, member.element.behind ++ rest) := by
  have opened : ∀ key, Spells member.key key → ∀ rest,
      Json.readString (member.opened ++ rest) =
        .ok (key, member.behind ++ ':' :: (member.element.text ++ rest)) := by
    intro key spells rest
    have whole : member.opened ++ rest =
        member.key ++ '"' :: (member.behind ++ ':' :: (member.element.text ++ rest)) := by
      simp [Member.opened]
    rw [whole, readString_of_spells spells]
  obtain ⟨_, isBehind, spacedElement⟩ := spaced
  cases said with
  | field field key spells =>
      refine ⟨_, opened _ key, fun fields rest once _ => ?_⟩
      rw [member_key once.missing, fieldValue_append isBehind spacedElement spells]
      rfl
  | @other key spells noField isValue =>
      refine ⟨_, opened key spells, fun fields rest _ behind => ?_⟩
      have skipped := skipValue_append spacedElement.1 isValue (behind.append spacedElement.2)
      have noName : key ≠ "name".toList := noField .name
      have noMain : key ≠ "main".toList := noField .main
      rw [Manifest.member, if_neg noName, if_neg noMain, colon_append isBehind, Element.text,
        List.append_assoc, List.append_assoc]
      exact congrArg (Except.map fun rest => (fields, rest)) skipped

/-! ## All members -/

/-- Behind the quote of its key a member is read, and then those that follow. -/
private theorem members_succ {member : Member} {statement : Statement} (spaced : member.IsSpaced)
    (said : Says member statement) {fields : Fields} (once : fields.Once [statement])
    {first : Bool} {text rest : Text} (next : nextKey? first text = .ok (true, member.opened ++ rest))
    (behind : BehindNumber rest) (fuel : Nat) :
    Manifest.members (fuel + 1) first fields text =
      Manifest.members fuel false (fields.take statement) (member.element.behind ++ rest) := by
  obtain ⟨key, opened, read⟩ := exists_member_eq spaced said
  rw [Manifest.members, next]
  dsimp only
  rw [opened]
  dsimp only
  rw [read fields rest once behind]

private theorem nextKey?_end {spaces : Text} (isSpaces : IsSpaces spaces) (first : Bool)
    (rest : Text) :
    nextKey? first (spaces ++ '\x7d' :: rest) = .ok (false, rest) := by
  rw [nextKey?, skipSpace_append isSpaces, skipSpace_cons rfl]
  rfl

private theorem nextKey?_first {member : Member} (spaced : member.IsSpaced) (rest : Text) :
    nextKey? true (member.text ++ rest) = .ok (true, member.opened ++ rest) := by
  rw [nextKey?, Member.text, List.append_assoc, skipSpace_append spaced.1, List.cons_append,
    skipSpace_cons rfl]
  rfl

private theorem nextKey?_comma {spaces : Text} (isSpaces : IsSpaces spaces) {member : Member}
    (spaced : member.IsSpaced) (rest : Text) :
    nextKey? false (spaces ++ ',' :: (member.text ++ rest)) = .ok (true, member.opened ++ rest) := by
  have quote := nextKey?_first spaced rest
  rw [nextKey?, skipSpace_append isSpaces, skipSpace_cons rfl, Member.text, List.append_assoc,
    List.cons_append]
  dsimp only
  rw [skipSpace_append spaced.1, skipSpace_cons rfl]
  rfl

/-- What follows a member: the others, and the end of the object. -/
def behindMember (members : List Member) (rest : Text) : Text :=
  members.flatMap (fun member => ',' :: member.text) ++ '\x7d' :: rest

private theorem behindNumber_behindMember (members : List Member) (rest : Text) :
    BehindNumber (behindMember members rest) := by
  cases members with
  | nil => exact (Frame.closer_spec .object).2.2.behindNumber rest
  | cons member members => exact endsNumber_comma.behindNumber _

private theorem length_lt_behindMember (members : List Member) (rest : Text) :
    members.length < (behindMember members rest).length := by
  induction members with
  | nil => exact Nat.succ_pos _
  | cons member members inductionHypothesis =>
      simp only [behindMember, List.length_append, List.flatMap_cons, List.length_cons] at *
      omega

theorem members_append {members : List Member} {statements : List Statement}
    (said : List.Forall₂ Says members statements) (spaced : ∀ member ∈ members, member.IsSpaced)
    (rest : Text) : ∀ (fuel : Nat) (spaces : Text) (fields : Fields), members.length < fuel →
      IsSpaces spaces → fields.Once statements →
        Manifest.members fuel false fields (spaces ++ behindMember members rest) =
          .ok (statements.foldl Fields.take fields, rest) := by
  induction said with
  | nil =>
      intro fuel spaces fields enough isSpaces _
      obtain ⟨fuel, rfl⟩ := Nat.exists_eq_succ_of_ne_zero (Nat.ne_zero_of_lt enough)
      rw [Manifest.members, behindMember, List.flatMap_nil, List.nil_append,
        nextKey?_end isSpaces]
      rfl
  | @cons member statement members statements saidFirst saidMore inductionHypothesis =>
      intro fuel spaces fields enough isSpaces once
      obtain ⟨fuel, rfl⟩ := Nat.exists_eq_succ_of_ne_zero (Nat.ne_zero_of_lt enough)
      obtain ⟨onceFirst, onceMore⟩ := once.cons
      have spacedFirst := spaced member List.mem_cons_self
      have next := nextKey?_comma isSpaces spacedFirst (behindMember members rest)
      have whole : behindMember (member :: members) rest =
          ',' :: (member.text ++ behindMember members rest) := by
        simp [behindMember]
      rw [whole, members_succ spacedFirst saidFirst onceFirst next (behindNumber_behindMember _ _)]
      exact inductionHypothesis (fun other isOther => spaced other (List.mem_cons_of_mem _ isOther))
        fuel _ _ (Nat.lt_of_succ_lt_succ enough) spacedFirst.2.2.2 onceMore

/-! ## Whole manifests -/

theorem fields_of_isManifest {text : Text} {statements : List Statement}
    (isManifest : IsManifest text statements) (once : Fields.Once ⟨none, none⟩ statements) :
    fields text = .ok (statements.foldl Fields.take ⟨none, none⟩) := by
  -- Behind the object there is only white space.
  have whole : ∀ {before inside behind : Text}, IsSpaces before → IsSpaces behind →
      Manifest.members (inside.length + 1) true ⟨none, none⟩ inside =
        .ok (statements.foldl Fields.take ⟨none, none⟩, behind) →
      fields (before ++ '\x7b' :: inside) = .ok (statements.foldl Fields.take ⟨none, none⟩) := by
    intro before inside behind isBefore isBehind read
    have none : skipSpace behind = [] := List.dropWhile_eq_nil_iff.mpr isBehind
    rw [fields, skipSpace_append isBefore, skipSpace_cons rfl]
    simp only [read, none]
  cases isManifest with
  | empty isBefore isSpaces isBehind =>
      apply whole isBefore isBehind
      rw [Manifest.members, nextKey?_end isSpaces]
      rfl
  | @filled before behind members statements isBefore filled spaced said isBehind =>
      apply whole isBefore isBehind
      cases said with
      | nil => exact absurd rfl filled
      | @cons member statement members statements saidFirst saidMore =>
          obtain ⟨onceFirst, onceMore⟩ := once.cons
          have spacedFirst := spaced member List.mem_cons_self
          have text : Text.joinWith [','] ((member :: members).map Member.text) ++ '\x7d' :: behind =
              member.text ++ behindMember members behind := by
            rw [List.map_cons, Text.joinWith_cons, List.flatMap_map, List.append_assoc]
            rfl
          rw [text, members_succ spacedFirst saidFirst onceFirst (nextKey?_first spacedFirst _)
            (behindNumber_behindMember _ _)]
          refine members_append saidMore
            (fun other isOther => spaced other (List.mem_cons_of_mem _ isOther)) behind _ _ _ ?_
            spacedFirst.2.2.2 onceMore
          have counted := length_lt_behindMember members behind
          rw [List.length_append]
          omega

private theorem States.length_le {statements : List Statement} {field : Field} {value : Option Text}
    (states : States statements field value) : (stated field statements).length ≤ 1 := by
  rcases states with single | ⟨none, _⟩
  · rw [single]
    exact Nat.le_refl 1
  · rw [none]
    exact Nat.zero_le 1

/-- What has been met of a field at the end is what is stated for it. -/
private theorem States.get_eq {statements : List Statement} {field : Field} {value : Option Text}
    (states : States statements field value) :
    ((statements.foldl Fields.take ⟨none, none⟩).get field).getD none = value := by
  have start : Fields.get ⟨none, none⟩ field = none := by cases field <;> rfl
  rw [get_foldl_take, start, Option.or_none]
  rcases states with single | ⟨none, missing⟩
  · rw [single]
    rfl
  · rw [none, missing]
    rfl

private theorem package_eq {text : Text} {fields : Fields}
    (read : Manifest.fields text = .ok fields) :
    package text = match (fields.get .name).getD none with
      | some name =>
          if (Text.trim name).isEmpty then .error missingName
          else .ok ⟨name, ((fields.get .main).getD none).getD defaultMain⟩
      | none => .error missingName := by
  rw [package, read]
  obtain ⟨_ | _ | name, main⟩ := fields <;> rfl

/-! ## A manifest with escapes -/

namespace Escaped

/-- A number with all its parts and a surrogate that stands alone. -/
private def elements : List Element :=
  [⟨[], "-1.5e3".toList, []⟩, ⟨[' '], "\"\\ud800\"".toList, []⟩]

private def inner : List Member :=
  [⟨[], "k".toList, [], ⟨[' '], "[-1.5e3, \"\\ud800\"]".toList, []⟩⟩]

/-- The key of the name and the name itself are spelled by escapes. -/
private def members : List Member :=
  [⟨[], "deps".toList, [], ⟨[' '], "\x7b\"k\": [-1.5e3, \"\\ud800\"]\x7d".toList, []⟩⟩,
    ⟨[' '], "n\\u0061me".toList, [' '], ⟨[' '], "\"\\ud83d\\ude00\"".toList, []⟩⟩,
    ⟨[' '], "main".toList, [], ⟨[], "null".toList, []⟩⟩]

def statements : List Statement :=
  [.other, .field .name (some ['😀']), .field .main none]

def text : Text :=
  "\x7b\"deps\": \x7b\"k\": [-1.5e3, \"\\ud800\"]\x7d, \"n\\u0061me\" : ".toList ++
    "\"\\ud83d\\ude00\", \"main\":null\x7d\n".toList

private theorem isValue_element : ∀ element ∈ elements, IsValue element.value := by
  intro element member
  rcases List.mem_cons.mp member with rfl | member
  · have isNumber : IsNumber (['-'] ++ (['1'] ++ (['.', '5'] ++ ['e', '3']))) :=
      .parts (Or.inr rfl) (.digits (by decide) ⟨by decide, Text.forall_mem_of_all (by decide)⟩)
        (.some ⟨by decide, Text.forall_mem_of_all (by decide)⟩)
        (@IsExponent.some 'e' [] ['3'] (Or.inl rfl) (Or.inl rfl)
          ⟨by decide, Text.forall_mem_of_all (by decide)⟩)
    exact .scalar (.number isNumber)
  · obtain rfl := List.mem_singleton.mp member
    have spells : SpellsUnit ['d', '8', '0', '0'] 0xD800 :=
      @SpellsUnit.digits 'd' '8' '0' '0' 13 8 0 0 (by decide) (by decide) (by decide) (by decide)
    exact .scalar (.string (.unit spells .nil))

private theorem isValue_inner : ∀ member ∈ inner, IsValue member.element.value := by
  intro member isMember
  obtain rfl := List.mem_singleton.mp isMember
  exact @IsValue.list elements (by decide) (by decide) isValue_element

private theorem says_members : List.Forall₂ Says members statements := by
  have isValue : IsValue "\x7b\"k\": [-1.5e3, \"\\ud800\"]\x7d".toList :=
    @IsValue.object inner (by decide) (by decide)
      (fun _ isMember => List.mem_singleton.mp isMember ▸
        .of_isPlain (Text.forall_mem_of_all (by decide))) isValue_inner
  have a : SpellsUnit ['0', '0', '6', '1'] 'a'.toNat :=
    @SpellsUnit.digits '0' '0' '6' '1' 0 0 6 1 (by decide) (by decide) (by decide) (by decide)
  have high : SpellsUnit ['d', '8', '3', 'd'] (0xD800 + ('😀'.toNat - 0x10000) / 0x400) :=
    @SpellsUnit.digits 'd' '8' '3' 'd' 13 8 3 13 (by decide) (by decide) (by decide) (by decide)
  have low : SpellsUnit ['d', 'e', '0', '0'] (0xDC00 + ('😀'.toNat - 0x10000) % 0x400) :=
    @SpellsUnit.digits 'd' 'e' '0' '0' 13 14 0 0 (by decide) (by decide) (by decide) (by decide)
  have key : Spells "n\\u0061me".toList "name".toList :=
    .cons (.plain (by decide)) (.cons (.unit a) (.of_isPlain (Text.forall_mem_of_all (by decide))))
  have name : Spells "\\ud83d\\ude00".toList ['😀'] :=
    .cons (.pair (by decide +kernel) high low) .nil
  refine .cons (.other (.of_isPlain (Text.forall_mem_of_all (by decide))) ?_ isValue)
    (.cons (.field .name key (.string name))
      (.cons (.field .main (.of_isPlain (Text.forall_mem_of_all (by decide))) .null) .nil))
  rintro (_ | _) <;> decide

private theorem isManifest_text : IsManifest text statements :=
  @IsManifest.filled [] ['\n'] members statements (by decide) (by decide) (by decide) says_members
    (by decide)

end Escaped

/-- The name and the main file are found wherever they are stated, and however they are spelled; the
main file is `index.js` if none is stated. Without a name that is more than white space the manifest is
refused. -/
theorem package_of_isManifest {text : Text} {statements : List Statement} {name main : Option Text}
    (isManifest : IsManifest text statements) (nameStated : States statements .name name)
    (mainStated : States statements .main main) :
    (∀ known, name = some known → (∃ c ∈ known, Text.isWhite c = false) →
        package text = .ok ⟨known, main.getD "index.js".toList⟩) ∧
      ((∀ known, name = some known → ∀ c ∈ known, Text.isWhite c = true) →
        package text = .error missingName) := by
  have once : Fields.Once ⟨none, none⟩ statements := by
    intro field
    cases field with
    | name => exact (Nat.zero_add _).trans_le nameStated.length_le
    | main => exact (Nat.zero_add _).trans_le mainStated.length_le
  rw [package_eq (fields_of_isManifest isManifest once), nameStated.get_eq, mainStated.get_eq]
  constructor
  · rintro known rfl ⟨c, member, dark⟩
    have filled : Text.trim known ≠ [] := fun blank => by
      rw [Text.trim_eq_nil_iff.mp blank c member] at dark
      cases dark
    simp only [List.isEmpty_iff, filled, if_false]
    rfl
  · intro blank
    cases name with
    | none => rfl
    | some known =>
        have nothing := Text.trim_eq_nil_iff.mpr (blank known rfl)
        simp only [nothing, List.isEmpty_nil, if_true]

theorem package_of_isManifest_with_escapes :
    IsManifest Escaped.text Escaped.statements ∧
      States Escaped.statements .name (some ['😀']) ∧ States Escaped.statements .main none ∧
        package Escaped.text = .ok ⟨['😀'], "index.js".toList⟩ := by
  have name : States Escaped.statements .name (some ['😀']) := Or.inl rfl
  have main : States Escaped.statements .main none := Or.inl rfl
  exact ⟨Escaped.isManifest_text, name, main,
    (package_of_isManifest Escaped.isManifest_text name main).1 _ rfl ⟨'😀', by decide, by decide⟩⟩

end DocCheck.Manifest
