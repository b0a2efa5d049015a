import DocCheck.Snippet
import Mathlib.Data.List.Basic

/-!
The snippets of a document, collected in one pass over what there is to come upon in it. The state of
the pass is how deep the containers are nested, which block is being read and what has been collected.
Main statement: whatever the languages, they choose from one list of blocks, and what they choose is
numbered.
-/

namespace DocCheck

namespace Markdown

/-! ## Events -/

/-- What there is to come upon in a document. -/
inductive Event where
  /-- A quote or a list item begins. -/
  | enters
  | leaves
  /-- A fenced code block begins: the text behind its fence, its line, and the document from the
  opening fence to the end of the closing one. -/
  | opensFence (info : Text) (line : Nat) (source : Text)
  | opensIndented
  | text (text : Text)
  /-- A code block ends, whether fenced or indented. -/
  | closes
  | other
  deriving Repr, DecidableEq

/-- `IsContent events text` means that the events come upon the text piece by piece, upon no code
block, and upon the ends of just those containers that begin among them. -/
inductive IsContent : List Event → Text → Prop
  | nothing : IsContent [] []
  | text {events : List Event} {after : Text} (text : Text) :
      IsContent events after → IsContent (.text text :: events) (text ++ after)
  | other {events : List Event} {text : Text} :
      IsContent events text → IsContent (.other :: events) text
  | container {inner events : List Event} {text after : Text} :
      IsContent inner text → IsContent events after →
      IsContent (.enters :: (inner ++ .leaves :: events)) (text ++ after)

/-- `Tells depth events blocks` means that the events, inside so many containers, lead out of all of
them and through these fenced code blocks. What begins ends, and code blocks hold no code blocks. -/
inductive Tells : Nat → List Event → List FencedBlock → Prop
  | done : Tells 0 [] []
  | enters {depth : Nat} {events : List Event} {blocks : List FencedBlock} :
      Tells (depth + 1) events blocks → Tells depth (.enters :: events) blocks
  | leaves {depth : Nat} {events : List Event} {blocks : List FencedBlock} :
      Tells depth events blocks → Tells (depth + 1) (.leaves :: events) blocks
  | text {depth : Nat} {events : List Event} {blocks : List FencedBlock} (text : Text) :
      Tells depth events blocks → Tells depth (.text text :: events) blocks
  | other {depth : Nat} {events : List Event} {blocks : List FencedBlock} :
      Tells depth events blocks → Tells depth (.other :: events) blocks
  | indented {depth : Nat} {events inner : List Event} {blocks : List FencedBlock} {content : Text} :
      IsContent inner content → Tells depth events blocks →
      Tells depth (.opensIndented :: (inner ++ .closes :: events)) blocks
  | fenced {depth : Nat} {events inner : List Event} {blocks : List FencedBlock} {content : Text}
      (info : Text) (line : Nat) (source : Text) :
      IsContent inner content → Tells depth events blocks →
      Tells depth (.opensFence info line source :: (inner ++ .closes :: events))
        (⟨info, line, decide (0 < depth), source, content⟩ :: blocks)

private theorem isContent_singleton (text : Text) : IsContent [.text text] text := by
  have isContent := IsContent.text text .nothing
  rwa [List.append_nil] at isContent

/-- All blocks can be told. -/
theorem exists_tells (blocks : List FencedBlock) : ∃ events, Tells 0 events blocks := by
  induction blocks with
  | nil => exact ⟨[], .done⟩
  | cons block blocks inductionHypothesis =>
      obtain ⟨events, tells⟩ := inductionHypothesis
      obtain ⟨info, line, nested, source, content⟩ := block
      have isContent := isContent_singleton content
      cases nested with
      | false => exact ⟨_, .fenced info line source isContent tells⟩
      | true => exact ⟨_, .enters (.fenced info line source isContent (.leaves tells))⟩

end Markdown

open Markdown

namespace Snippet

/-! ## Languages -/

/-- The word is one of the languages, up to the case of ASCII letters. -/
def isListed (languages : List Text) (word : Option Text) : Bool :=
  word.any fun word => languages.any (Text.equalIgnoringCase word)

private theorem isIn_eq_isListed (languages : List Text) (block : FencedBlock) :
    isIn languages block = isListed languages (languageOf block) := by
  rw [isIn, isListed]
  cases languageOf block <;> rfl

/-- Each of the languages is among the others, up to the case of ASCII letters. -/
def AreAmong (others languages : List Text) : Prop :=
  ∀ language ∈ languages, ∃ other ∈ others, Text.equalIgnoringCase language other = true

instance (others languages : List Text) : Decidable (AreAmong others languages) :=
  List.decidableBAll
    (fun language => ∃ other ∈ others, Text.equalIgnoringCase language other = true) languages

private theorem isListed_of_areAmong {languages others : List Text}
    (among : AreAmong others languages)
    {word : Option Text} (listed : isListed languages word = true) : isListed others word = true := by
  cases word with
  | none => cases listed
  | some word =>
      obtain ⟨language, inLanguages, same⟩ := List.any_eq_true.mp listed
      obtain ⟨other, inOthers, alike⟩ := among language inLanguages
      rw [Text.equalIgnoringCase, beq_iff_eq] at same alike
      refine List.any_eq_true.mpr ⟨other, inOthers, ?_⟩
      rw [Text.equalIgnoringCase, beq_iff_eq]
      exact same.trans alike

private theorem isIn_of_areAmong {languages others : List Text} (among : AreAmong others languages)
    {block : FencedBlock} (chosen : isIn languages block = true) : isIn others block = true := by
  rw [isIn_eq_isListed] at chosen ⊢
  exact isListed_of_areAmong among chosen

/-! ## Fragments and their numbers -/

/-- What a code block contributes, whatever the languages asked for. -/
structure Fragment where
  /-- The first word behind the opening fence. -/
  word : Option Text
  line : Nat
  text : Text
  deriving Repr, DecidableEq

namespace Fragment

def ofBlock (block : FencedBlock) : Fragment :=
  ⟨languageOf block, block.line, codeOf block⟩

def snippet (index : Nat) (fragment : Fragment) : Snippet :=
  ⟨index, fragment.line, fragment.text⟩

end Fragment

private theorem numbered_append (index : Nat) (front back : List FencedBlock) :
    numbered index (front ++ back) =
      numbered index front ++ numbered (index + front.length) back := by
  induction front generalizing index with
  | nil => rfl
  | cons block front inductionHypothesis =>
      rw [List.cons_append, numbered, numbered, inductionHypothesis, List.length_cons,
        Nat.add_right_comm, Nat.add_assoc]
      rfl

private theorem length_numbered (index : Nat) (blocks : List FencedBlock) :
    (numbered index blocks).length = blocks.length := by
  induction blocks generalizing index with
  | nil => rfl
  | cons block blocks inductionHypothesis =>
      rw [numbered, List.length_cons, inductionHypothesis, List.length_cons]

private theorem numbered_eq_mapIdx (index : Nat) (blocks : List FencedBlock) :
    numbered index blocks =
      (blocks.map Fragment.ofBlock).mapIdx fun i fragment => fragment.snippet (index + i) := by
  induction blocks generalizing index with
  | nil => rfl
  | cons block blocks inductionHypothesis =>
      have later : (fun (i : Nat) (fragment : Fragment) => fragment.snippet (index + 1 + i)) =
          fun i fragment => fragment.snippet (index + (i + 1)) := by
        funext i fragment
        rw [Nat.add_right_comm, Nat.add_assoc]
      rw [numbered, inductionHypothesis, List.map_cons, List.mapIdx_cons, later]
      rfl

private theorem map_numbered (index : Nat) (blocks : List FencedBlock) :
    (numbered index blocks).map (fun snippet => (snippet.line, snippet.text)) =
      blocks.map fun block => (block.line, codeOf block) := by
  induction blocks generalizing index with
  | nil => rfl
  | cons block blocks inductionHypothesis =>
      rw [numbered, List.map_cons, List.map_cons, inductionHypothesis]

/-! ## Collecting -/

/-- A block that is being read. -/
structure Pending where
  line : Nat
  source : Text
  nested : Bool
  text : Text

/-- The state of the pass. -/
structure Collector where
  depth : Nat
  pending : Option Pending
  snippets : List Snippet

def Pending.code (pending : Pending) : Text :=
  if pending.nested then pending.text else fencedBody pending.source

def Collector.take (languages : List Text) (collector : Collector) : Event → Collector
  | .enters => { collector with depth := collector.depth + 1 }
  | .leaves => { collector with depth := collector.depth - 1 }
  | .opensFence info line source =>
      if isListed languages (Text.firstWord? info) then
        { collector with pending := some ⟨line, source, decide (0 < collector.depth), []⟩ }
      else collector
  | .text text =>
      { collector with
        pending := collector.pending.map fun block => { block with text := block.text ++ text } }
  | .closes =>
      match collector.pending with
      | none => collector
      | some block =>
          { collector with
            pending := none
            snippets := collector.snippets ++
              [⟨collector.snippets.length + 1, block.line, block.code⟩] }
  | .opensIndented | .other => collector

/-- The snippets that a pass over the events collects. -/
def collect (languages : List Text) (events : List Event) : List Snippet :=
  (events.foldl (Collector.take languages) ⟨0, none, []⟩).snippets

section Collect

variable (languages : List Text) (depth : Nat) (snippets : List Snippet)

/-- The text is added to the block that is being read, if there is one. -/
private theorem foldl_take_of_isContent {events : List Event} {text : Text}
    (isContent : IsContent events text) (pending : Option Pending) :
    events.foldl (Collector.take languages) ⟨depth, pending, snippets⟩ =
      ⟨depth, pending.map fun block => { block with text := block.text ++ text }, snippets⟩ := by
  induction isContent generalizing depth pending with
  | nothing => cases pending <;> simp
  | text text _ inductionHypothesis =>
      rw [List.foldl_cons, Collector.take, inductionHypothesis]
      cases pending <;> simp
  | other _ inductionHypothesis => exact inductionHypothesis depth pending
  | container _ _ inside behind =>
      rw [List.foldl_cons, Collector.take, List.foldl_append, inside, List.foldl_cons,
        Collector.take, behind]
      cases pending <;> simp

/-- A fenced code block leaves no block behind that is being read, and it adds its snippet if it is
chosen. -/
private theorem foldl_take_fenced {inner : List Event} {content : Text}
    (isContent : IsContent inner content)
    (info : Text) (line : Nat) (source : Text) :
    let block : FencedBlock := ⟨info, line, decide (0 < depth), source, content⟩
    (Event.opensFence info line source :: (inner ++ [.closes])).foldl (Collector.take languages)
        ⟨depth, none, snippets⟩ =
      ⟨depth, none, snippets ++ numbered (snippets.length + 1) ([block].filter (isIn languages))⟩ := by
  intro block
  have same : isIn languages block = isListed languages (Text.firstWord? info) :=
    isIn_eq_isListed languages block
  rw [List.foldl_cons, Collector.take]
  by_cases chosen : isListed languages (Text.firstWord? info) = true
  · rw [if_pos chosen, List.foldl_append, foldl_take_of_isContent languages depth snippets isContent,
      List.filter_cons_of_pos (same.trans chosen)]
    rfl
  · rw [if_neg chosen, List.foldl_append, foldl_take_of_isContent languages depth snippets isContent,
      List.filter_cons_of_neg (by rw [same]; exact chosen)]
    simp [numbered, Collector.take]

end Collect

/-- A pass collects the snippets of the chosen ones of the blocks that its events lead through. -/
theorem foldl_take_of_tells (languages : List Text) {depth : Nat} {events : List Event}
    {blocks : List FencedBlock} (tells : Tells depth events blocks) (snippets : List Snippet) :
    events.foldl (Collector.take languages) ⟨depth, none, snippets⟩ =
      ⟨0, none, snippets ++ numbered (snippets.length + 1) (blocks.filter (isIn languages))⟩ := by
  induction tells generalizing snippets with
  | done => simp [numbered]
  | enters _ inductionHypothesis => exact inductionHypothesis snippets
  | leaves _ inductionHypothesis => exact inductionHypothesis snippets
  | text _ _ inductionHypothesis => exact inductionHypothesis snippets
  | other _ inductionHypothesis => exact inductionHypothesis snippets
  | @indented depth _ _ _ _ isContent _ inductionHypothesis =>
      rw [List.foldl_cons, Collector.take, List.foldl_append,
        foldl_take_of_isContent languages depth snippets isContent]
      exact inductionHypothesis snippets
  | @fenced depth events inner blocks content info line source isContent _ inductionHypothesis =>
      have split (block : FencedBlock) : (block :: blocks).filter (isIn languages) =
          [block].filter (isIn languages) ++ blocks.filter (isIn languages) :=
        List.filter_append [block] blocks
      have whole : Event.opensFence info line source :: (inner ++ .closes :: events) =
          Event.opensFence info line source :: (inner ++ [.closes]) ++ events := by simp
      rw [whole, List.foldl_append, foldl_take_fenced languages depth snippets isContent,
        inductionHypothesis, split, numbered_append, List.append_assoc, List.length_append,
        length_numbered, Nat.add_right_comm]

/-! ## Selection -/

/-- The languages select. What there is to select from are the fragments of the document, which no
language has a say in, and the snippets are those with one of the languages, in their order and
numbered from one. A pass over events of the document collects them, and so does a pass over any events
that lead through the same chosen blocks, whatever other blocks are among them. More languages add
snippets between those found, and the same languages in other spellings find the same. -/
theorem ofDocument_selects (document : Text) :
    (∀ languages, ofDocument languages document =
        (((fencedBlocks document).map Fragment.ofBlock).filter fun fragment =>
          isListed languages fragment.word).mapIdx fun i fragment => fragment.snippet (i + 1)) ∧
      (∃ events, Tells 0 events (fencedBlocks document)) ∧
      (∀ languages events blocks, Tells 0 events blocks →
        blocks.filter (isIn languages) = (fencedBlocks document).filter (isIn languages) →
          collect languages events = ofDocument languages document) ∧
      (∀ languages others, AreAmong others languages →
        ((ofDocument languages document).map fun snippet => (snippet.line, snippet.text)).Sublist
          ((ofDocument others document).map fun snippet => (snippet.line, snippet.text))) ∧
      ∀ languages others, AreAmong others languages → AreAmong languages others →
        ofDocument languages document = ofDocument others document := by
  refine ⟨fun languages => ?_, exists_tells _, fun languages events blocks tells same => ?_,
    fun languages others among => ?_, fun languages others among amongst => ?_⟩
  · have alike : (fun fragment : Fragment => isListed languages fragment.word) ∘ Fragment.ofBlock =
        isIn languages :=
      funext fun block => (isIn_eq_isListed languages block).symm
    rw [ofDocument, numbered_eq_mapIdx, List.filter_map, alike]
    simp only [Nat.add_comm 1]
  · rw [collect, foldl_take_of_tells languages tells, same]
    rfl
  · rw [ofDocument, ofDocument, map_numbered, map_numbered]
    exact (List.monotone_filter_right _ fun _ => isIn_of_areAmong among).map _
  · have alike : isIn languages = isIn others := by
      funext block
      exact Bool.eq_iff_iff.mpr ⟨isIn_of_areAmong among, isIn_of_areAmong amongst⟩
    rw [ofDocument, ofDocument, alike]

/-- A document with a block in a quote, events that lead through this block and through indented code
instead of the other one, and a language in two spellings. -/
theorem ofDocument_selects_in_quote :
    let document := "\x60\x60\x60ts\na\n\x60\x60\x60\n> ~~~ JS x\n> b\n> ~~~\n".toList
    let languages := ["js".toList]
    let events := [Event.opensIndented, .text "a".toList, .closes, .enters,
      .opensFence "JS x".toList 4 "~~~ JS x\n> b\n> ~~~".toList, .text "b\n".toList, .closes, .leaves]
    let blocks : List FencedBlock :=
      [⟨"JS x".toList, 4, true, "~~~ JS x\n> b\n> ~~~".toList, "b\n".toList⟩]
    (Tells 0 events blocks ∧
        blocks.filter (isIn languages) = (fencedBlocks document).filter (isIn languages) ∧
        AreAmong ["TS".toList, "Js".toList] languages ∧
        AreAmong ["ts".toList, "js".toList, "ts".toList] ["TS".toList, "Js".toList] ∧
        AreAmong ["TS".toList, "Js".toList] ["ts".toList, "js".toList, "ts".toList]) ∧
      collect languages events = ofDocument languages document ∧
        ofDocument languages document = [⟨1, 4, "b\n".toList⟩] ∧
        ((ofDocument languages document).map fun snippet => (snippet.line, snippet.text)).Sublist
          ((ofDocument ["TS".toList, "Js".toList] document).map fun snippet =>
            (snippet.line, snippet.text)) ∧
        ofDocument ["TS".toList, "Js".toList] document =
          ofDocument ["ts".toList, "js".toList, "ts".toList] document := by
  intro document languages events blocks
  have tells : Tells 0 events blocks :=
    .indented (isContent_singleton "a".toList)
      (.enters (.fenced _ _ _ (isContent_singleton "b\n".toList) (.leaves .done)))
  have same : blocks.filter (isIn languages) = (fencedBlocks document).filter (isIn languages) := by
    decide +kernel
  have among : AreAmong ["TS".toList, "Js".toList] languages := by decide
  have fewer : AreAmong ["ts".toList, "js".toList, "ts".toList] ["TS".toList, "Js".toList] := by
    decide
  have more : AreAmong ["TS".toList, "Js".toList] ["ts".toList, "js".toList, "ts".toList] := by
    decide
  obtain ⟨_, _, passes, grows, alike⟩ := ofDocument_selects document
  exact ⟨⟨tells, same, among, fewer, more⟩, passes languages events blocks tells same,
    by decide +kernel, grows languages _ among, alike _ _ fewer more⟩

end Snippet

end DocCheck
