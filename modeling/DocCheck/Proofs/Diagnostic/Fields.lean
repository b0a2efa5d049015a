import DocCheck.Diagnostic.Report
import DocCheck.Diagnostic.Scrub

/-!
The further fields of a diagnostic, as a map from keys to texts. Main statements: whatever becomes of a
diagnostic, its fields stand by ascending key, and fields that do are found again when they are put
together one by one.
-/

namespace DocCheck.Diagnostic

/-- Fields stand by ascending key, each key once. -/
def IsAscending (fields : List (Text × Text)) : Prop :=
  fields.Pairwise fun first second => first.1 < second.1

private theorem mem_of_mem_insertField {key value : Text} {fields : List (Text × Text)}
    {field : Text × Text} (member : field ∈ insertField key value fields) :
    field = (key, value) ∨ field ∈ fields := by
  fun_induction insertField key value fields with
  | case1 => exact Or.inl (List.mem_singleton.mp member)
  | case2 first fields same =>
      exact (List.mem_cons.mp member).imp_right (List.mem_cons_of_mem _)
  | case3 first fields distinct smaller => exact List.mem_cons.mp member
  | case4 first fields distinct larger inductionHypothesis =>
      rcases List.mem_cons.mp member with rfl | later
      · exact Or.inr List.mem_cons_self
      · exact (inductionHypothesis later).imp_right (List.mem_cons_of_mem _)

private theorem isAscending_insertField (key value : Text) {fields : List (Text × Text)}
    (ascending : IsAscending fields) : IsAscending (insertField key value fields) := by
  fun_induction insertField key value fields with
  | case1 => exact List.pairwise_singleton _ _
  | case2 first fields same =>
      obtain ⟨above, rest⟩ := List.pairwise_cons.mp ascending
      exact List.pairwise_cons.mpr ⟨fun field member => same ▸ above field member, rest⟩
  | case3 first fields distinct smaller =>
      refine List.pairwise_cons.mpr ⟨fun field member => ?_, ascending⟩
      rcases List.mem_cons.mp member with rfl | later
      · exact smaller
      · exact List.lt_trans smaller ((List.pairwise_cons.mp ascending).1 field later)
  | case4 first fields distinct larger inductionHypothesis =>
      obtain ⟨above, rest⟩ := List.pairwise_cons.mp ascending
      refine List.pairwise_cons.mpr ⟨fun field member => ?_, inductionHypothesis rest⟩
      rcases mem_of_mem_insertField member with rfl | later
      · -- Of two keys that differ one is the smaller.
        exact Decidable.byContradiction fun behind =>
          distinct (List.le_antisymm behind larger)
      · exact above field later

/-! ## Putting fields together -/

/-- The fields that are put in one after the other. A later one takes the place of one with its key. -/
def ofFields (fields : List (Text × Text)) : List (Text × Text) :=
  fields.foldl (fun known field => insertField field.1 field.2 known) []

private theorem insertField_append {key : Text} (value : Text) {fields : List (Text × Text)}
    (above : ∀ field ∈ fields, field.1 < key) :
    insertField key value fields = fields ++ [(key, value)] := by
  induction fields with
  | nil => rfl
  | cons first fields inductionHypothesis =>
      have smaller := above first List.mem_cons_self
      have distinct : key ≠ first.1 := by
        rintro rfl
        exact List.lt_irrefl _ smaller
      have larger : ¬ key < first.1 := fun behind =>
        List.lt_irrefl _ (List.lt_trans smaller behind)
      rw [insertField, if_neg distinct, if_neg larger,
        inductionHypothesis fun field member => above field (List.mem_cons_of_mem _ member)]
      rfl

private theorem foldl_insertField_append {known fields : List (Text × Text)}
    (ascending : IsAscending (known ++ fields)) :
    fields.foldl (fun known field => insertField field.1 field.2 known) known = known ++ fields := by
  induction fields generalizing known with
  | nil => exact (List.append_nil known).symm
  | cons first fields inductionHypothesis =>
      have above : ∀ field ∈ known, field.1 < first.1 := fun field member =>
        (List.pairwise_append.mp ascending).2.2 field member first List.mem_cons_self
      have whole : known ++ first :: fields = known ++ [first] ++ fields :=
        List.append_cons known first fields
      rw [List.foldl_cons, insertField_append first.2 above, whole]
      exact inductionHypothesis (whole ▸ ascending)

theorem ofFields_eq_self {fields : List (Text × Text)} (ascending : IsAscending fields) :
    ofFields fields = fields :=
  @foldl_insertField_append [] fields ascending

/-! ## Diagnostics -/

def HasAscendingFields (diagnostic : Diagnostic) : Prop :=
  IsAscending diagnostic.extra

theorem hasAscendingFields_crash (message : Text) : (crash message).HasAscendingFields :=
  List.Pairwise.nil

theorem HasAscendingFields.scrub {diagnostic : Diagnostic}
    (ascending : diagnostic.HasAscendingFields) (pattern : Text.Pattern Unit) (label : Text) :
    (diagnostic.scrub pattern label).HasAscendingFields :=
  List.pairwise_map.mpr ascending

private theorem HasAscendingFields.withField {diagnostic : Diagnostic}
    (ascending : diagnostic.HasAscendingFields) (key value : Text) :
    (diagnostic.withField key value).HasAscendingFields :=
  isAscending_insertField key value ascending

theorem hasAscendingFields_ofReport (stdout stderr : Text) (exitStatus : Option Int) :
    (ofReport stdout stderr exitStatus).HasAscendingFields := by
  have none (diagnostic : Diagnostic) (empty : diagnostic.extra = []) :
      diagnostic.HasAscendingFields := by
    rw [HasAscendingFields, empty]
    exact .nil
  unfold ofReport
  dsimp only
  cases exitStatus with
  | none =>
      dsimp only
      split
      · exact (none _ rfl).withField _ _
      · exact ((none _ rfl).withField _ _).withField _ _
  | some status =>
      dsimp only
      split
      · exact ((none _ rfl).withField _ _).withField _ _
      · exact (((none _ rfl).withField _ _).withField _ _).withField _ _

end DocCheck.Diagnostic
