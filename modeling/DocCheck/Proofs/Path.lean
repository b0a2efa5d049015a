import DocCheck.Path
import DocCheck.Proofs.Text.Basic

/-!
Paths that end in the name of a file. Main statement: a file that is named in a directory bears its
name, whatever the directory and the way in which the path is written.
-/

namespace DocCheck

namespace Path

/-- A text that names a file when it is joined to a directory. -/
structure IsFileName (name : Text) : Prop where
  filled : name ≠ []
  whole : '/' ∉ name
  noStay : name ≠ ['.']
  noParent : name ≠ ['.', '.']

namespace IsFileName

variable {name : Text} (named : IsFileName name)

include named

theorem isHere_eq_false : isHere name = false := by
  simp [isHere, named.filled, named.noStay]

theorem isAbsolute_eq_false : isAbsolute name = false := by
  obtain ⟨first, rest, rfl⟩ := List.exists_cons_of_ne_nil named.filled
  have different : first ≠ '/' := fun same => named.whole (same ▸ List.mem_cons_self)
  simpa [isAbsolute] using different

/-- Where a file is named in a directory, its name stands at the end and after a slash, if anything
stands before it. -/
theorem join_cases (base : Text) :
    (base = [] ∧ join base name = name) ∨
      ∃ lead, (base = lead ∨ base = lead ++ ['/']) ∧ join base name = lead ++ '/' :: name := by
  rw [join, named.isAbsolute_eq_false, Bool.false_or]
  split
  · next empty => exact Or.inl ⟨List.isEmpty_iff.mp empty, rfl⟩
  · split
    · next slash =>
        obtain ⟨lead, rfl⟩ : ∃ lead, base = lead ++ ['/'] :=
          List.getLast?_eq_some_iff.mp (by simpa [endsInSlash] using slash)
        exact Or.inr ⟨lead, Or.inr rfl, by simp⟩
    · exact Or.inr ⟨base, Or.inl rfl, rfl⟩

theorem exists_splitAt_join (base : Text) :
    ∃ init, Text.splitAt '/' (join base name) = init ++ [name] := by
  rcases named.join_cases base with ⟨_, whole⟩ | ⟨lead, _, whole⟩
  · exact ⟨[], by rw [whole, Text.splitAt_of_notMem named.whole, List.nil_append]⟩
  · exact ⟨Text.splitAt '/' lead, by
      rw [whole, Text.splitAt_append, Text.splitAt_of_notMem named.whole]⟩

theorem endsInSlash_join (base : Text) : endsInSlash (join base name) = false := by
  obtain ⟨init, last, rfl⟩ := (List.eq_nil_or_concat name).resolve_left named.filled
  rw [List.concat_eq_append] at named ⊢
  have different : last ≠ '/' := fun same => named.whole (by simp [same])
  rcases named.join_cases base with ⟨_, whole⟩ | ⟨lead, _, whole⟩
  · rw [whole, endsInSlash, List.getLast?_concat]
    simpa using different
  · rw [whole, ← List.cons_append, ← List.append_assoc, endsInSlash, List.getLast?_concat]
    simpa using different

end IsFileName

private theorem getLast?_dropHere_concat (parts : List Text) {name : Text}
    (notHere : isHere name = false) :
    (dropHere (parts ++ [name])).getLast? = some name := by
  cases parts with
  | nil => rfl
  | cons first rest =>
      rw [List.cons_append, dropHere, List.reverse_append, List.reverse_singleton,
        List.singleton_append, List.dropWhile_cons_of_neg (by simp [notHere]), List.reverse_cons,
        List.reverse_reverse, ← List.cons_append, List.getLast?_concat]

/-- A file that is named in a directory bears its name, whatever the directory. -/
theorem fileName?_join (base : Text) {name : Text} (named : IsFileName name) :
    fileName? (join base name) = some name := by
  obtain ⟨init, parts⟩ := named.exists_splitAt_join base
  rw [fileName?, significant, parts, getLast?_dropHere_concat init named.isHere_eq_false]
  simp [named.isHere_eq_false, named.noParent]

/-- It keeps its name where its path is made absolute. -/
theorem fileName?_absolute? {here base name path : Text} (named : IsFileName name)
    (absolute : absolute? here (join base name) = some path) : fileName? path = some name := by
  obtain ⟨init, parts⟩ := named.exists_splitAt_join base
  have last : names (join base name) = init.filter (fun part => !isHere part) ++ [name] := by
    rw [names, parts, List.filter_append]
    simp [named.isHere_eq_false]
  rw [absolute?, last, named.endsInSlash_join base] at absolute
  split at absolute
  · cases absolute
  · simp only [Bool.false_eq_true, if_false, List.foldl_append, List.foldl_cons,
      List.foldl_nil] at absolute
    cases absolute
    exact fileName?_join _ named

theorem fileName?_withFileName {name : Text} (path : Text) (named : IsFileName name) :
    fileName? (withFileName name path) = some name := by
  rw [withFileName]
  split
  · exact fileName?_join _ named
  · exact fileName?_join _ named

end Path

end DocCheck
