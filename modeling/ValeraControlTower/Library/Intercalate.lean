import Mathlib

/-!
# Lists that are put together

The parts of a list with something in between.
-/

namespace Intercalate

variable {Item : Type*} {between part : List Item} {parts : List (List Item)} {item : Item}

/-- Every part is there as a whole. -/
theorem part_infix (inside : part ∈ parts) : part <:+: between.intercalate parts := by
  induction parts with
  | nil => cases inside
  | cons first rest inductionHypothesis =>
      cases rest with
      | nil =>
          rw [List.mem_singleton] at inside
          rw [List.intercalate_singleton, inside]
      | cons second rest =>
          rw [List.intercalate_cons_cons]
          rcases List.mem_cons.mp inside with same | later
          · rw [same]
            exact ⟨[], between ++ between.intercalate (second :: rest), by simp⟩
          · exact (inductionHypothesis later).trans (List.suffix_append _ _).isInfix

/-- Nothing else is there. -/
theorem mem_cases (inside : item ∈ between.intercalate parts) :
    item ∈ between ∨ ∃ part ∈ parts, item ∈ part := by
  induction parts with
  | nil => cases inside
  | cons first rest inductionHypothesis =>
      cases rest with
      | nil =>
          rw [List.intercalate_singleton] at inside
          exact .inr ⟨first, List.mem_singleton_self _, inside⟩
      | cons second rest =>
          rw [List.intercalate_cons_cons, List.mem_append, List.mem_append] at inside
          rcases inside with (inFirst | inBetween) | later
          · exact .inr ⟨first, List.mem_cons_self, inFirst⟩
          · exact .inl inBetween
          · apply (inductionHypothesis later).imp_right
            intro ⟨part, isPart, inPart⟩
            exact ⟨part, List.mem_cons_of_mem _ isPart, inPart⟩

end Intercalate
