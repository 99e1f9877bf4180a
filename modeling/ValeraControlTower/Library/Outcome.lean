import Mathlib

/-!
# Two computations with outcomes that correspond

Two programs that fail alike and otherwise return related values.
-/

namespace Outcome

variable {Error First Second NextFirst NextSecond : Type}

/-- The same error, or related values. -/
inductive Matches (related : First → Second → Prop) :
    Except Error First → Except Error Second → Prop
  | ok {first : First} {second : Second} (isRelated : related first second) :
      Matches related (.ok first) (.ok second)
  | error (error : Error) : Matches related (.error error) (.error error)

namespace Matches

variable {related : First → Second → Prop} {nextRelated : NextFirst → NextSecond → Prop}
  {first : Except Error First} {second : Except Error Second}

theorem bind {onFirst : First → Except Error NextFirst}
    {onSecond : Second → Except Error NextSecond}
    (alike : Matches related first second)
    (goesOn : ∀ value other, related value other →
      Matches nextRelated (onFirst value) (onSecond other)) :
    Matches nextRelated (first >>= onFirst) (second >>= onSecond) := by
  cases alike with
  | ok isRelated => exact goesOn _ _ isRelated
  | error error => exact .error error

theorem map {onFirst : First → NextFirst} {onSecond : Second → NextSecond}
    (alike : Matches related first second)
    (goesOn : ∀ value other, related value other → nextRelated (onFirst value) (onSecond other)) :
    Matches nextRelated (first.map onFirst) (second.map onSecond) := by
  cases alike with
  | ok isRelated => exact .ok (goesOn _ _ isRelated)
  | error error => exact .error error

theorem eq {first second : Except Error First} (alike : Matches Eq first second) :
    first = second := by
  cases alike with
  | ok same => rw [same]
  | error error => rfl

/-- A choice both make alike. -/
theorem ite {condition : Prop} [Decidable condition] {otherFirst : Except Error First}
    {otherSecond : Except Error Second} (isTrue : condition → Matches related first second)
    (isFalse : ¬condition → Matches related otherFirst otherSecond) :
    Matches related (if condition then first else otherFirst)
      (if condition then second else otherSecond) := by
  by_cases holds : condition
  · rw [if_pos holds, if_pos holds]
    exact isTrue holds
  · rw [if_neg holds, if_neg holds]
    exact isFalse holds

end Matches

end Outcome
