import Mathlib

/-!
# Failures that are expected

A program checks its input and fails in a way of its own where a check is not met.  Failures of
another kind escape it.
-/

namespace Failures

variable {Error α β : Type} {expected : Error → Prop}

/-- The outcome is a failure that is not among the expected ones. -/
def Escapes (expected : Error → Prop) (outcome : Except Error α) : Prop :=
  ∃ error, outcome = .error error ∧ ¬expected error

@[simp]
theorem not_escapes_ok (value : α) : ¬Escapes expected (.ok value) := by
  intro escapes
  obtain ⟨error, failed, _⟩ := escapes
  cases failed

@[simp]
theorem escapes_error {error : Error} :
    Escapes expected (.error error : Except Error α) ↔ ¬expected error := by
  constructor
  · intro escapes
    obtain ⟨other, failed, unexpected⟩ := escapes
    cases failed
    exact unexpected
  · intro unexpected
    exact ⟨error, rfl, unexpected⟩

theorem ok_bind (value : α) (next : α → Except Error β) : (Except.ok value >>= next) = next value :=
  rfl

theorem escapes_bind {outcome : Except Error α} {next : α → Except Error β} :
    Escapes expected (outcome >>= next) ↔
      Escapes expected outcome ∨ ∃ value, outcome = .ok value ∧ Escapes expected (next value) := by
  cases outcome with
  | ok value => simp [ok_bind]
  | error error =>
      change Escapes expected (.error error) ↔ _
      simp

/-- What is made of a value does not fail. -/
theorem escapes_map {outcome : Except Error α} {next : α → β} :
    Escapes expected (outcome >>= fun value => pure (next value)) ↔ Escapes expected outcome := by
  rw [escapes_bind]
  constructor
  · intro escapes
    rcases escapes with escapes | ⟨value, _, escapes⟩
    · exact escapes
    · exact absurd escapes (not_escapes_ok (next value))
  · exact .inl

/-! ## Checks -/

/-- A check that fails in the given way. -/
def check (condition : Bool) (error : Error) : Except Error Unit :=
  if condition then .ok () else .error error

variable {condition : Bool} {error : Error}

theorem escapes_check_bind (isExpected : expected error) {next : Unit → Except Error β} :
    Escapes expected (check condition error >>= next) ↔
      condition = true ∧ Escapes expected (next ()) := by
  cases condition with
  | true => simp [check, ok_bind]
  | false =>
      change Escapes expected (.error error) ↔ _
      simp [isExpected]

theorem check_bind_eq_ok {next : Unit → Except Error β} {value : β} :
    (check condition error >>= next) = .ok value ↔ condition = true ∧ next () = .ok value := by
  cases condition with
  | true => simp [check, ok_bind]
  | false =>
      change (.error error : Except Error β) = .ok value ↔ _
      simp

/-! ## Checks of an input -/

variable {Named : Type} {Right : Named → Prop} {behind : Named → Except Error α}
  {outcome : Except Error α}

/-- Checks that fail as expected unless the input is right, and then go on with what the right
input names. -/
inductive Guarded (expected : Error → Prop) (Right : Named → Prop)
    (behind : Named → Except Error α) : Except Error α → Prop
  | refuses {error : Error} (wrong : ∀ named, ¬Right named) (isExpected : expected error) :
      Guarded expected Right behind (.error error)
  | passes {named : Named} (right : Right named) : Guarded expected Right behind (behind named)

namespace Guarded

theorem check (isExpected : expected error) {next : Unit → Except Error α}
    (needed : ∀ named, Right named → condition = true)
    (rest : condition = true → Guarded expected Right behind (next ())) :
    Guarded expected Right behind (Failures.check condition error >>= next) := by
  cases holds : condition with
  | true => exact rest holds
  | false =>
      apply refuses _ isExpected
      intro named right
      cases holds.symm.trans (needed named right)

theorem escapes (guarded : Guarded expected Right behind outcome)
    (unique : ∀ named other, Right named → Right other → named = other) :
    Escapes expected outcome ↔ ∃ named, Right named ∧ Escapes expected (behind named) := by
  cases guarded with
  | refuses wrong isExpected =>
      apply iff_of_false
      · rw [escapes_error]
        exact not_not_intro isExpected
      · intro ⟨named, right, _⟩
        exact wrong named right
  | @passes named right =>
      constructor
      · intro escapes
        exact ⟨named, right, escapes⟩
      · intro ⟨other, right', escapes⟩
        cases unique named other right right'
        exact escapes

theorem eq_ok (guarded : Guarded expected Right behind outcome)
    (unique : ∀ named other, Right named → Right other → named = other) {value : α} :
    outcome = .ok value ↔ ∃ named, Right named ∧ behind named = .ok value := by
  cases guarded with
  | refuses wrong _ =>
      apply iff_of_false
      · intro returned
        cases returned
      · intro ⟨named, right, _⟩
        exact wrong named right
  | @passes named right =>
      constructor
      · intro returned
        exact ⟨named, right, returned⟩
      · intro ⟨other, right', returned⟩
        cases unique named other right right'
        exact returned

end Guarded

end Failures
