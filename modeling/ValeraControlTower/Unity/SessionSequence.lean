import ValeraControlTower.Library.Machine
import ValeraControlTower.Unity.CSharp

/-!
# `SessionSequence.cs`

The numbers of a client's commands.  Call after call they are consecutive, and once
`long.MaxValue` has been returned there are no more.
-/

namespace ValeraControlTower.Unity

structure InvalidOperationException where
  message : CsString
  deriving DecidableEq

/-- `long.MaxValue`. -/
def longMaxValue : ℤ := 9223372036854775807

structure SessionSequence where
  current : CsLong
  nonnegative : 0 ≤ current.1

namespace SessionSequence

/-- `new SessionSequence(currentValue)`. -/
def new (currentValue : CsLong) : Except CsException SessionSequence :=
  if nonnegative : 0 ≤ currentValue.1 then .ok ⟨currentValue, nonnegative⟩
  else .error (.argumentOutOfRangeException (cs "currentValue"))

/-- `current + 1`, which does not wrap here. -/
def successor (current : CsLong) (notLast : current.1 ≠ longMaxValue) : CsLong :=
  ⟨current.1 + 1, by
    have bounds := current.2
    unfold longMaxValue at notLast
    omega⟩

/-- `Next`. -/
def next (sequence : SessionSequence) :
    SessionSequence × Except InvalidOperationException CsLong :=
  if exhausted : sequence.current.1 = longMaxValue then
    (sequence, .error ⟨cs "Session sequence is exhausted."⟩)
  else
    let current := successor sequence.current exhausted
    (⟨current, Int.add_nonneg sequence.nonnegative Int.one_nonneg⟩, .ok current)

/-! ## Calls -/

def step (sequence : SessionSequence) (_ : Unit) :
    SessionSequence × Except InvalidOperationException CsLong := sequence.next

abbrev Calls := List (Machine.Entry Unit (Except InvalidOperationException CsLong))

/-- The numbers that calls returned. -/
def numbers (calls : Calls) : List ℤ := calls.filterMap fun call => (call.output.toOption).map (·.1)

/-- What a call does. -/
theorem next_cases (sequence : SessionSequence) :
    (sequence.current.1 ≠ longMaxValue ∧ ∃ value, sequence.next.2 = .ok value ∧
      value.1 = sequence.current.1 + 1 ∧ sequence.next.1.current = value) ∨
    (sequence.current.1 = longMaxValue ∧ sequence.next.1 = sequence ∧
      ∃ exception, sequence.next.2 = .error exception) := by
  unfold next
  split
  · next exhausted => exact .inr ⟨exhausted, rfl, _, rfl⟩
  · next notLast => exact .inl ⟨notLast, _, rfl, rfl, rfl⟩

/-- The numbers of a run are consecutive and end with the current one, and it is
`long.MaxValue` if a call has thrown. -/
structure Counts (start : SessionSequence) (calls : Calls) (sequence : SessionSequence) : Prop where
  current : sequence.current.1 = start.current.1 + (numbers calls).length
  consecutive : numbers calls =
    (List.range (numbers calls).length).map fun index : ℕ => start.current.1 + 1 + index
  exhausted : ∀ call ∈ calls, ∀ exception, call.output = .error exception →
    sequence.current.1 = longMaxValue

theorem Counts.snoc {start sequence : SessionSequence} {calls : Calls}
    (counts : Counts start calls sequence) (input : Unit) :
    Counts start (calls ++ [⟨input, (sequence.step input).2⟩]) (sequence.step input).1 := by
  unfold step
  rcases sequence.next_cases with
    ⟨notLast, value, returned, isNext, becomes⟩ | ⟨last, same, raised⟩
  · have more : numbers (calls ++ [⟨input, sequence.next.2⟩]) = numbers calls ++ [value.1] := by
      simp [numbers, returned, Except.toOption]
    constructor
    · rw [becomes, more, isNext, counts.current]
      simp
      omega
    · rw [more, List.length_append, List.length_singleton, List.range_succ, List.map_append,
        ← counts.consecutive, isNext, counts.current]
      simp
      omega
    · intro call membership exception threw
      rcases List.mem_append.mp membership with earlier | latest
      · exact absurd (counts.exhausted call earlier exception threw) notLast
      · obtain rfl := List.mem_singleton.mp latest
        cases returned.symm.trans threw
  · obtain ⟨exception, raised⟩ := raised
    have more : numbers (calls ++ [⟨input, sequence.next.2⟩]) = numbers calls := by
      simp [numbers, raised, Except.toOption]
    rw [same]
    constructor
    · rw [more, counts.current]
    · rw [more, ← counts.consecutive]
    · intro _ _ _ _
      exact last

theorem counts_of_run {start sequence : SessionSequence} {calls : Calls}
    (run : Machine.Run step start calls sequence) : Counts start calls sequence := by
  induction run with
  | nil => exact ⟨by simp [numbers], by simp [numbers], by simp⟩
  | snoc input _ inductionHypothesis => exact inductionHypothesis.snoc input

/-- Numbers never repeat and never fall. -/
theorem Counts.increasing {start sequence : SessionSequence} {calls : Calls}
    (counts : Counts start calls sequence) : (numbers calls).Pairwise (· < ·) := by
  rw [counts.consecutive, List.pairwise_map]
  apply List.pairwise_lt_range.imp
  intro first second before
  omega

end SessionSequence

end ValeraControlTower.Unity
