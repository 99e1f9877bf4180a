import Mathlib

/-!
# Deterministic machines and the history of a run

A machine is a step function from a state and an input to the next state and an
output.  A run records, oldest first, each input together with what it returned.
What every step keeps holds at the end of every run (`Run.invariant`).
-/

namespace Machine

universe u

variable {State Input Output : Type u}

/-- One step of a run: what went in and what came out. -/
structure Entry (Input Output : Type u) where
  input : Input
  output : Output

/-- `Run step start history final`: the inputs recorded in `history`, fed to the
machine from `start` in that order, give the recorded outputs and end in `final`. -/
inductive Run (step : State → Input → State × Output) (start : State) :
    List (Entry Input Output) → State → Prop where
  | nil : Run step start [] start
  | snoc {history : List (Entry Input Output)} {state : State} (input : Input) :
      Run step start history state →
      Run step start (history ++ [⟨input, (step state input).2⟩]) (step state input).1

/-- A state some run from `start` ends in. -/
def Reachable (step : State → Input → State × Output) (start state : State) : Prop :=
  ∃ history, Run step start history state

variable {step : State → Input → State × Output} {start middle final : State}

/-- A run from `start` followed by a run from where it ended. -/
theorem Run.append {first second : List (Entry Input Output)}
    (left : Run step start first middle) (right : Run step middle second final) :
    Run step start (first ++ second) final := by
  induction right with
  | nil => simpa using left
  | snoc input _ inductionHypothesis =>
      rw [← List.append_assoc]
      exact inductionHypothesis.snoc input

theorem Run.single (start : State) (input : Input) :
    Run step start [⟨input, (step start input).2⟩] (step start input).1 :=
  Run.nil.snoc input

/-- The inputs of a history fix the state it ends in. -/
theorem Run.deterministic {history : List (Entry Input Output)} {state other : State}
    (first : Run step start history state) (second : Run step start history other) :
    state = other := by
  induction first generalizing other with
  | nil =>
      generalize same : ([] : List (Entry Input Output)) = history at second
      cases second with
      | nil => rfl
      | snoc input _ => simp at same
  | @snoc past state input _ inductionHypothesis =>
      generalize same : past ++ [⟨input, (step state input).2⟩] = history at second
      cases second with
      | nil => simp at same
      | @snoc otherPast otherState otherInput before =>
          obtain ⟨rfl, sameEntry⟩ := List.append_inj' same rfl
          obtain rfl := (Entry.mk.inj (List.singleton_inj.mp sameEntry)).1
          rw [inductionHypothesis before]

/-- A run can be cut at any point of its history. -/
theorem Run.split {first second : List (Entry Input Output)}
    (run : Run step start (first ++ second) final) :
    ∃ state, Run step start first state ∧ Run step state second final := by
  generalize same : first ++ second = history at run
  induction run generalizing second with
  | nil =>
      obtain ⟨rfl, rfl⟩ := List.append_eq_nil_iff.mp same
      exact ⟨start, .nil, .nil⟩
  | @snoc past state input before inductionHypothesis =>
      rcases List.eq_nil_or_concat second with rfl | ⟨init, last, rfl⟩
      · rw [List.append_nil] at same
        subst same
        exact ⟨_, before.snoc input, .nil⟩
      · rw [List.concat_eq_append, ← List.append_assoc] at same
        obtain ⟨samePast, sameLast⟩ := List.append_inj' same rfl
        obtain rfl := List.singleton_inj.mp sameLast
        obtain ⟨cut, left, right⟩ := inductionHypothesis samePast
        refine ⟨cut, left, ?_⟩
        rw [List.concat_eq_append]
        exact right.snoc input

/-- Every recorded entry is what the machine returned in the state it was in. -/
theorem Run.entry {before after : List (Entry Input Output)} {entry : Entry Input Output}
    (run : Run step start (before ++ entry :: after) final) :
    ∃ state, Run step start before state ∧
      entry.output = (step state entry.input).2 ∧
      Run step (step state entry.input).1 after final := by
  rw [← List.singleton_append, ← List.append_assoc] at run
  obtain ⟨later, left, right⟩ := run.split
  generalize same : before ++ [entry] = history at left
  cases left with
  | nil => simp at same
  | @snoc past state input earlier =>
      obtain ⟨rfl, sameEntry⟩ := List.append_inj' same rfl
      obtain rfl := List.singleton_inj.mp sameEntry
      exact ⟨state, earlier, rfl, right⟩

/-- What holds at the start and is kept by every step holds at the end of every run. -/
theorem Run.invariant {motive : List (Entry Input Output) → State → Prop}
    (initially : motive [] start)
    (kept : ∀ history state input, motive history state →
      motive (history ++ [⟨input, (step state input).2⟩]) (step state input).1)
    {history : List (Entry Input Output)} (run : Run step start history final) :
    motive history final := by
  induction run with
  | nil => exact initially
  | snoc input _ inductionHypothesis => exact kept _ _ input inductionHypothesis

/-- The history of feeding `inputs` to the machine, and the state it ends in. -/
def execute (step : State → Input → State × Output) :
    State → List Input → List (Entry Input Output) × State
  | state, [] => ([], state)
  | state, input :: rest =>
      let (next, output) := step state input
      let (history, last) := execute step next rest
      (⟨input, output⟩ :: history, last)

theorem execute_run (step : State → Input → State × Output) (start : State)
    (inputs : List Input) :
    Run step start (execute step start inputs).1 (execute step start inputs).2 := by
  induction inputs generalizing start with
  | nil => exact .nil
  | cons input rest inductionHypothesis =>
      exact (Run.single start input).append (inductionHypothesis _)

@[simp]
theorem execute_inputs (step : State → Input → State × Output) (start : State)
    (inputs : List Input) : (execute step start inputs).1.map (·.input) = inputs := by
  induction inputs generalizing start with
  | nil => rfl
  | cons input rest inductionHypothesis => exact congrArg _ (inductionHypothesis _)

theorem execute_append (step : State → Input → State × Output) (start : State)
    (first second : List Input) :
    execute step start (first ++ second) =
      ((execute step start first).1 ++ (execute step (execute step start first).2 second).1,
        (execute step (execute step start first).2 second).2) := by
  induction first generalizing start with
  | nil => rfl
  | cons input first inductionHypothesis =>
      simp only [List.cons_append, execute, inductionHypothesis]

/-- There is one run for the inputs it has. -/
theorem Run.eq_execute {history : List (Entry Input Output)} (run : Run step start history final) :
    execute step start (history.map (·.input)) = (history, final) := by
  induction run with
  | nil => rfl
  | snoc input _ inductionHypothesis =>
      rw [List.map_append, execute_append, inductionHypothesis]
      rfl

end Machine
