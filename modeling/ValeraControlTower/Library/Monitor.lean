import ValeraControlTower.Library.Machine

/-!
# Monitors of the streams machines emit

A monitor reads a stream item by item and stops at the first item it does not allow.  A
relation between its states and those of a machine that every step keeps, the monitor
allowing what the step emits, makes it allow the stream of every run.
-/

namespace Machine

universe u v w

variable {State Input Output : Type u} {Spec : Type v} {Item : Type w}

/-- The state a monitor moves to on an item; none if it does not allow the item. -/
abbrev Monitor (Spec : Type v) (Item : Type w) := Spec → Item → Option Spec

namespace Monitor

/-- The state behind a stream, if every item of it is allowed. -/
def hear (monitor : Monitor Spec Item) : Spec → List Item → Option Spec
  | spec, [] => some spec
  | spec, item :: items => (monitor spec item).bind fun next => monitor.hear next items

variable {monitor : Monitor Spec Item} {spec middle last : Spec}

@[simp]
theorem hear_nil (spec : Spec) : monitor.hear spec [] = some spec := rfl

theorem hear_cons {item : Item} {items : List Item} (allowed : monitor spec item = some middle) :
    monitor.hear spec (item :: items) = monitor.hear middle items := by
  change (monitor spec item).bind _ = _
  rw [allowed]
  rfl

theorem hear_append {first : List Item} (second : List Item)
    (heard : monitor.hear spec first = some middle) :
    monitor.hear spec (first ++ second) = monitor.hear middle second := by
  induction first generalizing spec with
  | nil =>
      cases heard
      rfl
  | cons item first inductionHypothesis =>
      obtain ⟨next, allowed, later⟩ := Option.bind_eq_some_iff.mp heard
      rw [List.cons_append, hear_cons allowed]
      exact inductionHypothesis later

/-- A stream can be cut at any point. -/
theorem hear_split {first second : List Item}
    (heard : monitor.hear spec (first ++ second) = some last) :
    ∃ middle, monitor.hear spec first = some middle ∧ monitor.hear middle second = some last := by
  induction first generalizing spec with
  | nil => exact ⟨spec, rfl, heard⟩
  | cons item first inductionHypothesis =>
      obtain ⟨next, allowed, later⟩ := Option.bind_eq_some_iff.mp heard
      obtain ⟨middle, before, after⟩ := inductionHypothesis later
      refine ⟨middle, ?_, after⟩
      rw [hear_cons allowed]
      exact before

/-- A monitor under other names hears a renamed stream as the first one hears the stream. -/
theorem hear_map {Renamed : Type v} {RenamedItem : Type w}
    {renamed : Monitor Renamed RenamedItem} {name : Spec → Renamed} {nameItem : Item → RenamedItem}
    (commutes : ∀ spec item, renamed (name spec) (nameItem item) = (monitor spec item).map name)
    (spec : Spec) (items : List Item) :
    renamed.hear (name spec) (items.map nameItem) = (monitor.hear spec items).map name := by
  induction items generalizing spec with
  | nil => rfl
  | cons item items inductionHypothesis =>
      rw [List.map_cons]
      unfold hear
      rw [commutes]
      cases monitor spec item with
      | none => rfl
      | some next => exact inductionHypothesis next

end Monitor

/-- From related states, every step emits what the monitor allows and leads to related
states again. -/
def Follows (monitor : Monitor Spec Item) (step : State → Input → State × Output)
    (emits : Entry Input Output → List Item) (tracks : Spec → State → Prop) : Prop :=
  ∀ spec state input, tracks spec state →
    ∃ next, monitor.hear spec (emits ⟨input, (step state input).2⟩) = some next ∧
      tracks next (step state input).1

variable {monitor : Monitor Spec Item} {step : State → Input → State × Output}
  {emits : Entry Input Output → List Item} {tracks : Spec → State → Prop}

/-- The stream of a run is allowed, and leads the monitor to a state related to its last. -/
theorem Follows.run (follows : Follows monitor step emits tracks) {spec : Spec}
    {start final : State} {history : List (Entry Input Output)}
    (run : Run step start history final) (initially : tracks spec start) :
    ∃ last, monitor.hear spec (history.flatMap emits) = some last ∧ tracks last final := by
  induction run with
  | nil => exact ⟨spec, rfl, initially⟩
  | @snoc past state input _ inductionHypothesis =>
      obtain ⟨middle, heard, tracking⟩ := inductionHypothesis
      obtain ⟨last, later, tracked⟩ := follows middle state input tracking
      refine ⟨last, ?_, tracked⟩
      rw [List.flatMap_append, Monitor.hear_append _ heard]
      simpa using later

/-- What every step keeps whose entry the monitor allows holds at the end of every run that
it allows: the monitor says what the surroundings of the machine do. -/
theorem Run.allowed {surroundings : Monitor Spec (Entry Input Output)}
    {motive : List (Entry Input Output) → Spec → State → Prop} {spec last : Spec}
    {start final : State} {history : List (Entry Input Output)}
    (run : Run step start history final) (heard : surroundings.hear spec history = some last)
    (initially : motive [] spec start)
    (kept : ∀ past now next state input, motive past now state →
      surroundings now ⟨input, (step state input).2⟩ = some next →
      motive (past ++ [⟨input, (step state input).2⟩]) next (step state input).1) :
    motive history last final := by
  induction run generalizing last with
  | nil =>
      cases heard
      exact initially
  | @snoc past state input _ inductionHypothesis =>
      obtain ⟨middle, before, allowed⟩ := Monitor.hear_split heard
      obtain ⟨next, isNext, heardNext⟩ := Option.bind_eq_some_iff.mp allowed
      cases heardNext
      exact kept past middle last state input (inductionHypothesis before) isNext

end Machine
