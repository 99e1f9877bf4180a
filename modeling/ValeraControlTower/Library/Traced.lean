import ValeraControlTower.Library.Monitor

/-!
# Programs that leave a trace

A program acts on its surroundings, which answer by all that has happened before, and it returns
or raises.  What it does is judged by a monitor of the trace: from a state of the monitor, whatever
the answers are, all that happens is allowed, and outcome and last state are related.
-/

namespace Traced

open Machine

universe v w

variable {Spec : Type v} {Event Error α β : Type}

/-- What a program returns or raises, and the trace behind it. -/
abbrev Program (Event Error α : Type) := ExceptT Error (StateM (List Event)) α

/-- The run of a program behind a trace. -/
def Program.after (program : Program Event Error α) (past : List Event) :
    Except Error α × List Event :=
  (program.run).run past

/-- An act that is answered, and recorded by its answer. -/
def act (answer : List Event → Except Error α) (record : Except Error α → Event) :
    Program Event Error α :=
  ExceptT.mk fun past => (answer past, past ++ [record (answer past)])

/-- What leaves no trace. -/
def silent (outcome : Except Error α) : Program Event Error α := ExceptT.mk (pure outcome)

section Returned

variable {past later : List Event} {value : α}

theorem act_returned {answer : List Event → Except Error α} {record : Except Error α → Event}
    (returned : (act answer record).after past = (.ok value, later)) :
    answer past = .ok value ∧ later = past ++ [record (.ok value)] := by
  obtain ⟨answered, grown⟩ := Prod.mk.inj returned
  rw [answered] at grown
  exact ⟨answered, grown.symm⟩

theorem silent_returned {outcome : Except Error α}
    (returned : (silent outcome).after past = (.ok value, later)) :
    outcome = .ok value ∧ later = past := by
  obtain ⟨answered, same⟩ := Prod.mk.inj returned
  exact ⟨answered, same.symm⟩

end Returned

/-- From a state of the monitor, all that happens is allowed, and the outcome and the state behind
it are related. -/
def Meets (monitor : Monitor Spec Event) (before : Spec) (program : Program Event Error α)
    (post : Except Error α → Spec → Prop) : Prop :=
  ∀ past, ∃ events after, (program.after past).2 = past ++ events ∧
    monitor.hear before events = some after ∧ post (program.after past).1 after

variable {monitor : Monitor Spec Event} {before : Spec} {program : Program Event Error α}
  {post wider : Except Error α → Spec → Prop}

theorem Meets.weaken (meets : Meets monitor before program post)
    (implies : ∀ outcome after, post outcome after → wider outcome after) :
    Meets monitor before program wider := by
  intro past
  obtain ⟨events, after, grown, heard, holds⟩ := meets past
  exact ⟨events, after, grown, heard, implies _ _ holds⟩

theorem Meets.silent {outcome : Except Error α} (holds : post outcome before) :
    Meets monitor before (silent outcome) post := by
  intro past
  exact ⟨[], before, (List.append_nil past).symm, rfl, holds⟩

theorem Meets.pure {value : α} (holds : post (.ok value) before) :
    Meets monitor before (pure value) post :=
  Meets.silent holds

theorem Meets.throw {error : Error} (holds : post (.error error) before) :
    Meets monitor before (throw error) post :=
  Meets.silent holds

/-- An act of which every answer is allowed. -/
theorem Meets.act {answer : List Event → Except Error α} {record : Except Error α → Event}
    (allowed : ∀ past, ∃ after, monitor before (record (answer past)) = some after ∧
      post (answer past) after) :
    Meets monitor before (act answer record) post := by
  intro past
  obtain ⟨after, isAllowed, holds⟩ := allowed past
  refine ⟨[record (answer past)], after, rfl, ?_, holds⟩
  rw [Monitor.hear_cons isAllowed, Monitor.hear_nil]

theorem after_bind (program : Program Event Error α) (next : α → Program Event Error β)
    (past : List Event) : (program >>= next).after past =
      match (program.after past).1 with
      | .ok value => (next value).after (program.after past).2
      | .error error => (.error error, (program.after past).2) := by
  change (match (program.after past).1 with
    | .ok value => (next value).run
    | .error error => pure (.error error)).run (program.after past).2 = _
  cases (program.after past).1 with
  | error error => rfl
  | ok value => rfl

/-- If one program behind another returns, the first has returned. -/
theorem bind_returned {next : α → Program Event Error β} {past later : List Event} {value : β}
    (returned : (program >>= next).after past = (.ok value, later)) :
    ∃ first middle, program.after past = (.ok first, middle) ∧
      (next first).after middle = (.ok value, later) := by
  rw [after_bind] at returned
  cases outcome : (program.after past).1 with
  | error error =>
      rw [outcome] at returned
      cases returned
  | ok first =>
      rw [outcome] at returned
      exact ⟨first, _, Prod.ext outcome rfl, returned⟩

/-- One program behind another, unless the first raises. -/
theorem Meets.bind {next : α → Program Event Error β} {last : Except Error β → Spec → Prop}
    (first : Meets monitor before program post)
    (raised : ∀ error middle, post (.error error) middle → last (.error error) middle)
    (goesOn : ∀ value middle, post (.ok value) middle → Meets monitor middle (next value) last) :
    Meets monitor before (program >>= next) last := by
  intro past
  obtain ⟨events, middle, grown, heard, holds⟩ := first past
  rw [after_bind]
  cases outcome : (program.after past).1 with
  | error error =>
      rw [outcome] at holds
      exact ⟨events, middle, grown, heard, raised error middle holds⟩
  | ok value =>
      rw [outcome] at holds
      dsimp only
      rw [grown]
      obtain ⟨later, after, grownLater, heardLater, holdsLater⟩ :=
        goesOn value middle holds (past ++ events)
      refine ⟨events ++ later, after, ?_, ?_, holdsLater⟩
      · rw [grownLater, List.append_assoc]
      · rw [Monitor.hear_append later heard, heardLater]

/-- What leaves no trace, in front of a program. -/
theorem Meets.silent_bind {outcome : Except Error α} {next : α → Program Event Error β}
    {last : Except Error β → Spec → Prop}
    (raised : ∀ error, outcome = .error error → last (.error error) before)
    (goesOn : ∀ value, outcome = .ok value → Meets monitor before (next value) last) :
    Meets monitor before (Traced.silent outcome >>= next) last := by
  cases outcome with
  | error error => exact Meets.silent (raised error rfl)
  | ok value => exact goesOn value rfl

/-- What `try … finally …` makes of the two outcomes. -/
def settle (outcome : Except Error α) : Except Error β → Except Error α
  | .ok _ => outcome
  | .error error => .error error

/-- `try: program finally: cleanup`. -/
def ensure (program : Program Event Error α) (cleanup : Program Event Error β) :
    Program Event Error α :=
  ExceptT.mk fun past =>
    let (outcome, past) := program.after past
    let (cleaned, past) := cleanup.after past
    (settle outcome cleaned, past)

/-- If a program with a clean-up returns, the program has returned. -/
theorem ensure_returned {cleanup : Program Event Error β} {past later : List Event} {value : α}
    (returned : (ensure program cleanup).after past = (.ok value, later)) :
    ∃ middle, program.after past = (.ok value, middle) := by
  have settled : settle (program.after past).1 (cleanup.after (program.after past).2).1 =
      .ok value := congrArg Prod.fst returned
  refine ⟨_, Prod.ext ?_ rfl⟩
  cases cleaned : (cleanup.after (program.after past).2).1 with
  | error error =>
      rw [cleaned] at settled
      cases settled
  | ok _ =>
      rw [cleaned] at settled
      exact settled

/-- `try: value = program except Exception as error: handler(error) else: next(value)`. -/
def attempt (program : Program Event Error α) (next : α → Program Event Error β)
    (handler : Error → Program Event Error β) : Program Event Error β :=
  ExceptT.mk fun past =>
    match program.after past with
    | (.ok value, past) => (next value).after past
    | (.error error, past) => (handler error).after past

/-- A clean-up runs whatever the program does. -/
theorem Meets.ensure {cleanup : Program Event Error β} {last : Except Error α → Spec → Prop}
    (body : Meets monitor before program post)
    (cleans : ∀ outcome middle, post outcome middle → Meets monitor middle cleanup
      fun cleaned after => last (settle outcome cleaned) after) :
    Meets monitor before (ensure program cleanup) last := by
  intro past
  obtain ⟨events, middle, grown, heard, holds⟩ := body past
  obtain ⟨later, after, grownLater, heardLater, holdsLater⟩ :=
    cleans _ middle holds (past ++ events)
  rw [← grown] at grownLater holdsLater
  refine ⟨events ++ later, after, ?_, ?_, holdsLater⟩
  · apply grownLater.trans
    rw [grown, List.append_assoc]
  · rw [Monitor.hear_append later heard, heardLater]

/-- One way of going on is taken, by the outcome of the program. -/
theorem Meets.attempt {next : α → Program Event Error β} {handler : Error → Program Event Error β}
    {last : Except Error β → Spec → Prop} (first : Meets monitor before program post)
    (goesOn : ∀ value middle, post (.ok value) middle → Meets monitor middle (next value) last)
    (handles : ∀ error middle, post (.error error) middle →
      Meets monitor middle (handler error) last) :
    Meets monitor before (attempt program next handler) last := by
  intro past
  obtain ⟨events, middle, grown, heard, holds⟩ := first past
  have unfolded : (Traced.attempt program next handler).after past =
      match program.after past with
      | (.ok value, past) => (next value).after past
      | (.error error, past) => (handler error).after past := rfl
  rw [unfolded]
  generalize program.after past = result at grown holds ⊢
  obtain ⟨outcome, trace⟩ := result
  subst grown
  have continued {program' : Program Event Error β} (meets : Meets monitor middle program' last) :
      ∃ events' after, (program'.after (past ++ events)).2 = past ++ events' ∧
        monitor.hear before events' = some after ∧
        last (program'.after (past ++ events)).1 after := by
    obtain ⟨later, after, grown, heardLater, holdsLater⟩ := meets (past ++ events)
    refine ⟨events ++ later, after, ?_, ?_, holdsLater⟩
    · rw [grown, List.append_assoc]
    · rw [Monitor.hear_append later heard, heardLater]
  cases outcome with
  | ok value => exact continued (goesOn value middle holds)
  | error error => exact continued (handles error middle holds)

end Traced
