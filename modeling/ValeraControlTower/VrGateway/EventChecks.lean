import ValeraControlTower.VrGateway.EventFields
import ValeraControlTower.VrGateway.TrustBoundary
import ValeraControlTower.VrGateway.WireErrors

/-!
# What the checks of `encode_event` raise

Each encoder is a sequence of steps: attributes are read, which raises `AttributeError`
where one is missing, and checked, which raises a `WireError`; `math.isfinite` raises
`OverflowError` on an integer that no float can hold.
-/

namespace ValeraControlTower

open Unicode

variable {K : Type}

namespace Wire

/-! ## Steps -/

/-- A step of an encoder: where it raises something other than a `WireError`, and where
the next one is taken. -/
structure Step where
  trips : Prop
  passes : Prop

/-- The steps are taken in order, and one of them trips. -/
def Trips : List Step → Prop
  | [] => False
  | step :: steps => step.trips ∨ (step.passes ∧ Trips steps)

/-- All steps are taken. -/
def AllPass : List Step → Prop
  | [] => True
  | step :: steps => step.passes ∧ AllPass steps

/-- A call that takes the steps: it returns behind the last one and raises a `WireError`
where one is not passed. -/
inductive Takes {α : Type} (steps : List Step) : Except PyException α → Prop
  | returns {value : α} (passes : AllPass steps) (notTrips : ¬Trips steps) : Takes steps (.ok value)
  | refuses {message : String} (notPasses : ¬AllPass steps) (notTrips : ¬Trips steps) :
      Takes steps (.error (.wireError message))
  | trips {exception : PyException} (trips : Trips steps)
      (other : ∀ message, exception ≠ .wireError message) : Takes steps (.error exception)

theorem Takes.nil {α : Type} (value : α) : Takes [] (.ok value) := .returns trivial id

theorem allPass_append {steps later : List Step} :
    AllPass (steps ++ later) ↔ AllPass steps ∧ AllPass later := by
  induction steps with
  | nil => simp [AllPass]
  | cons step steps inductionHypothesis =>
      simp only [List.cons_append, AllPass, inductionHypothesis]
      exact and_assoc.symm

theorem trips_append {steps later : List Step} :
    Trips (steps ++ later) ↔ Trips steps ∨ (AllPass steps ∧ Trips later) := by
  induction steps with
  | nil => simp [AllPass, Trips]
  | cons step steps inductionHypothesis =>
      simp only [List.cons_append, AllPass, Trips, inductionHypothesis]
      tauto

/-- Steps that two calls take one after the other. -/
theorem Takes.append {α β : Type} {steps later : List Step} {outcome : Except PyException α}
    {next : α → Except PyException β} (first : Takes steps outcome)
    (goesOn : ∀ value, outcome = .ok value → Takes later (next value)) :
    Takes (steps ++ later) (outcome >>= next) := by
  cases first with
  | @returns value passes notTrips =>
      have later := goesOn value rfl
      change Takes _ (next value)
      generalize next value = outcome at later
      cases later with
      | returns passesLater notLater =>
          exact .returns (allPass_append.mpr ⟨passes, passesLater⟩)
            fun trips => notLater ((trips_append.mp trips).resolve_left notTrips).2
      | refuses notPasses notLater =>
          exact .refuses (fun passes => notPasses (allPass_append.mp passes).2)
            fun trips => notLater ((trips_append.mp trips).resolve_left notTrips).2
      | trips trips other => exact .trips (trips_append.mpr (.inr ⟨passes, trips⟩)) other
  | refuses notPasses notTrips =>
      refine .refuses (fun passes => notPasses (allPass_append.mp passes).1) fun trips => ?_
      rcases trips_append.mp trips with trips | ⟨passes, _⟩
      · exact notTrips trips
      · exact notPasses passes
  | trips trips other => exact .trips (trips_append.mpr (.inl trips)) other

theorem Takes.cons {α β : Type} {step : Step} {steps : List Step} {outcome : Except PyException α}
    {next : α → Except PyException β} (first : Takes [step] outcome)
    (goesOn : ∀ value, outcome = .ok value → Takes steps (next value)) :
    Takes (step :: steps) (outcome >>= next) :=
  first.append goesOn

theorem Takes.congr {α : Type} {steps others : List Step} {outcome : Except PyException α}
    (takes : Takes steps outcome) (samePass : AllPass steps ↔ AllPass others)
    (sameTrips : Trips steps ↔ Trips others) : Takes others outcome := by
  cases takes with
  | returns passes notTrips => exact .returns (samePass.mp passes) (mt sameTrips.mpr notTrips)
  | refuses notPasses notTrips =>
      exact .refuses (mt samePass.mpr notPasses) (mt sameTrips.mpr notTrips)
  | trips trips other => exact .trips (sameTrips.mp trips) other

/-- A check that raises nothing but a `WireError`. -/
def check (passes : Prop) : Step := ⟨False, passes⟩

theorem takes_ok {α : Type} {passes : Prop} (value : α) (holds : passes) :
    Takes [check passes] (.ok value) :=
  .returns ⟨holds, trivial⟩ (by simp [Trips, check])

theorem takes_error {α : Type} {passes : Prop} {steps : List Step} (message : String)
    (fails : ¬passes) :
    Takes (check passes :: steps) (.error (.wireError message) : Except PyException α) := by
  refine .refuses (fun passed => fails passed.1) ?_
  rintro (trips | ⟨passed, _⟩)
  · exact trips
  · exact fails passed

/-! ## Attributes -/

section Attributes

variable (dict : PyDict K)

/-- An attribute whose class has no default for it is read. -/
def reads (name : PyAttribute) : Step := ⟨dict.get? name = none, dict.get? name ≠ none⟩

/-- An attribute is there and is as it should be. -/
def Holds (name : PyAttribute) (fit : PyObject K → Prop) : Prop :=
  ∃ value, dict.get? name = some value ∧ fit value

variable {dict}

theorem takes_getattr (name : PyAttribute) : Takes [reads dict name] (dict.getattr name) := by
  unfold PyDict.getattr
  cases isThere : dict.get? name with
  | some value =>
      exact .returns (by simp [AllPass, reads, isThere]) (by simp [Trips, reads, isThere])
  | none => exact .trips (by simp [Trips, reads, isThere]) nofun

theorem holds_iff {name : PyAttribute} {value : PyObject K}
    (isThere : dict.getattr name = .ok value)
    (fit : PyObject K → Prop) : Holds dict name fit ↔ fit value := by
  have held := PyDict.getattr_eq_ok.mp isThere
  constructor
  · rintro ⟨found, same, fits⟩
    rw [held] at same
    cases same
    exact fits
  · exact fun fits => ⟨value, held, fits⟩

end Attributes

/-! ## Checks -/

/-- An integer between a least one and `MAX_INT64`. -/
def IsInt (minimum : ℤ) (value : PyObject K) : Prop :=
  ∃ number, value = .int number ∧ InRange minimum number

theorem takes_validateIntField (value : PyObject K) (name : String) (minimum : ℤ) :
    Takes [check (IsInt minimum value)] (validateIntField value name minimum) := by
  cases value with
  | int number =>
      unfold validateIntField
      dsimp only
      split
      · next small =>
          apply takes_error
          rintro ⟨_, ⟨⟩, inRange⟩
          exact absurd inRange.1 (not_le.mpr small)
      · next large =>
          split
          · next beyond =>
              apply takes_error
              rintro ⟨_, ⟨⟩, inRange⟩
              exact absurd inRange.2 (not_le.mpr beyond)
          · next below => exact takes_ok _ ⟨number, rfl, not_lt.mp large, not_lt.mp below⟩
  | none | bool _ | float _ | str _ | commandName _ | gatewayState _ | rejectionCode _
  | stopReason _ | eventName _ | instanceOf _ _ | other => exact takes_error _ nofun

theorem takes_requireEventSchemaVersion (value : PyObject K) :
    Takes [check (value = .str schemaVersion)] (requireEventSchemaVersion value) := by
  cases value with
  | str version =>
      unfold requireEventSchemaVersion
      dsimp only
      split
      · next same => exact takes_ok _ (congrArg PyObject.str same)
      · next different => exact takes_error _ fun same => different (PyObject.str.inj same)
  | none | bool _ | int _ | float _ | commandName _ | gatewayState _ | rejectionCode _
  | stopReason _ | eventName _ | instanceOf _ _ | other => exact takes_error _ nofun

theorem takes_requireEventType (value : PyObject K) (expected : EventName) (name : String) :
    Takes [check (value = .eventName expected)] (requireEventType value expected name) := by
  cases value with
  | eventName member =>
      unfold requireEventType
      dsimp only
      split
      · next same => exact takes_ok _ (congrArg PyObject.eventName same)
      · next different => exact takes_error _ fun same => different (PyObject.eventName.inj same)
  | none | bool _ | int _ | float _ | str _ | commandName _ | gatewayState _ | rejectionCode _
  | stopReason _ | instanceOf _ _ | other => exact takes_error _ nofun

theorem takes_validateNonEmptyNonWhitespace (value : PyObject K) (name : String) :
    Takes [check (VisibleText value)] (validateNonEmptyNonWhitespace value name) := by
  cases value with
  | str text =>
      unfold validateNonEmptyNonWhitespace
      dsimp only
      split
      · next blank =>
          apply takes_error
          rintro ⟨_, ⟨⟩, nonempty, visible⟩
          rcases blank with empty | space
          · exact nonempty empty
          · rw [visible] at space
            cases space
      · next shown =>
          rw [not_or, Bool.not_eq_true] at shown
          exact takes_ok _ ⟨text, rfl, shown⟩
  | none | bool _ | int _ | float _ | commandName _ | gatewayState _ | rejectionCode _
  | stopReason _ | eventName _ | instanceOf _ _ | other => exact takes_error _ nofun

/-- Two ids that pass the checks of their correlation. -/
def Correlates (required : Bool) (sessionId sequence : PyObject K) : Prop :=
  CorrelationIds sessionId sequence ∧ (required = true → present sessionId = true)

theorem takes_validateSessionId (value : PyObject K) :
    Takes [check (VisibleText value)] (validateSessionId value) := by
  cases value with
  | str text =>
      by_cases shown : text ≠ [] ∧ isspace text = false
      · rw [validateSessionId_str shown.1 shown.2]
        exact takes_ok _ ⟨text, rfl, shown⟩
      · have hidden : ¬VisibleText (.str text : PyObject K) := by
          rintro ⟨_, ⟨⟩, visible⟩
          exact shown visible
        unfold validateSessionId
        dsimp only
        split
        · split
          · exact takes_error _ hidden
          · next nonempty visible =>
              rw [not_or, Bool.not_eq_true] at visible
              exact absurd ⟨nonempty, visible.1⟩ shown
        · exact takes_error _ hidden
  | none | bool _ | int _ | float _ | commandName _ | gatewayState _ | rejectionCode _
  | stopReason _ | eventName _ | instanceOf _ _ | other => exact takes_error _ nofun

theorem takes_validateCorrelationSequence (value : PyObject K) :
    Takes [check (IsInt 1 value)] (validateCorrelationSequence value) := by
  cases value with
  | int number =>
      unfold validateCorrelationSequence
      dsimp only
      split
      · next outside =>
          apply takes_error
          rintro ⟨_, ⟨⟩, inRange⟩
          unfold InRange at inRange
          omega
      · next inside => exact takes_ok _ ⟨number, rfl, by unfold InRange; omega⟩
  | none | bool _ | float _ | str _ | commandName _ | gatewayState _ | rejectionCode _
  | stopReason _ | eventName _ | instanceOf _ _ | other => exact takes_error _ nofun

theorem takes_validateCorrelation (sessionId sequence : PyObject K) (required : Bool) :
    Takes [check (Correlates required sessionId sequence)]
      (validateCorrelation sessionId sequence required) := by
  unfold validateCorrelation
  split
  · next apart =>
      apply takes_error
      rintro ⟨ids, _⟩
      cases ids <;> exact apart rfl
  · next together =>
      rw [not_not] at together
      split
      · next absent =>
          cases present_eq_false absent
          cases present_eq_false (together.symm.trans absent)
          cases required with
          | true => exact takes_error _ fun correlates =>
              absurd (correlates.2 rfl) (by simp [present])
          | false => exact takes_ok _ ⟨.absent, nofun⟩
      · next isPresent =>
          rw [Bool.not_eq_false] at isPresent
          have both := (takes_validateSessionId sessionId).cons
            fun _ _ => takes_validateCorrelationSequence sequence
          refine both.congr ?_ (by simp [Trips, check])
          simp only [AllPass, check, and_true]
          constructor
          · rintro ⟨⟨text, rfl, nonempty, visible⟩, number, rfl, inRange⟩
            exact ⟨.present nonempty visible inRange, fun _ => rfl⟩
          · rintro ⟨ids, _⟩
            cases ids with
            | absent => cases isPresent
            | present nonempty visible inRange =>
                exact ⟨⟨_, rfl, nonempty, visible⟩, _, rfl, inRange⟩

theorem takes_requireNumber (value : PyObject K) (name : String) :
    Takes [check (value.isNumber = true)] (requireNumber value name) := by
  unfold requireNumber
  split
  · next isNumber => exact takes_ok _ isNumber
  · next notNumber => exact takes_error _ notNumber

/-- `math.isfinite` of a number. -/
def finite (M : FloatMath K) (value : PyObject K) : Step := ⟨TooLarge M value, FiniteAngle M value⟩

/-- The check of an angle that is known to be a number. -/
theorem takes_isfinite {α : Type} {M : FloatMath K} {value : PyObject K}
    (isNumber : value.isNumber = true) {steps : List Step} {next : Bool → Except PyException α}
    {message : String} (refuses : next false = .error (.wireError message))
    (goesOn : Takes steps (next true)) :
    Takes (finite M value :: steps) (value.isfinite M >>= next) := by
  cases value with
  | int number =>
      by_cases tooLarge : M.ofRat number = none
      · rw [isfinite_int, if_pos tooLarge]
        exact .trips (.inl tooLarge) nofun
      · obtain ⟨float, nearest⟩ := Option.ne_none_iff_exists'.mp tooLarge
        rw [isfinite_int, if_neg tooLarge]
        refine @Takes.cons Bool α _ _ (.ok true) _ (.returns ⟨.int nearest, trivial⟩ ?_) ?_
        · rintro (trips | later)
          · exact tooLarge trips
          · exact later.2
        · rintro _ ⟨⟩
          exact goesOn
  | float float =>
      cases float with
      | finite value =>
          refine @Takes.cons Bool α _ _ (.ok true) _ (.returns ⟨.float, trivial⟩ ?_) ?_
          · rintro (trips | later)
            · exact trips
            · exact later.2
          · rintro _ ⟨⟩
            exact goesOn
      | infinity _ | nan =>
          change Takes _ (next false)
          rw [refuses]
          refine .refuses (fun passes => nomatch passes.1) ?_
          rintro (trips | ⟨passes, _⟩)
          · exact trips
          · cases passes
  | none | bool _ | str _ | commandName _ | gatewayState _ | rejectionCode _ | stopReason _
  | eventName _ | instanceOf _ _ | other => cases isNumber

end Wire

end ValeraControlTower
