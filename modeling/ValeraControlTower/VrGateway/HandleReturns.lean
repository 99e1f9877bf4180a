import ValeraControlTower.VrGateway.FailClosed
import ValeraControlTower.VrGateway.TrustBoundary

/-!
# Which objects `handle` survives

In exact arithmetic the methods behind the trust boundary raise nothing, so `handle`
raises exactly when validation raises what it does not catch.
-/

namespace ValeraControlTower

open VrGatewayAdapter

namespace VrGateway

variable {ofRat : ℚ → Option ℝ} {repr : ℝ → List Char}

theorem unitReference_of_history {neckConfig : ValidNeckControlConfig ℝ}
    {controller : NeckController (FloatMath.real ofRat repr)}
    (made : NeckController.new (FloatMath.real ofRat repr) neckConfig = .ok controller)
    {config : GatewayConfig} {history : History ℝ} {gateway : VrGateway (FloatMath.real ofRat repr)}
    (run : Machine.Run step (new controller config) history gateway) : UnitReference gateway := by
  induction run with
  | nil =>
      obtain ⟨other, same, unit⟩ := NeckController.new_ok ofRat repr neckConfig
      rw [same] at made
      cases made
      exact unit
  | snoc input _ inductionHypothesis => exact unitReference_step inductionHypothesis input

/-- `handle` returns, and answers an object that is no valid envelope with the events of
the elapsed deadlines and one rejection. -/
structure HandledSafely {K : Type} [Field K] [LinearOrder K] {M : FloatMath K}
    (gateway : VrGateway M) (object : PyObject K) (nowNs : ℤ) : Prop where
  returns : ∃ events, (gateway.handle object nowNs).2 = .ok events
  refuses : (∀ command, validateCommandEnvelope M object ≠ .ok command) →
    gateway.handle object nowNs = ((gateway.evaluateDeadline nowNs).1,
      .ok ((gateway.evaluateDeadline nowNs).2 ++ [rejectUntrusted object .invalidPayload nowNs]))

theorem HandledSafely.caught {K : Type} [Field K] [LinearOrder K] {M : FloatMath K}
    {gateway : VrGateway M} {object : PyObject K} {nowNs : ℤ}
    (safely : gateway.HandledSafely object nowNs) : Caught (validateCommandEnvelope M object) := by
  intro exception invalid
  by_contra uncaught
  obtain ⟨events, returned⟩ := safely.returns
  unfold handle at returned
  simp [invalid, uncaught] at returned

/-- In every state a run reaches, `handle` survives exactly the objects that do not bring
validation to an integer component no float can hold. -/
theorem handledSafely_iff {neckConfig : ValidNeckControlConfig ℝ}
    {controller : NeckController (FloatMath.real ofRat repr)}
    (made : NeckController.new (FloatMath.real ofRat repr) neckConfig = .ok controller)
    (config : GatewayConfig) (history : History ℝ) (gateway : VrGateway (FloatMath.real ofRat repr))
    (run : Machine.Run step (new controller config) history gateway)
    (object : PyObject ℝ) (nowNs : ℤ) :
    gateway.HandledSafely object nowNs ↔ ¬Overflows (FloatMath.real ofRat repr) object := by
  rw [← validateCommandEnvelope_caught_iff]
  constructor
  · exact HandledSafely.caught
  · intro caught
    refine ⟨handle_ok (unitReference_of_history made run) caught nowNs, fun refused => ?_⟩
    unfold handle
    cases validated : validateCommandEnvelope (FloatMath.real ofRat repr) object with
    | ok command => exact absurd validated (refused command)
    | error exception => simp [caught exception validated]

end VrGateway

/-! ## A head that is too large -/

/-- Exact values, none where the nearest float would be infinite. -/
noncomputable def nearestReal (value : ℚ) : Option ℝ :=
  if |value| < 2 ^ 1024 - 2 ^ 970 then some value else none

/-- Real arithmetic in which an `int` can be too large for a float. -/
noncomputable abbrev FloatMath.bounded : FloatMath ℝ := .real nearestReal fun _ => []

/-- An `int` above every float. -/
@[irreducible]
def oversizedInt : ℤ := 10 ^ 400

theorem nearestReal_oversizedInt : nearestReal oversizedInt = none := by
  have large : (2 : ℤ) ^ 1024 - 2 ^ 970 ≤ oversizedInt := by decide +kernel
  apply if_neg
  rw [not_lt]
  calc (2 ^ 1024 - 2 ^ 970 : ℚ) ≤ (oversizedInt : ℚ) := by exact_mod_cast large
    _ ≤ |(oversizedInt : ℚ)| := le_abs_self _

/-- An orientation with an `int` written over its first component. -/
def oversizedOrientation : PyDict ℝ :=
  [(.x, .int oversizedInt), (.y, .int 0), (.z, .int 0), (.w, .int 1)]

/-- A `head.recenter` with that orientation. -/
def oversizedRecenter : PyObject ℝ :=
  .instanceOf .commandEnvelope [(.schemaVersion, .str schemaVersion),
    (.command, .commandName .headRecenter), (.sessionId, .str (py "s")), (.sequence, .int 1),
    (.timestampMs, .int 0),
    (.payload, .instanceOf .posePayload [(.frame, .str questLocalFrame),
      (.orientation, .instanceOf .quaternion oversizedOrientation), (.position, .none)])]

theorem oversizedRecenter_overflows : Overflows FloatMath.bounded oversizedRecenter := by
  refine ⟨_, _, rfl, ⟨rfl, ⟨_, rfl⟩, ⟨_, rfl, by decide⟩, ⟨1, rfl, le_rfl⟩, ⟨0, rfl, le_rfl⟩⟩, rfl,
    .orientation rfl rfl ⟨.int oversizedInt, _, _, _, rfl, rfl, rfl, rfl,
      .inl nearestReal_oversizedInt⟩⟩

namespace VrGateway

open AnySession in
/-- An active session, and an envelope one component of which has been written over. -/
theorem handledSafely_iff_oversized : ∃ (controller : NeckController FloatMath.bounded)
    (ahead : Quaternion FloatMath.bounded),
    NeckController.new FloatMath.bounded realNeckConfig = .ok controller ∧
    (opened controller ahead).2.state = .headActive ∧
    ((opened controller ahead).2.HandledSafely oversizedRecenter 100000000 ↔
      ¬Overflows FloatMath.bounded oversizedRecenter) := by
  obtain ⟨controller, made, _⟩ := NeckController.new_ok nearestReal (fun _ => []) realNeckConfig
  obtain ⟨ahead, isNew, _⟩ :=
    @Quaternion.new_of_unit nearestReal (fun _ => []) 0 0 0 1 (by norm_num)
  obtain ⟨normalized, isNormalized, _⟩ := ahead.normalized_isUnit
  refine ⟨controller, ahead, made, ?_, handledSafely_iff made {} _ _ (opened_run controller ahead)
    oversizedRecenter 100000000⟩
  rw [opened_eq controller isNormalized]
  rfl

/-- `handle` does not survive every object: a `head.recenter` with the `int` `10 ^ 400` as a
component makes it raise, in a gateway that has just been made. -/
theorem not_always_handledSafely :
    ¬∀ (neckConfig : ValidNeckControlConfig ℝ) (controller : NeckController FloatMath.bounded)
      (config : GatewayConfig) (gateway : VrGateway FloatMath.bounded) (object : PyObject ℝ)
      (nowNs : ℤ), NeckController.new FloatMath.bounded neckConfig = .ok controller →
      Machine.Reachable step (new controller config) gateway →
      gateway.HandledSafely object nowNs := by
  intro always
  obtain ⟨controller, made, _⟩ := NeckController.new_ok nearestReal (fun _ => []) realNeckConfig
  have safely := always realNeckConfig controller {} _ oversizedRecenter 0 made ⟨[], .nil⟩
  exact (validateCommandEnvelope_caught_iff _).mp safely.caught oversizedRecenter_overflows

end VrGateway

end ValeraControlTower
