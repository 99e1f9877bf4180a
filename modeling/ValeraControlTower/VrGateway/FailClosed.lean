import ValeraControlTower.VrGateway.Adapter
import ValeraControlTower.VrGateway.RealMath
import ValeraControlTower.VrGateway.WireErrors

/-!
# Which raw strings the transport survives

In exact arithmetic nothing that `receive` hands over makes the gateway raise, and what
the gateway returns can always be encoded.  So `handle_command` raises exactly when
`decode_command` lets an exception other than `WireError` through.
-/

namespace ValeraControlTower

open Unicode Wire

namespace VrGatewayAdapter

/-! ## The gateway over the reals -/

section Reals

variable {ofRat : ℚ → Option ℝ} {repr : ℝ → List Char} {admits : PyStr → Prop}

theorem isUnit_of_normalizes {command : CommandEnvelope (FloatMath.real ofRat repr)}
    {orientation : Quaternion (FloatMath.real ofRat repr)}
    (normalizes : VrGateway.Normalizes command (.ok orientation)) : orientation.IsUnit := by
  obtain ⟨payload, _, normalized⟩ := normalizes
  obtain ⟨unit, same, isUnit⟩ := payload.orientation.normalized_isUnit
  rw [same] at normalized
  cases normalized
  exact isUnit

/-- The neck controller compares with a unit quaternion. -/
abbrev UnitReference (gateway : VrGateway (FloatMath.real ofRat repr)) : Prop :=
  gateway.neckController.reference.IsUnit

theorem unitReference_step {gateway : VrGateway (FloatMath.real ofRat repr)}
    (unit : UnitReference gateway) (stimulus : Stimulus ℝ) :
    UnitReference (gateway.step stimulus).1 := by
  obtain ⟨call, nowNs⟩ := stimulus
  have deadlineUnit : UnitReference (gateway.evaluateDeadline nowNs).1 := by
    unfold UnitReference
    rwa [VrGateway.evaluateDeadline_neckController]
  cases call with
  | poll => exact deadlineUnit
  | handle object =>
      simp only [VrGateway.step]
      generalize result : gateway.handle object nowNs = outcome
      have cases := gateway.handle_cases object nowNs
      rw [result] at cases
      cases cases with
      | raised | emergencyStop | sessionStart | modeSet | sessionStop | orientationRaised =>
          exact unit
      | malformed | rejected => exact deadlineUnit
      | headRecenter command orientation _ _ _ _ _ normalizes =>
          change (gateway.neckController.recenter orientation nowNs _).reference.IsUnit
          rw [NeckController.recenter_reference]
          exact isUnit_of_normalizes normalizes
      | headPose command orientation =>
          change (gateway.neckController.update orientation nowNs).1.reference.IsUnit
          rwa [NeckController.update_reference]
      | updateRaised command orientation =>
          change (gateway.neckController.update orientation nowNs).1.reference.IsUnit
          rwa [NeckController.update_reference]

/-- Behind the trust boundary nothing raises. -/
theorem handle_ok {gateway : VrGateway (FloatMath.real ofRat repr)} (unit : UnitReference gateway)
    {object : PyObject ℝ}
    (caught : ∀ exception,
      validateCommandEnvelope (FloatMath.real ofRat repr) object = .error exception →
        handleCatches exception = true) (nowNs : ℤ) :
    ∃ events, (gateway.handle object nowNs).2 = .ok events := by
  generalize result : gateway.handle object nowNs = outcome
  have cases := gateway.handle_cases object nowNs
  rw [result] at cases
  cases cases with
  | malformed | emergencyStop | rejected | sessionStart | modeSet | headRecenter | headPose
  | sessionStop => exact ⟨_, rfl⟩
  | raised exception invalid uncaught =>
      rw [caught exception invalid] at uncaught
      cases uncaught
  | orientationRaised command exception _ _ _ _ normalizes =>
      obtain ⟨payload, _, normalized⟩ := normalizes
      obtain ⟨unit, same, _⟩ := payload.orientation.normalized_isUnit
      rw [same] at normalized
      cases normalized
  | updateRaised command orientation exception _ _ _ _ updated normalizes =>
      obtain ⟨target, same⟩ :=
        NeckController.update_ok unit (isUnit_of_normalizes normalizes) nowNs
      rw [same] at updated
      cases updated

theorem handle_returns {gateway : VrGateway (FloatMath.real ofRat repr)}
    (unit : UnitReference gateway) {object : PyObject ℝ}
    (received : Received (FloatMath.real ofRat repr) admits object) (nowNs : ℤ) :
    UnitReference (gateway.handle object nowNs).1 ∧
      ∃ events, (gateway.handle object nowNs).2 = .ok events :=
  ⟨unitReference_step unit ⟨.handle object, nowNs⟩,
    handle_ok unit (fun _ invalid => received.caught invalid) nowNs⟩

/-- Here every session id is admitted. -/
theorem admits_all (M : FloatMath ℝ) (raw : PyStr) : Admits M (fun _ => True) raw :=
  fun _ _ => trivial

theorem admitted_all {M : FloatMath ℝ} {transcript : Transcript} :
    ∀ entry ∈ transcript, entry.input.Admitted M fun _ => True := by
  rintro ⟨⟨delivery, nowNs⟩, output⟩ _
  cases delivery with
  | command raw => exact admits_all M raw
  | poll => trivial

theorem unitReference_of_run {neckConfig : ValidNeckControlConfig ℝ}
    {controller : NeckController (FloatMath.real ofRat repr)}
    (made : NeckController.new (FloatMath.real ofRat repr) neckConfig = .ok controller)
    {config : GatewayConfig} {transcript : Transcript}
    {adapter : VrGatewayAdapter (FloatMath.real ofRat repr)}
    (run : IsRun controller config transcript adapter) : UnitReference adapter.gateway := by
  induction run with
  | nil =>
      obtain ⟨other, same, unit⟩ := NeckController.new_ok ofRat repr neckConfig
      rw [same] at made
      cases made
      exact unit
  | @snoc history adapter arrival _ inductionHypothesis =>
      obtain ⟨delivery, nowNs⟩ := arrival
      cases delivery with
      | poll =>
          change (adapter.gateway.evaluateDeadline nowNs).1.neckController.reference.IsUnit
          rwa [VrGateway.evaluateDeadline_neckController]
      | command raw =>
          simp only [step, handleCommand, handleCommandVia]
          cases received : receive (FloatMath.real ofRat repr) raw with
          | error exception => exact inductionHypothesis
          | ok object =>
              exact (handle_returns inductionHypothesis
                (receive_received (admits_all _ raw) received) nowNs).1

/-- What the transport promises about one raw string: it is decoded or refused by a
`WireError`, the gateway is handed the command or the sentinel exactly once, and
`handle_command` returns in every state that a run of the adapter reaches. -/
structure Transports (M : FloatMath ℝ) (raw : PyStr) : Prop where
  decodes : FailsClosed (decodeCommand M raw)
  hands : (∃ command, decodeCommand M raw = .ok command ∧ handed M raw = [command.toObject]) ∨
    (∃ message, decodeCommand M raw = .error (.wireError message) ∧ handed M raw = [.other])
  returns : ∀ (neckConfig : ValidNeckControlConfig ℝ) (controller : NeckController M)
    (config : GatewayConfig) (transcript : Transcript) (adapter : VrGatewayAdapter M) (nowNs : ℤ),
    NeckController.new M neckConfig = .ok controller →
    IsRun controller config transcript adapter → InRange 0 nowNs →
    ∃ texts, (adapter.handleCommand raw nowNs).2 = .ok texts

theorem handed_of_received {M : FloatMath ℝ} {raw : PyStr} {object : PyObject ℝ}
    (received : receive M raw = .ok object) : handed M raw = [object] := by
  unfold handed handleCommandVia
  rw [received]
  rfl

/-- What is received is handled and published. -/
theorem handleCommand_returns {neckConfig : ValidNeckControlConfig ℝ}
    {controller : NeckController (FloatMath.real ofRat repr)}
    (made : NeckController.new (FloatMath.real ofRat repr) neckConfig = .ok controller)
    {config : GatewayConfig} {transcript : Transcript}
    {adapter : VrGatewayAdapter (FloatMath.real ofRat repr)}
    (run : IsRun controller config transcript adapter) {raw : PyStr} {object : PyObject ℝ}
    (received : receive (FloatMath.real ofRat repr) raw = .ok object) {nowNs : ℤ}
    (clock : InRange 0 nowNs) :
    ∃ texts, (adapter.handleCommand raw nowNs).2 = .ok texts := by
  have isReceived := receive_received (admits_all _ raw) received
  obtain ⟨_, events, returned⟩ := handle_returns (unitReference_of_run made run) isReceived nowNs
  have encodable := (handle_fit (fit_of_run run admitted_all) isReceived nowNs).2 events returned
  unfold handleCommand handleCommandVia
  rw [received]
  change ∃ texts, publish _ (adapter.gateway.handle object nowNs).2 = .ok texts
  rw [returned]
  exact ⟨_, encodeEvents_ok clock encodable⟩

/-- The transport keeps its promise exactly for the strings that do not bring the decoder
to an integer literal of more than 4300 digits, nor to a component no float can hold. -/
theorem transports_iff (ofRat : ℚ → Option ℝ) (repr : ℝ → List Char) (raw : PyStr) :
    Transports (FloatMath.real ofRat repr) raw ↔
      ¬LeaksValueError raw ∧ ¬LeaksOverflowError (FloatMath.real ofRat repr) raw := by
  rw [← decodeCommand_failsClosed_iff]
  constructor
  · exact Transports.decodes
  · intro closed
    rcases closed with ⟨command, decoded⟩ | ⟨message, refused⟩
    · have received : receive (FloatMath.real ofRat repr) raw = .ok command.toObject := by
        unfold receive
        rw [decoded]
      exact ⟨.inl ⟨command, decoded⟩, .inl ⟨command, decoded, handed_of_received received⟩,
        fun _ _ _ _ _ _ made run clock => handleCommand_returns made run received clock⟩
    · have received : receive (FloatMath.real ofRat repr) raw = .ok .other := by
        unfold receive
        rw [refused]
      exact ⟨.inr ⟨message, refused⟩, .inr ⟨message, refused, handed_of_received received⟩,
        fun _ _ _ _ _ _ made run clock => handleCommand_returns made run received clock⟩

end Reals

/-- The literal that consists of so many ones. -/
def repunit (count : ℕ) : Numeral := ⟨false, List.replicate count 1, none, none⟩

theorem repunit_text (count : ℕ) : (repunit count).text = List.replicate count '1' := by
  simp only [repunit, Numeral.text, Numeral.integerText, Numeral.fractionText,
    Numeral.exponentText, Bool.false_eq_true, if_false, List.nil_append, List.append_nil,
    List.map_replicate]
  rfl

theorem repunit_wellFormed {count : ℕ} (positive : 0 < count) : (repunit count).WellFormed where
  integer := by
    intro empty
    have length := congrArg List.length empty
    simp only [repunit, List.length_replicate, List.length_nil] at length
    omega
  noLeadingZero := by
    intro zero
    have one := List.eq_of_mem_replicate (List.mem_of_head? zero)
    exact absurd one (by decide)
  fraction := by rintro _ ⟨⟩
  exponent := by rintro _ _ _ ⟨⟩

theorem checkSize_repunit {count : ℕ} (fits : count ≤ 65536) :
    checkSize (ofChars (repunit count).text) = .ok () := by
  have ascii : (CodePoint.ofChar '1').isSurrogate = false := by decide
  have single : (CodePoint.ofChar '1').utf8Length = 1 := by decide
  rw [repunit_text]
  unfold checkSize utf8Length ofChars
  simp only [List.map_replicate, List.length_replicate, List.any_replicate, ascii, single,
    List.sum_replicate, ite_self, Bool.false_eq_true, if_false, smul_eq_mul, mul_one]
  have fewCharacters : ¬count > maxInputCharacters := not_lt.mpr fits
  have fewBytes : ¬count > maxInputUtf8Bytes := not_lt.mpr fits
  rw [if_neg fewCharacters, if_neg fewBytes]

/-- An integer literal of more than 4300 digits on its own. -/
theorem leaksValueError_repunit {count : ℕ} (long : 4300 < count) (fits : count ≤ 65536) :
    LeaksValueError (ofChars (repunit count).text) := by
  have wellFormed := @repunit_wellFormed count (by omega)
  have closed : Numeral.Closed ([] : PyStr) := by rintro _ ⟨⟩
  have read := Numeral.scan_ofChars wellFormed closed
  rw [List.append_nil] at read
  have overlong : Overlong (repunit count) := by
    refine ⟨rfl, ?_⟩
    change intMaxStrDigits < (List.replicate count (1 : Digit)).length
    rw [List.length_replicate]
    exact long
  refine ⟨checkSize_repunit fits, _, rfl, ?_, [], _, rfl, Json.Blank.nil,
    @ReachesOverlong.literal _ [] _ read overlong⟩
  exact checkNestingDepth_of_passes (Passes.neutral (neutral_numeral _))

/-- Not every string is decoded or refused: `int` raises `ValueError` on 4301 digits. -/
theorem not_always_transports :
    ¬∀ raw, Transports (FloatMath.real (fun value => some value) fun _ => []) raw := by
  intro always
  have leaks : LeaksValueError (ofChars (repunit 4301).text) :=
    leaksValueError_repunit (by decide) (by decide)
  exact (decodeCommand_failsClosed_iff _ _).mp (always (ofChars (repunit 4301).text)).decodes
    |>.1 leaks

end VrGatewayAdapter

end ValeraControlTower
