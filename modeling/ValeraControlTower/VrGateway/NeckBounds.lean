import ValeraControlTower.VrGateway.Neck

/-!
# The output of one neck controller

The mechanical limits hold after every update, and between two updates the target
moves at most as fast as the configuration allows: the rate limit is applied before
the clamp, and clamping towards limits that hold already cannot widen a step.
-/

namespace ValeraControlTower

variable {K : Type} [Field K] [LinearOrder K] [IsStrictOrderedRing K] {M : FloatMath K}

/-! ## Clamping -/

omit [Field K] [IsStrictOrderedRing K] in
theorem clamp_mem {value minimum maximum : K} (ordered : minimum ≤ maximum) :
    minimum ≤ clamp value minimum maximum ∧ clamp value minimum maximum ≤ maximum :=
  ⟨le_min ordered (le_max_left _ _), min_le_left _ _⟩

omit [Field K] [IsStrictOrderedRing K] in
theorem clamp_of_mem {value minimum maximum : K} (above : minimum ≤ value)
    (below : value ≤ maximum) : clamp value minimum maximum = value := by
  rw [clamp, max_eq_right above, min_eq_right below]

/-- Clamping brings no two values further apart. -/
theorem abs_clamp_sub_clamp_le (first second minimum maximum : K) :
    |clamp first minimum maximum - clamp second minimum maximum| ≤ |first - second| := by
  unfold clamp
  calc |min maximum (max minimum first) - min maximum (max minimum second)|
      ≤ max |maximum - maximum| |max minimum first - max minimum second| :=
        abs_min_sub_min_le_max _ _ _ _
    _ = |max minimum first - max minimum second| := by
        rw [sub_self, abs_zero, max_eq_right (abs_nonneg _)]
    _ ≤ max |minimum - minimum| |first - second| := abs_max_sub_max_le_max _ _ _ _
    _ = |first - second| := by
        rw [sub_self, abs_zero, max_eq_right (abs_nonneg _)]

theorem abs_rateLimit_sub_le {requested previous maximumDelta : K}
    (nonnegative : 0 ≤ maximumDelta) :
    |rateLimit requested previous maximumDelta - previous| ≤ maximumDelta := by
  have ordered : previous - maximumDelta ≤ previous + maximumDelta := by linarith
  have bounds : previous - maximumDelta ≤ rateLimit requested previous maximumDelta ∧
      rateLimit requested previous maximumDelta ≤ previous + maximumDelta := clamp_mem ordered
  rw [abs_le]
  constructor
  · linarith [bounds.1]
  · linarith [bounds.2]

/-- One pipeline step from a value within the limits. -/
theorem abs_clamp_rateLimit_sub_le {requested previous maximumDelta minimum maximum : K}
    (nonnegative : 0 ≤ maximumDelta) (above : minimum ≤ previous) (below : previous ≤ maximum) :
    |clamp (rateLimit requested previous maximumDelta) minimum maximum - previous| ≤
      maximumDelta := by
  have still := abs_clamp_sub_clamp_le (rateLimit requested previous maximumDelta) previous
    minimum maximum
  rw [clamp_of_mem above below] at still
  exact still.trans (abs_rateLimit_sub_le nonnegative)

/-! ## Bounded motion between clock readings -/

/-- From `value` at one reading to `next` at another at no more than `rate` per second. -/
def Within (rate : K) (earlier : ℤ) (value : K) (later : ℤ) (next : K) : Prop :=
  |next - value| ≤ rate * (((later - earlier : ℤ) : K) / 10 ^ 9)

namespace Within

variable {rate value next : K} {earlier later : ℤ}

theorem still (positive : 0 < rate) (ordered : earlier ≤ later) (value : K) :
    Within rate earlier value later value := by
  have elapsed : (0 : K) ≤ ((later - earlier : ℤ) : K) :=
    Int.cast_nonneg (sub_nonneg.mpr ordered)
  unfold Within
  rw [sub_self, abs_zero]
  positivity

theorem trans {middle : ℤ} {between : K} (first : Within rate earlier value middle between)
    (second : Within rate middle between later next) :
    Within rate earlier value later next := by
  unfold Within at *
  calc |next - value| ≤ |next - between| + |between - value| := abs_sub_le _ _ _
    _ ≤ rate * (((later - middle : ℤ) : K) / 10 ^ 9) +
        rate * (((middle - earlier : ℤ) : K) / 10 ^ 9) := add_le_add second first
    _ = rate * (((later - earlier : ℤ) : K) / 10 ^ 9) := by
        push_cast
        ring

omit [IsStrictOrderedRing K] in
theorem symm (within : Within rate earlier value later next) (same : earlier = later) :
    Within rate later next earlier value := by
  subst same
  unfold Within at *
  rwa [abs_sub_comm]

end Within

/-- The mechanical limits. -/
structure InLimits (config : NeckControlConfig K) (target : NeckTarget K) : Prop where
  minPan : config.minPanDegrees ≤ target.panDegrees
  maxPan : target.panDegrees ≤ config.maxPanDegrees
  minTilt : config.minTiltDegrees ≤ target.tiltDegrees
  maxTilt : target.tiltDegrees ≤ config.maxTiltDegrees

/-- Both axes moved no faster than configured. -/
structure Reaches (config : NeckControlConfig K) (earlier : ℤ) (origin : NeckTarget K)
    (later : ℤ) (target : NeckTarget K) : Prop where
  pan : Within config.maxPanRateDegreesPerSecond earlier origin.panDegrees
    later target.panDegrees
  tilt : Within config.maxTiltRateDegreesPerSecond earlier origin.tiltDegrees
    later target.tiltDegrees

namespace ValidNeckControlConfig

omit [IsStrictOrderedRing K] in
/-- What `__post_init__` has checked. -/
theorem facts (config : ValidNeckControlConfig K) :
    InLimits config.toNeckControlConfig ⟨config.initialPanDegrees, config.initialTiltDegrees⟩ ∧
    0 < config.maxPanRateDegreesPerSecond ∧ 0 < config.maxTiltRateDegreesPerSecond := by
  have constructed := config.constructed
  unfold NeckControlConfig.postInit at constructed
  split at constructed
  · cases constructed
  · split at constructed
    · cases constructed
    · split at constructed
      · cases constructed
      · next pan =>
          split at constructed
          · cases constructed
          · next tilt =>
              split at constructed
              · cases constructed
              · split at constructed
                · cases constructed
                · next panRate =>
                    split at constructed
                    · cases constructed
                    · next tiltRate =>
                        obtain ⟨minPan, maxPan⟩ := not_not.mp pan
                        obtain ⟨minTilt, maxTilt⟩ := not_not.mp tilt
                        exact ⟨⟨minPan, maxPan, minTilt, maxTilt⟩, not_le.mp panRate,
                          not_le.mp tiltRate⟩

end ValidNeckControlConfig

namespace Reaches

variable {config : ValidNeckControlConfig K} {origin target : NeckTarget K}
  {earlier middle later : ℤ}

theorem still (ordered : earlier ≤ later) (target : NeckTarget K) :
    Reaches config.toNeckControlConfig earlier target later target where
  pan := .still config.facts.2.1 ordered _
  tilt := .still config.facts.2.2 ordered _

theorem trans {between : NeckTarget K}
    (first : Reaches config.toNeckControlConfig earlier origin middle between)
    (second : Reaches config.toNeckControlConfig middle between later target) :
    Reaches config.toNeckControlConfig earlier origin later target where
  pan := first.pan.trans second.pan
  tilt := first.tilt.trans second.tilt

omit [IsStrictOrderedRing K] in
theorem symm (reaches : Reaches config.toNeckControlConfig earlier origin later target)
    (same : earlier = later) :
    Reaches config.toNeckControlConfig later target earlier origin where
  pan := reaches.pan.symm same
  tilt := reaches.tilt.symm same

end Reaches

namespace NeckController

variable {controller : NeckController M} {nowNs : ℤ}

theorem dtSeconds_of_le (ordered : controller.lastUpdateNs ≤ nowNs) :
    controller.dtSeconds nowNs = ((nowNs - controller.lastUpdateNs : ℤ) : K) / 10 ^ 9 := by
  have elapsed : (0 : K) ≤ ((nowNs - controller.lastUpdateNs : ℤ) : K) :=
    Int.cast_nonneg (sub_nonneg.mpr ordered)
  exact max_eq_right (by positivity)

omit [IsStrictOrderedRing K] in
theorem advance_inLimits (config : ValidNeckControlConfig K)
    (same : controller.config = config) (dtSeconds yawDegrees pitchDegrees : K) :
    InLimits config.toNeckControlConfig
      (controller.advance dtSeconds yawDegrees pitchDegrees).lastTarget := by
  subst same
  obtain ⟨initial, _⟩ := controller.config.facts
  obtain ⟨minPan, maxPan⟩ := clamp_mem (initial.minPan.trans initial.maxPan)
  obtain ⟨minTilt, maxTilt⟩ := clamp_mem (initial.minTilt.trans initial.maxTilt)
  exact ⟨minPan, maxPan, minTilt, maxTilt⟩

/-- What `update` does to the target, whether it returns or raises. -/
theorem update_reaches (orientation : Quaternion M)
    (limits : InLimits controller.config.toNeckControlConfig controller.lastTarget)
    (ordered : controller.lastUpdateNs ≤ nowNs) :
    InLimits controller.config.toNeckControlConfig
      (controller.update orientation nowNs).1.lastTarget ∧
    Reaches controller.config.toNeckControlConfig controller.lastUpdateNs
      controller.lastTarget nowNs (controller.update orientation nowNs).1.lastTarget := by
  unfold update
  dsimp only
  cases relativeAnglesDegrees controller.reference orientation with
  | error exception => exact ⟨limits, .still ordered _⟩
  | ok angles =>
      refine ⟨advance_inLimits _ rfl _ _ _, ?_⟩
      obtain ⟨_, panRate, tiltRate⟩ := controller.config.facts
      have elapsed : (0 : K) ≤ controller.dtSeconds nowNs := le_max_left _ _
      refine ⟨?_, ?_⟩
      · unfold Within
        rw [← dtSeconds_of_le ordered]
        exact abs_clamp_rateLimit_sub_le (mul_nonneg panRate.le elapsed)
          limits.minPan limits.maxPan
      · unfold Within
        rw [← dtSeconds_of_le ordered]
        exact abs_clamp_rateLimit_sub_le (mul_nonneg tiltRate.le elapsed)
          limits.minTilt limits.maxTilt

end NeckController

end ValeraControlTower
