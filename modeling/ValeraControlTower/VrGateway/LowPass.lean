import ValeraControlTower.Library.Smoothing
import ValeraControlTower.VrGateway.NeckBounds
import ValeraControlTower.VrGateway.RealMath

/-!
# The low-pass filter of the neck controller

Over the real numbers `update` is exponential smoothing of the relative angles, with the
time since the last update.  An update that raises moves the time stamp alone.
-/

namespace ValeraControlTower

open Smoothing

/-- What `__post_init__` has checked of the time constant. -/
theorem ValidNeckControlConfig.filterTimeConstant_nonneg {K : Type} [Field K] [LinearOrder K]
    (config : ValidNeckControlConfig K) : 0 ≤ config.filterTimeConstantSeconds := by
  by_contra negative
  have constructed := config.constructed
  unfold NeckControlConfig.postInit at constructed
  rw [if_pos (not_le.mp negative)] at constructed
  repeat
    split at constructed
    · cases constructed
  cases constructed

namespace NeckController

section Definitions

variable {K : Type} [Field K] [LinearOrder K] {M : FloatMath K}

/-- The controller after updates with these orientations at these times. -/
def follow (controller : NeckController M) (updates : List (Quaternion M × ℤ)) :
    NeckController M :=
  updates.foldl (fun controller update => (controller.update update.1 update.2).1) controller

/-- The yaw and pitch of each update whose angles could be computed. -/
def observed (reference : Quaternion M) (updates : List (Quaternion M × ℤ)) : Set (K × K) :=
  {angles | ∃ update ∈ updates, relativeAnglesDegrees reference update.1 = .ok angles}

/-- The two controllers agree on all that the filter reads and writes. -/
structure SameFilter (first second : NeckController M) : Prop where
  config : first.config = second.config
  reference : first.reference = second.reference
  yaw : first.filteredYawDegrees = second.filteredYawDegrees
  pitch : first.filteredPitchDegrees = second.filteredPitchDegrees
  stamp : first.lastUpdateNs = second.lastUpdateNs

variable {controller first second : NeckController M} {orientation : Quaternion M} {nowNs : ℤ}

theorem follow_append (controller : NeckController M) (before after : List (Quaternion M × ℤ)) :
    controller.follow (before ++ after) = (controller.follow before).follow after :=
  List.foldl_append

theorem follow_cons (controller : NeckController M) (orientation : Quaternion M) (nowNs : ℤ)
    (updates : List (Quaternion M × ℤ)) : controller.follow ((orientation, nowNs) :: updates) =
      (controller.update orientation nowNs).1.follow updates := rfl

theorem update_filtered {yaw pitch : K}
    (angles : relativeAnglesDegrees controller.reference orientation = .ok (yaw, pitch)) :
    (controller.update orientation nowNs).1.filteredYawDegrees =
      controller.filteredYawDegrees + filterAlpha M (controller.dtSeconds nowNs)
        controller.config.filterTimeConstantSeconds * (yaw - controller.filteredYawDegrees) ∧
    (controller.update orientation nowNs).1.filteredPitchDegrees =
      controller.filteredPitchDegrees + filterAlpha M (controller.dtSeconds nowNs)
        controller.config.filterTimeConstantSeconds *
          (pitch - controller.filteredPitchDegrees) := by
  unfold update
  dsimp only
  rw [angles]
  exact ⟨rfl, rfl⟩

theorem SameFilter.dtSeconds (same : SameFilter first second) (nowNs : ℤ) :
    first.dtSeconds nowNs = second.dtSeconds nowNs := by
  unfold NeckController.dtSeconds
  rw [same.stamp]

/-- The target plays no part in the filter. -/
theorem SameFilter.update (same : SameFilter first second) (orientation : Quaternion M)
    (nowNs : ℤ) :
    SameFilter (first.update orientation nowNs).1 (second.update orientation nowNs).1 where
  config := by rw [update_config, update_config, same.config]
  reference := by rw [update_reference, update_reference, same.reference]
  stamp := by rw [update_lastUpdateNs, update_lastUpdateNs]
  yaw := by
    cases angles : relativeAnglesDegrees first.reference orientation with
    | error exception =>
        rw [update_unfiltered angles, update_unfiltered (same.reference ▸ angles)]
        exact same.yaw
    | ok pair =>
        rw [(update_filtered angles).1, (update_filtered (same.reference ▸ angles)).1,
          same.dtSeconds, same.config, same.yaw]
  pitch := by
    cases angles : relativeAnglesDegrees first.reference orientation with
    | error exception =>
        rw [update_unfiltered angles, update_unfiltered (same.reference ▸ angles)]
        exact same.pitch
    | ok pair =>
        rw [(update_filtered angles).2, (update_filtered (same.reference ▸ angles)).2,
          same.dtSeconds, same.config, same.pitch]

theorem SameFilter.follow (same : SameFilter first second)
    (updates : List (Quaternion M × ℤ)) :
    SameFilter (first.follow updates) (second.follow updates) := by
  induction updates generalizing first second with
  | nil => exact same
  | cons update updates inductionHypothesis =>
      apply inductionHypothesis
      exact same.update update.1 update.2

end Definitions

variable {ofRat : ℚ → Option ℝ} {repr : ℝ → List Char}
  {controller : NeckController (FloatMath.real ofRat repr)}
  {orientation : Quaternion (FloatMath.real ofRat repr)} {nowNs : ℤ}

/-- `update` smooths each angle. -/
theorem update_approach {yaw pitch : ℝ}
    (angles : relativeAnglesDegrees controller.reference orientation = .ok (yaw, pitch)) :
    let part := gain controller.config.filterTimeConstantSeconds (controller.dtSeconds nowNs)
    (controller.update orientation nowNs).1.filteredYawDegrees =
      approach part controller.filteredYawDegrees yaw ∧
    (controller.update orientation nowNs).1.filteredPitchDegrees =
      approach part controller.filteredPitchDegrees pitch :=
  update_filtered angles

/-! ## No overshoot -/

/-- A convex set that holds a filtered angle and each observed one. -/
theorem update_mem {yaws pitches : Set ℝ} (yawConvex : Convex ℝ yaws)
    (pitchConvex : Convex ℝ pitches) (yaw : controller.filteredYawDegrees ∈ yaws)
    (pitch : controller.filteredPitchDegrees ∈ pitches)
    (seen : ∀ angles, relativeAnglesDegrees controller.reference orientation = .ok angles →
      angles.1 ∈ yaws ∧ angles.2 ∈ pitches) :
    (controller.update orientation nowNs).1.filteredYawDegrees ∈ yaws ∧
      (controller.update orientation nowNs).1.filteredPitchDegrees ∈ pitches := by
  cases angles : relativeAnglesDegrees controller.reference orientation with
  | error exception =>
      rw [update_unfiltered angles]
      exact ⟨yaw, pitch⟩
  | ok pair =>
      obtain ⟨seenYaw, seenPitch⟩ := seen pair angles
      have forward : 0 ≤ controller.dtSeconds nowNs := le_max_left _ _
      have nonnegative := gain_nonneg controller.config.filterTimeConstant_nonneg forward
      have part := gain_le_one controller.config.filterTimeConstantSeconds
        (controller.dtSeconds nowNs)
      rw [(update_approach angles).1, (update_approach angles).2]
      constructor
      · exact approach_mem yawConvex yaw seenYaw nonnegative part
      · exact approach_mem pitchConvex pitch seenPitch nonnegative part

theorem follow_mem {yaws pitches : Set ℝ} (yawConvex : Convex ℝ yaws)
    (pitchConvex : Convex ℝ pitches) (updates : List (Quaternion (FloatMath.real ofRat repr) × ℤ))
    (yaw : controller.filteredYawDegrees ∈ yaws) (pitch : controller.filteredPitchDegrees ∈ pitches)
    (seen : ∀ angles ∈ observed controller.reference updates,
      angles.1 ∈ yaws ∧ angles.2 ∈ pitches) :
    (controller.follow updates).filteredYawDegrees ∈ yaws ∧
      (controller.follow updates).filteredPitchDegrees ∈ pitches := by
  induction updates generalizing controller with
  | nil => exact ⟨yaw, pitch⟩
  | cons update updates inductionHypothesis =>
      have first : ∀ angles, relativeAnglesDegrees controller.reference update.1 = .ok angles →
          angles.1 ∈ yaws ∧ angles.2 ∈ pitches :=
        fun angles computed => seen angles ⟨update, List.mem_cons_self, computed⟩
      obtain ⟨nextYaw, nextPitch⟩ := update_mem yawConvex pitchConvex yaw pitch first
      apply inductionHypothesis nextYaw nextPitch
      rw [update_reference]
      rintro angles ⟨later, membership, computed⟩
      exact seen angles ⟨later, List.mem_cons_of_mem _ membership, computed⟩

/-! ## One more update on the way -/

theorem dtSeconds_add {middleNs : ℤ} (after : controller.lastUpdateNs ≤ middleNs)
    (before : middleNs ≤ nowNs) :
    controller.dtSeconds middleNs + (controller.update orientation middleNs).1.dtSeconds nowNs =
      controller.dtSeconds nowNs := by
  have later : (controller.update orientation middleNs).1.lastUpdateNs ≤ nowNs := by
    rwa [update_lastUpdateNs]
  rw [dtSeconds_of_le after, dtSeconds_of_le later, dtSeconds_of_le (after.trans before),
    update_lastUpdateNs]
  push_cast
  ring

/-- Two updates with one orientation filter as the second alone. -/
theorem sameFilter_twice {middleNs : ℤ} (after : controller.lastUpdateNs ≤ middleNs)
    (before : middleNs ≤ nowNs) :
    SameFilter (controller.update orientation nowNs).1
      ((controller.update orientation middleNs).1.update orientation nowNs).1 := by
  have reference : (controller.update orientation middleNs).1.reference = controller.reference :=
    update_reference _ _ _
  have both : (controller.update orientation nowNs).1.filteredYawDegrees =
        ((controller.update orientation middleNs).1.update orientation nowNs).1.filteredYawDegrees ∧
      (controller.update orientation nowNs).1.filteredPitchDegrees =
        ((controller.update orientation middleNs).1.update
          orientation nowNs).1.filteredPitchDegrees := by
    cases angles : relativeAnglesDegrees controller.reference orientation with
    | error exception =>
        rw [update_unfiltered angles, update_unfiltered (reference.symm ▸ angles),
          update_unfiltered angles]
        exact ⟨rfl, rfl⟩
    | ok pair =>
        have once := @update_approach _ _ controller orientation nowNs _ _ angles
        have first := @update_approach _ _ controller orientation middleNs _ _ angles
        have second := @update_approach _ _ (controller.update orientation middleNs).1 orientation
          nowNs _ _ (reference.symm ▸ angles)
        dsimp only at once first second
        rw [once.1, once.2, second.1, second.2, first.1, first.2, update_config, approach_approach,
          approach_approach, dtSeconds_add after before]
        exact ⟨rfl, rfl⟩
  exact ⟨by simp, by simp, both.1, both.2, by simp⟩

/-- The times of the updates never go back, from `start` on. -/
def TimesMonotone {M : FloatMath ℝ} (start : ℤ) (updates : List (Quaternion M × ℤ)) : Prop :=
  (start :: updates.map Prod.snd).Pairwise (· ≤ ·)

/-- The last update is no later than one that follows it. -/
theorem follow_stamp {updates : List (Quaternion (FloatMath.real ofRat repr) × ℤ)} {bound : ℤ}
    (start : controller.lastUpdateNs ≤ bound) (times : ∀ update ∈ updates, update.2 ≤ bound) :
    (controller.follow updates).lastUpdateNs ≤ bound := by
  induction updates generalizing controller with
  | nil => exact start
  | cons update updates inductionHypothesis =>
      rw [follow_cons]
      apply inductionHypothesis
      · rw [update_lastUpdateNs]
        exact times update List.mem_cons_self
      · intro later membership
        exact times later (List.mem_cons_of_mem _ membership)

/-- The low-pass filter cannot overshoot and does not see the packet rate: after a recenter
the filtered angles lie in the convex hull of zero and what has been observed, and one more
update on the way to a pose, with that pose's orientation, changes the filtered angles
neither there nor later. -/
theorem filter_rateIndependent (controller : NeckController (FloatMath.real ofRat repr))
    (reference : Quaternion (FloatMath.real ofRat repr)) (startNs : ℤ) (preserveTarget : Bool) :
    (∀ updates, TimesMonotone startNs updates →
      ((controller.recenter reference startNs preserveTarget).follow updates).filteredYawDegrees ∈
        convexHull ℝ (insert 0 (Prod.fst '' observed reference updates)) ∧
      ((controller.recenter reference startNs preserveTarget).follow updates).filteredPitchDegrees ∈
        convexHull ℝ (insert 0 (Prod.snd '' observed reference updates))) ∧
    ∀ before orientation middleNs nowNs after,
      TimesMonotone startNs
        (before ++ (orientation, middleNs) :: (orientation, nowNs) :: after) →
      let plain := (controller.recenter reference startNs preserveTarget).follow
        (before ++ (orientation, nowNs) :: after)
      let inserted := (controller.recenter reference startNs preserveTarget).follow
        (before ++ (orientation, middleNs) :: (orientation, nowNs) :: after)
      inserted.filteredYawDegrees = plain.filteredYawDegrees ∧
        inserted.filteredPitchDegrees = plain.filteredPitchDegrees := by
  constructor
  · intro updates _
    have zero : (controller.recenter reference startNs preserveTarget).filteredYawDegrees = 0 ∧
        (controller.recenter reference startNs preserveTarget).filteredPitchDegrees = 0 := by
      unfold recenter
      split
      · exact ⟨rfl, rfl⟩
      · exact ⟨rfl, rfl⟩
    apply follow_mem (convex_convexHull ℝ _) (convex_convexHull ℝ _)
    · rw [zero.1]
      exact subset_convexHull ℝ _ (Set.mem_insert 0 _)
    · rw [zero.2]
      exact subset_convexHull ℝ _ (Set.mem_insert 0 _)
    · rw [recenter_reference]
      intro angles seen
      constructor
      · exact subset_convexHull ℝ _ (Set.mem_insert_of_mem 0 ⟨angles, seen, rfl⟩)
      · exact subset_convexHull ℝ _ (Set.mem_insert_of_mem 0 ⟨angles, seen, rfl⟩)
  · intro before orientation middleNs nowNs after times
    obtain ⟨sinceStart, ordered⟩ := List.pairwise_cons.mp times
    rw [List.map_append, List.pairwise_append] at ordered
    obtain ⟨_, onward, across⟩ := ordered
    have start : ((controller.recenter reference startNs preserveTarget).follow
        before).lastUpdateNs ≤ middleNs := by
      apply follow_stamp
      · rw [recenter_lastUpdateNs]
        exact sinceStart middleNs (by simp)
      · intro update membership
        exact across _ (List.mem_map_of_mem membership) middleNs List.mem_cons_self
    have close : middleNs ≤ nowNs := (List.pairwise_cons.mp onward).1 nowNs List.mem_cons_self
    have same := (@sameFilter_twice _ _ _ orientation _ _ start close).follow after
    dsimp only
    rw [follow_append, follow_append, follow_cons, follow_cons, follow_cons]
    exact ⟨same.yaw.symm, same.pitch.symm⟩

/-- The example configuration with a time constant of 100 ms. -/
noncomputable def smoothNeckConfig : ValidNeckControlConfig ℝ where
  toNeckControlConfig :=
    { VrGateway.realNeckConfig.toNeckControlConfig with filterTimeConstantSeconds := 1 / 10 }
  constructed := by norm_num [NeckControlConfig.postInit, VrGateway.realNeckConfig]

/-- A new controller, recentered at 0 and turned to the side at 2 s, with or without an update
at 1 s. -/
theorem filter_rateIndependent_turned :
    ∃ (controller : NeckController (FloatMath.real (fun _ => none) fun _ => []))
      (turned : Quaternion (FloatMath.real (fun _ => none) fun _ => [])),
      NeckController.new _ smoothNeckConfig = .ok controller ∧
      (turned.x = 0 ∧ turned.y = 3 / 5 ∧ turned.z = 0 ∧ turned.w = 4 / 5) ∧
      let recentered := controller.recenter controller.reference 0 false
      (recentered.follow [(turned, 1000000000), (turned, 2000000000)]).filteredYawDegrees =
        (recentered.follow [(turned, 2000000000)]).filteredYawDegrees := by
  obtain ⟨controller, made, _⟩ :=
    NeckController.new_ok (fun _ => none) (fun _ => []) smoothNeckConfig
  obtain ⟨turned, _, _, components⟩ :=
    @Quaternion.new_of_unit (fun _ => none) (fun _ => []) 0 (3 / 5) 0 (4 / 5) (by norm_num)
  have alike := (filter_rateIndependent controller controller.reference 0 false).2 [] turned
    1000000000 2000000000 [] (by simp [TimesMonotone])
  exact ⟨controller, turned, made, by simpa using components, alike.1⟩

end NeckController

end ValeraControlTower
