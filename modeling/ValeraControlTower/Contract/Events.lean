import ValeraControlTower.Contract.Commands

/-!
# The event documents of the contract

Both programs write the fields of an event in one order, so that an event has one
document.
-/

namespace ValeraControlTower

open Unicode Json

/-- The ids of the command an event answers. -/
structure WireCorrelation where
  sessionId : List Char
  sequence : ℤ

/-- What an event document says behind its time. -/
inductive WireEventBody where
  | gatewayState (state : List Char) (correlation : Option WireCorrelation)
  | neckTarget (correlation : WireCorrelation) (panDegrees tiltDegrees : Literal) (hold : Bool)
  | safetyStop (reason : List Char) (correlation : Option WireCorrelation)
      (neckAction baseAction armAction : List Char)
  | commandRejected (code message : List Char) (correlation : Option WireCorrelation)

/-- What an event document says. -/
structure WireEvent where
  gatewayMonotonicNs : ℤ
  body : WireEventBody

/-- The names of the contract. -/
def EventName.wire : EventName → String
  | gatewayState => "gateway.state"
  | neckTarget => "neck.target"
  | safetyStop => "safety.stop"
  | commandRejected => "command.rejected"

/-- The two members of a correlation; both are null without one. -/
def correlationMembers : Option WireCorrelation → List (String × WireTree)
  | none => [("session_id", .null), ("sequence", .null)]
  | some correlation =>
      [("session_id", .str correlation.sessionId), ("sequence", .num (.ofInt correlation.sequence))]

namespace WireEventBody

def eventType : WireEventBody → EventName
  | gatewayState _ _ => .gatewayState
  | neckTarget _ _ _ _ => .neckTarget
  | safetyStop _ _ _ _ _ => .safetyStop
  | commandRejected _ _ _ => .commandRejected

/-- The members behind the time. -/
def members : WireEventBody → List (String × WireTree)
  | gatewayState state correlation => ("state", .str state) :: correlationMembers correlation
  | neckTarget correlation panDegrees tiltDegrees hold =>
      correlationMembers (some correlation) ++ [("pan_degrees", .num panDegrees),
        ("tilt_degrees", .num tiltDegrees), ("hold", .bool hold)]
  | safetyStop reason correlation neckAction baseAction armAction =>
      ("reason", .str reason) :: (correlationMembers correlation ++
        [("neck_action", .str neckAction), ("base_action", .str baseAction),
          ("arm_action", .str armAction)])
  | commandRejected code message correlation =>
      ("code", .str code) :: ("message", .str message) :: correlationMembers correlation

end WireEventBody

namespace WireEvent

def members (event : WireEvent) : List (String × WireTree) :=
  ("schema_version", .str "0.1".toList) ::
    ("event_type", .str event.body.eventType.wire.toList) ::
    ("gateway_monotonic_ns", .num (.ofInt event.gatewayMonotonicNs)) :: event.body.members

/-- The document with its fields in the order of the contract. -/
def tree (event : WireEvent) : WireTree :=
  .obj (event.members.map fun member => (member.1.toList, member.2))

end WireEvent

/-- A member is found under the characters of its name. -/
theorem WireMembers.has_map {members : List (String × WireTree)} {name : String} {value : WireTree}
    (found : members.lookup name = some value) :
    WireMembers.Has (members.map fun member => (member.1.toList, member.2)) name value := by
  unfold WireMembers.Has
  induction members with
  | nil => cases found
  | cons member members inductionHypothesis =>
      have same : (name.toList == member.1.toList) = (name == member.1) := by
        rw [Bool.eq_iff_iff, beq_iff_eq, beq_iff_eq, String.toList_inj]
      rw [List.map_cons, List.lookup_cons, same]
      rw [List.lookup_cons] at found
      split at found
      · exact found
      · exact inductionHypothesis found

/-! ## Shapes -/

/-- The names of the members, whether there is a correlation or not. -/
def EventName.fields : EventName → List String
  | gatewayState =>
      ["schema_version", "event_type", "gateway_monotonic_ns", "state", "session_id", "sequence"]
  | neckTarget =>
      ["schema_version", "event_type", "gateway_monotonic_ns", "session_id", "sequence",
        "pan_degrees", "tilt_degrees", "hold"]
  | safetyStop =>
      ["schema_version", "event_type", "gateway_monotonic_ns", "reason", "session_id", "sequence",
        "neck_action", "base_action", "arm_action"]
  | commandRejected =>
      ["schema_version", "event_type", "gateway_monotonic_ns", "code", "message", "session_id",
        "sequence"]

/-- The two members of a correlation in a document. -/
def WireMembers.HasCorrelation (members : WireMembers) : Option WireCorrelation → Prop
  | none => members.Has "session_id" .null ∧ members.Has "sequence" .null
  | some correlation => members.Has "session_id" (.str correlation.sessionId) ∧
      members.Has "sequence" (.num (.ofInt correlation.sequence))

inductive IsEventBody (members : WireMembers) : WireEventBody → Prop where
  | gatewayState {state : List Char} {correlation : Option WireCorrelation}
      (fields : members.HasFields (EventName.fields .gatewayState) [])
      (isState : members.Has "state" (.str state))
      (isCorrelation : members.HasCorrelation correlation) :
      IsEventBody members (.gatewayState state correlation)
  | neckTarget {correlation : WireCorrelation} {panDegrees tiltDegrees : Literal} {hold : Bool}
      (fields : members.HasFields (EventName.fields .neckTarget) [])
      (isCorrelation : members.HasCorrelation (some correlation))
      (isPan : members.Has "pan_degrees" (.num panDegrees))
      (isTilt : members.Has "tilt_degrees" (.num tiltDegrees))
      (isHold : members.Has "hold" (.bool hold)) :
      IsEventBody members (.neckTarget correlation panDegrees tiltDegrees hold)
  | safetyStop {reason neckAction baseAction armAction : List Char}
      {correlation : Option WireCorrelation}
      (fields : members.HasFields (EventName.fields .safetyStop) [])
      (isReason : members.Has "reason" (.str reason))
      (isCorrelation : members.HasCorrelation correlation)
      (isNeck : members.Has "neck_action" (.str neckAction))
      (isBase : members.Has "base_action" (.str baseAction))
      (isArm : members.Has "arm_action" (.str armAction)) :
      IsEventBody members (.safetyStop reason correlation neckAction baseAction armAction)
  | commandRejected {code message : List Char} {correlation : Option WireCorrelation}
      (fields : members.HasFields (EventName.fields .commandRejected) [])
      (isCode : members.Has "code" (.str code)) (isMessage : members.Has "message" (.str message))
      (isCorrelation : members.HasCorrelation correlation) :
      IsEventBody members (.commandRejected code message correlation)

/-- The document of an event. -/
inductive IsEvent : WireTree → WireEvent → Prop where
  | obj {members : WireMembers} {event : WireEvent}
      (isVersion : members.Has "schema_version" (.str "0.1".toList))
      (isType : members.Has "event_type" (.str event.body.eventType.wire.toList))
      (isTime : members.Has "gateway_monotonic_ns" (.num (.ofInt event.gatewayMonotonicNs)))
      (isBody : IsEventBody members event.body) : IsEvent (.obj members) event

theorem WireMembers.hasFields_map {members : List (String × WireTree)} {fields : List String}
    (same : members.map Prod.fst = fields) :
    WireMembers.HasFields (members.map fun member => (member.1.toList, member.2)) fields [] := by
  have names : (members.map fun member => (member.1.toList, member.2)).map Prod.fst =
      fields.map String.toList := by
    rw [← same, List.map_map, List.map_map]
    rfl
  constructor
  · intro name membership
    rw [names]
    exact List.mem_map_of_mem membership
  · intro key membership
    rwa [List.append_nil, ← names]

theorem WireEvent.names_members (event : WireEvent) :
    event.members.map Prod.fst = event.body.eventType.fields := by
  obtain ⟨gatewayMonotonicNs, body⟩ := event
  cases body with
  | neckTarget _ _ _ _ => rfl
  | gatewayState _ correlation | safetyStop _ correlation _ _ _ | commandRejected _ _ correlation =>
      cases correlation <;> rfl

theorem WireEvent.isEvent_tree (event : WireEvent) : IsEvent event.tree event := by
  have fields := WireMembers.hasFields_map event.names_members
  refine .obj (WireMembers.has_map rfl) (WireMembers.has_map rfl) (WireMembers.has_map rfl) ?_
  obtain ⟨gatewayMonotonicNs, body⟩ := event
  cases body with
  | gatewayState state correlation =>
      refine .gatewayState fields (WireMembers.has_map rfl) ?_
      cases correlation <;> exact ⟨WireMembers.has_map rfl, WireMembers.has_map rfl⟩
  | neckTarget correlation panDegrees tiltDegrees hold =>
      exact .neckTarget fields ⟨WireMembers.has_map rfl, WireMembers.has_map rfl⟩
        (WireMembers.has_map rfl) (WireMembers.has_map rfl) (WireMembers.has_map rfl)
  | safetyStop reason correlation neckAction baseAction armAction =>
      refine .safetyStop fields (WireMembers.has_map rfl) ?_ ?_ ?_ ?_
      · cases correlation <;> exact ⟨WireMembers.has_map rfl, WireMembers.has_map rfl⟩
      · cases correlation <;> exact WireMembers.has_map rfl
      · cases correlation <;> exact WireMembers.has_map rfl
      · cases correlation <;> exact WireMembers.has_map rfl
  | commandRejected code message correlation =>
      refine .commandRejected fields (WireMembers.has_map rfl) (WireMembers.has_map rfl) ?_
      cases correlation <;> exact ⟨WireMembers.has_map rfl, WireMembers.has_map rfl⟩

theorem EventName.nodup_fields (name : EventName) : name.fields.Nodup := by
  cases name <;> decide

/-- The members of an event are no containers. -/
theorem WireEvent.scalar_members (event : WireEvent) :
    ∀ member ∈ event.members, member.2.depth = 1 ∧ member.2.DistinctKeys := by
  obtain ⟨gatewayMonotonicNs, body⟩ := event
  cases body with
  | neckTarget _ _ _ _ =>
      simp [members, WireEventBody.members, correlationMembers, Tree.depth, Tree.DistinctKeys]
  | gatewayState _ correlation | safetyStop _ correlation _ _ _ | commandRejected _ _ correlation =>
      cases correlation <;>
        simp [members, WireEventBody.members, correlationMembers, Tree.depth, Tree.DistinctKeys]

theorem WireEvent.distinctKeys_tree (event : WireEvent) : event.tree.DistinctKeys := by
  refine ⟨?_, Tree.distinctKeysMembers_of_forall fun member membership => ?_⟩
  · have names : (event.members.map fun member => (member.1.toList, member.2)).map Prod.fst =
        (event.members.map Prod.fst).map String.toList := by
      rw [List.map_map, List.map_map]
      rfl
    rw [names, event.names_members]
    exact event.body.eventType.nodup_fields.map fun _ _ same => String.toList_inj.mp same
  · obtain ⟨pair, isMember, rfl⟩ := List.mem_map.mp membership
    exact (event.scalar_members pair isMember).2

theorem WireEvent.depth_tree (event : WireEvent) : event.tree.depth ≤ 2 := by
  have below := @Tree.depthMembers_le _ _
    (event.members.map fun member => (member.1.toList, member.2)) 1 fun member membership => ?_
  · exact Nat.add_le_add_left below 1
  obtain ⟨pair, isMember, rfl⟩ := List.mem_map.mp membership
  exact (event.scalar_members pair isMember).1.le

end ValeraControlTower
