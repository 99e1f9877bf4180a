import ValeraControlTower.VrGateway.TransportRuns

/-!
# `robot/vr_gateway_ros/handlers.py`

The bridge between the topics and the adapter.  Whatever arrives in whatever order, the
event topic is what the gateway returned, event by event, as far as the publisher took it;
a text on which the decoder raises something else than a `WireError` never gets there.
-/

namespace ValeraControlTower

open Wire VrGatewayAdapter

variable {K : Type} [Field K] [LinearOrder K] {M : FloatMath K}

/-- `Publish`: what a call leaves of the topic, and whether it raises. -/
abbrev Publish (Topic : Type) := Topic → List Char → Topic × Except PyException Unit

/-- The bridge, with what lies behind its callable. -/
structure VrGatewayBridge (M : FloatMath K) (Topic : Type) where
  adapter : VrGatewayAdapter M
  topic : Topic

namespace VrGatewayBridge

variable {Topic : Type}

/-- `for event_json in texts: self._publish(event_json)`. -/
def publishEach (publish : Publish Topic) :
    List (List Char) → Topic → Topic × Except PyException Unit
  | [], topic => (topic, .ok ())
  | text :: texts, topic =>
      match publish topic text with
      | (topic, .ok ()) => publishEach publish texts topic
      | (topic, .error exception) => (topic, .error exception)

/-- The loop over what the adapter returns; all of it is there before the first is published. -/
def publishReturned (publish : Publish Topic) (topic : Topic)
    (returned : VrGatewayAdapter M × Published) :
    VrGatewayBridge M Topic × Except PyException Unit :=
  match returned with
  | (adapter, .error exception) => (⟨adapter, topic⟩, .error exception)
  | (adapter, .ok texts) =>
      let (topic, outcome) := publishEach publish texts topic
      (⟨adapter, topic⟩, outcome)

/-- `handle_command`. -/
def handleCommand (publish : Publish Topic) (bridge : VrGatewayBridge M Topic) (raw : PyStr)
    (nowNs : ℤ) : VrGatewayBridge M Topic × Except PyException Unit :=
  publishReturned publish bridge.topic (bridge.adapter.handleCommand raw nowNs)

/-- `poll`. -/
def poll (publish : Publish Topic) (bridge : VrGatewayBridge M Topic) (nowNs : ℤ) :
    VrGatewayBridge M Topic × Except PyException Unit :=
  publishReturned publish bridge.topic (bridge.adapter.poll nowNs)

/-! ## Runs -/

def step (publish : Publish Topic) (bridge : VrGatewayBridge M Topic) (arrival : Arrival) :
    VrGatewayBridge M Topic × Except PyException Unit :=
  match arrival.delivery with
  | .command raw => bridge.handleCommand publish raw arrival.nowNs
  | .poll => bridge.poll publish arrival.nowNs

abbrev Record := List (Machine.Entry Arrival (Except PyException Unit))

/-- A publisher appends a text to the topic, or raises and leaves it out. -/
def Appends (publish : Publish (List (List Char))) : Prop :=
  ∀ topic text, publish topic text = (topic ++ [text], .ok ()) ∨
    ∃ exception, publish topic text = (topic, .error exception)

/-- `_publish_event` of the node, on a topic that keeps every message. -/
def publishEvent : Publish (List (List Char)) := fun topic text => (topic ++ [text], .ok ())

/-- The call of the gateway an arrival leads to; none if the decoder raises something else than
a `WireError`. -/
def stimulus? (M : FloatMath K) (arrival : Arrival) : Option (Stimulus K) :=
  match arrival.delivery with
  | .poll => some ⟨.poll, arrival.nowNs⟩
  | .command raw =>
      match receive M raw with
      | .ok object => some ⟨.handle object, arrival.nowNs⟩
      | .error _ => none

theorem appends_publishEvent : Appends publishEvent := fun _ _ => .inl rfl

/-- What is published of the texts of a call is an initial part of them, and all of them where
the publisher does not raise. -/
theorem publishEach_appends {publish : Publish (List (List Char))} (appends : Appends publish)
    (texts topic : List (List Char)) :
    ∃ sent, sent <+: texts ∧ (publishEach publish texts topic).1 = topic ++ sent ∧
      ((∀ topic text, (publish topic text).2 = .ok ()) → sent = texts) := by
  induction texts generalizing topic with
  | nil => exact ⟨[], List.prefix_rfl, by simp [publishEach], fun _ => rfl⟩
  | cons text texts inductionHypothesis =>
      unfold publishEach
      rcases appends topic text with taken | ⟨exception, raised⟩
      · obtain ⟨sent, isPrefix, published, complete⟩ := inductionHypothesis (topic ++ [text])
        refine ⟨text :: sent, (List.prefix_cons_inj text).mpr isPrefix, ?_, ?_⟩
        · rw [taken]
          simpa using published
        · intro reliable
          rw [complete reliable]
      · refine ⟨[], List.nil_prefix, ?_, ?_⟩
        · rw [raised]
          simp
        · intro reliable
          have returned := reliable topic text
          rw [raised] at returned
          cases returned

/-! ## The gateway behind the bridge -/

section Behind

variable {arrival : Arrival} {stimulus : Stimulus K}

theorem fed_of_stimulus (called : stimulus? M arrival = some stimulus) :
    Fed M stimulus.call ∧ stimulus.nowNs = arrival.nowNs := by
  obtain ⟨delivery, nowNs⟩ := arrival
  cases delivery with
  | poll =>
      cases called
      exact ⟨.poll, rfl⟩
  | command raw =>
      unfold stimulus? receive at called
      dsimp only at called
      split at called
      · next object received =>
          cases called
          refine ⟨?_, rfl⟩
          split at received
          · next command decoded =>
              cases received
              exact .command decoded
          · cases received
            exact .sentinel
          · cases received
      · cases called

theorem stimulus?_eq_none_iff :
    stimulus? M arrival = none ↔
      ∃ raw exception, arrival.delivery = .command raw ∧ receive M raw = .error exception := by
  obtain ⟨delivery, nowNs⟩ := arrival
  cases delivery with
  | poll => simp [stimulus?]
  | command raw =>
      cases received : receive M raw with
      | ok object => simp [stimulus?, received]
      | error exception => simp [stimulus?, received]

/-- What the decoder does not turn into a call raises and leaves everything as it was. -/
theorem adapter_step_of_leaked (adapter : VrGatewayAdapter M) {raw : PyStr}
    {exception : PyException} (delivered : arrival.delivery = .command raw)
    (leaked : receive M raw = .error exception) :
    adapter.step arrival = (adapter, .error exception) := by
  unfold VrGatewayAdapter.step VrGatewayAdapter.handleCommand handleCommandVia
  rw [delivered]
  dsimp only
  rw [leaked]

theorem adapter_step_of_some (adapter : VrGatewayAdapter M)
    (called : stimulus? M arrival = some stimulus) :
    adapter.step arrival = (⟨(adapter.gateway.step stimulus).1⟩,
      VrGatewayAdapter.publish M (adapter.gateway.step stimulus).2) := by
  obtain ⟨delivery, nowNs⟩ := arrival
  cases delivery with
  | poll =>
      cases called
      rfl
  | command raw =>
      unfold stimulus? at called
      dsimp only at called
      unfold VrGatewayAdapter.step VrGatewayAdapter.handleCommand handleCommandVia
      dsimp only
      cases received : receive M raw with
      | ok object =>
          rw [received] at called
          cases called
          rfl
      | error exception =>
          rw [received] at called
          cases called

/-- Behind the transport, the texts of a call are those of the events the gateway returned. -/
theorem publish_of_fed {gateway : VrGateway M} (fit : Fit VrGateway.Anything gateway)
    (fed : Fed M stimulus.call) (clock : InRange 0 stimulus.nowNs) :
    VrGatewayAdapter.publish M (gateway.step stimulus).2 =
      (gateway.step stimulus).2.map fun events => events.map (eventText M) := by
  cases returned : (gateway.step stimulus).2 with
  | error exception => rfl
  | ok events =>
      have encodable := (VrGateway.step_fed fit fed).2 events returned
      exact encodeEvents_ok clock encodable

end Behind

/-! ## The topic of a run -/

theorem step_eq (publish : Publish Topic) (bridge : VrGatewayBridge M Topic) (arrival : Arrival) :
    bridge.step publish arrival =
      publishReturned publish bridge.topic (bridge.adapter.step arrival) := by
  obtain ⟨delivery, nowNs⟩ := arrival
  cases delivery <;> rfl

omit [Field K] [LinearOrder K] in
theorem mem_returned {entry : CallEntry K} {event : OutputEvent K}
    (membership : event ∈ returned entry) :
    ∃ events, entry.output = .ok events ∧ event ∈ events := by
  unfold returned at membership
  cases output : entry.output with
  | error exception => simp [output] at membership
  | ok events =>
      rw [output] at membership
      exact ⟨events, rfl, membership⟩

/-- The events a topic shows: of every call of the gateway an initial part. -/
def Shows (history : History K) (shown : List (List (OutputEvent K))) : Prop :=
  List.Forall₂ (fun entry events => events <+: returned entry) history shown

/-- One arrival: what it does to the gateway, and what it adds to the topic. -/
theorem step_shows {publish : Publish (List (List Char))} (appends : Appends publish)
    {bridge : VrGatewayBridge M (List (List Char))} {arrival : Arrival}
    {stimulus : Stimulus K} (fit : Fit VrGateway.Anything bridge.adapter.gateway)
    (clock : InRange 0 arrival.nowNs) (called : stimulus? M arrival = some stimulus) :
    ∃ shown, shown <+: returned ⟨stimulus, (bridge.adapter.gateway.step stimulus).2⟩ ∧
      (bridge.step publish arrival).1 = ⟨⟨(bridge.adapter.gateway.step stimulus).1⟩,
        bridge.topic ++ shown.map (eventText M)⟩ ∧
      ((∀ topic text, (publish topic text).2 = .ok ()) →
        shown = returned ⟨stimulus, (bridge.adapter.gateway.step stimulus).2⟩) := by
  obtain ⟨fed, sameTime⟩ := fed_of_stimulus called
  rw [← sameTime] at clock
  have stepped := adapter_step_of_some bridge.adapter called
  rw [publish_of_fed fit fed clock] at stepped
  rw [step_eq, stepped]
  cases output : (bridge.adapter.gateway.step stimulus).2 with
  | error exception =>
      exact ⟨[], List.nil_prefix, by simp [publishReturned, Except.map], by simp [returned]⟩
  | ok events =>
      obtain ⟨sent, ⟨unsent, whole⟩, published, complete⟩ :=
        publishEach_appends appends (events.map (eventText M)) bridge.topic
      obtain ⟨shown, hidden, rfl, rfl, _⟩ := List.append_eq_map_iff.mp whole
      refine ⟨shown, ⟨hidden, rfl⟩, ?_, ?_⟩
      · simp only [publishReturned, Except.map, published]
      · intro reliable
        have same := complete reliable
        rw [List.map_append, List.self_eq_append_right] at same
        obtain rfl := List.map_eq_nil_iff.mp same
        simp [returned]

/-- A run of the gateway that explains a run of the bridge: it has a call for every arrival
that is decoded or refused, once and in their order, and the topic holds the texts of what the
calls returned, in their order: all of it if the publisher never raises, and of a call at
which it raises an initial part.  All other texts raise what the decoder raised. -/
structure Explains (publish : Publish (List (List Char))) (start : VrGateway M) (record : Record)
    (bridge : VrGatewayBridge M (List (List Char))) (history : History K)
    (shown : List (List (OutputEvent K))) : Prop where
  run : Machine.Run VrGateway.step start history bridge.adapter.gateway
  inputs : history.map (·.input) = record.filterMap (stimulus? M ·.input)
  shows : Shows history shown
  texts : List.Forall₂ (fun event text => encodeEvent M event.toObject = .ok text) shown.flatten
    bridge.topic
  complete : (∀ topic text, (publish topic text).2 = .ok ()) → shown = history.map returned
  leaked : ∀ entry ∈ record, ∀ raw exception, entry.input.delivery = .command raw →
    receive M raw = .error exception → entry.output = .error exception

/-- One more arrival. -/
theorem Explains.snoc {publish : Publish (List (List Char))} (appends : Appends publish)
    {start : VrGateway M} {record : Record} {bridge : VrGatewayBridge M (List (List Char))}
    {history : History K} {shown : List (List (OutputEvent K))}
    (explains : Explains publish start record bridge history shown)
    (fit : Fit VrGateway.Anything bridge.adapter.gateway) {arrival : Arrival}
    (clock : InRange 0 arrival.nowNs) :
    let next := bridge.step publish arrival
    Fit VrGateway.Anything next.1.adapter.gateway ∧ ∃ longer more,
      Explains publish start (record ++ [⟨arrival, next.2⟩]) next.1 longer more := by
  intro next
  cases called : stimulus? M arrival with
  | none =>
      obtain ⟨raw, exception, delivered, leaked⟩ := stimulus?_eq_none_iff.mp called
      have still : next = (bridge, .error exception) := by
        have stepped := adapter_step_of_leaked bridge.adapter delivered leaked
        simp only [next, step_eq, stepped]
        rfl
      rw [still]
      refine ⟨fit, history, shown, { explains with inputs := ?_, leaked := ?_ }⟩
      · simpa [called] using explains.inputs
      · intro entry membership
        rcases List.mem_append.mp membership with earlier | last
        · exact explains.leaked entry earlier
        · obtain rfl := List.mem_singleton.mp last
          intro other raised sameDelivery receives
          cases delivered.symm.trans sameDelivery
          cases leaked.symm.trans receives
          rfl
  | some stimulus =>
      obtain ⟨events, initial, stepped, whole⟩ := step_shows appends fit clock called
      obtain ⟨fed, sameTime⟩ := fed_of_stimulus called
      obtain ⟨nextFit, encodable⟩ := VrGateway.step_fed fit fed
      rw [show next.1 = _ from stepped]
      refine ⟨nextFit, history ++ [⟨stimulus, _⟩], shown ++ [events], {
        run := explains.run.snoc stimulus
        inputs := ?_
        shows := List.rel_append explains.shows (.cons initial .nil)
        texts := ?_
        complete := ?_
        leaked := ?_ }⟩
      · simpa [called] using explains.inputs
      · rw [List.flatten_append, List.flatten_singleton]
        refine List.rel_append explains.texts ?_
        rw [List.forall₂_map_right_iff, List.forall₂_same]
        intro event membership
        obtain ⟨all, output, inside⟩ := mem_returned (initial.subset membership)
        exact encodeEvent_ok clock (sameTime ▸ encodable all output event inside)
      · intro reliable
        rw [explains.complete reliable, whole reliable, List.map_append]
        rfl
      · intro entry membership
        rcases List.mem_append.mp membership with earlier | last
        · exact explains.leaked entry earlier
        · obtain rfl := List.mem_singleton.mp last
          intro raw exception delivered receives
          have uncalled := stimulus?_eq_none_iff.mpr ⟨raw, exception, delivered, receives⟩
          cases called.symm.trans uncalled

section Run

omit [Field K] [LinearOrder K] in
theorem exists_left_of_mem {Left Right : Type} {related : Left → Right → Prop}
    {lefts : List Left} {rights : List Right} (pairs : List.Forall₂ related lefts rights)
    {right : Right} (membership : right ∈ rights) : ∃ left ∈ lefts, related left right := by
  induction pairs with
  | nil => cases membership
  | cons isRelated _ inductionHypothesis =>
      rcases List.mem_cons.mp membership with rfl | inside
      · exact ⟨_, List.mem_cons_self, isRelated⟩
      · obtain ⟨left, inLefts, later⟩ := inductionHypothesis inside
        exact ⟨left, List.mem_cons_of_mem _ inLefts, later⟩

variable {publish : Publish (List (List Char))} {controller : NeckController M}
  {config : GatewayConfig} {record : Record} {bridge : VrGatewayBridge M (List (List Char))}

theorem explains_of_run (appends : Appends publish)
    (run : Machine.Run (step publish) ⟨⟨VrGateway.new controller config⟩, []⟩ record bridge)
    (clocked : ∀ entry ∈ record, InRange 0 entry.input.nowNs) :
    Fit VrGateway.Anything bridge.adapter.gateway ∧ ∃ history shown,
      Explains publish (VrGateway.new controller config) record bridge history shown := by
  induction run with
  | nil =>
      refine ⟨fit_new controller config, [], [], .nil, rfl, .nil, .nil, fun _ => rfl, ?_⟩
      rintro _ ⟨⟩
  | snoc arrival _ inductionHypothesis =>
      obtain ⟨fit, history, shown, explains⟩ :=
        inductionHypothesis fun entry membership =>
          clocked entry (List.mem_append_left _ membership)
      have clock := clocked _ (List.mem_append_right _ (List.mem_singleton_self _))
      exact explains.snoc appends fit clock

/-- The event behind a text of the topic, and the call that returned it. -/
theorem Explains.event {start : VrGateway M} {history : History K}
    {shown : List (List (OutputEvent K))}
    (explains : Explains publish start record bridge history shown) {text : List Char}
    (membership : text ∈ bridge.topic) :
    ∃ entry ∈ history, ∃ event ∈ returned entry, encodeEvent M event.toObject = .ok text := by
  obtain ⟨event, inShown, encoded⟩ := exists_left_of_mem explains.texts membership
  obtain ⟨events, isShown, inside⟩ := List.mem_flatten.mp inShown
  obtain ⟨entry, inHistory, initial⟩ := exists_left_of_mem explains.shows isShown
  exact ⟨entry, inHistory, event, initial.subset inside, encoded⟩

/-- The arrival behind a call. -/
theorem Explains.arrival {start : VrGateway M} {history : History K}
    {shown : List (List (OutputEvent K))}
    (explains : Explains publish start record bridge history shown) {entry : CallEntry K}
    (membership : entry ∈ history) :
    ∃ arrived ∈ record, stimulus? M arrived.input = some entry.input := by
  have inputs := List.mem_map_of_mem (f := (·.input)) membership
  rw [explains.inputs] at inputs
  exact List.mem_filterMap.mp inputs

end Run

/-- Whatever arrives, in whatever order, and whatever the publisher does with it: the topic
tells what a run of the gateway returned. -/
theorem topic_of_run (publish : Publish (List (List Char))) (appends : Appends publish)
    (controller : NeckController M) (config : GatewayConfig) (record : Record)
    (bridge : VrGatewayBridge M (List (List Char)))
    (run : Machine.Run (step publish) ⟨⟨VrGateway.new controller config⟩, []⟩ record bridge)
    (clocked : ∀ entry ∈ record, InRange 0 entry.input.nowNs) :
    ∃ history shown,
      Explains publish (VrGateway.new controller config) record bridge history shown :=
  (explains_of_run appends run clocked).2

/-- The clock of a run is that of what arrives. -/
theorem clocked_of_arrivals {publish : Publish Topic} {start : VrGatewayBridge M Topic}
    {arrivals : List Arrival} (clocked : ∀ arrival ∈ arrivals, InRange 0 arrival.nowNs) :
    ∀ entry ∈ (Machine.execute (step publish) start arrivals).1, InRange 0 entry.input.nowNs := by
  intro entry membership
  have arrived := List.mem_map_of_mem (f := (·.input)) membership
  rw [Machine.execute_inputs] at arrived
  exact clocked _ arrived

/-- A bridge that gets the start of a session, a text that is no command, and a poll. -/
theorem topic_of_run_start :
    let arrivals := [⟨.command Session.startText, 0⟩, ⟨.command (py "no command"), 1⟩, ⟨.poll, 2⟩]
    let ran := Machine.execute (step publishEvent) ⟨⟨Session.gateway⟩, []⟩ arrivals
    ∃ history shown, Explains publishEvent Session.gateway ran.1 ran.2 history shown :=
  topic_of_run publishEvent appends_publishEvent Session.controller {} _ _
    (Machine.execute_run _ _ _) (clocked_of_arrivals (by simp [InRange, maxInt64]))

end VrGatewayBridge

end ValeraControlTower
