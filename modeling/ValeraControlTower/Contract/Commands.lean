import ValeraControlTower.Library.Json
import ValeraControlTower.VrGateway.Python

/-!
# The command documents of the contract

What a document has to look like, apart from the programs that read it: `IsCommand` says
which fields it has and of which kind, `Acceptable` which values they may take.  The two
programs read white space, lengths, integer literals and orientations differently; a
`Reading` is one way to do so.
-/

namespace ValeraControlTower

open Unicode Json

/-- A number literal. -/
abbrev Literal := { numeral : Numeral // numeral.WellFormed }

/-- A document with its strings as texts and its numbers as they are written. -/
abbrev WireTree := Tree (List Char) Literal

abbrev WireMembers := List (List Char × WireTree)

structure WireOrientation where
  x : Literal
  y : Literal
  z : Literal
  w : Literal

structure WirePosition where
  x : Literal
  y : Literal
  z : Literal

inductive WirePayload where
  | sessionStart
  | mode (mode : List Char)
  | pose (orientation : WireOrientation) (position : Option WirePosition)
  | empty

/-- What a command document says. -/
structure WireCommand where
  command : CommandName
  sessionId : List Char
  sequence : Literal
  timestampMs : Literal
  payload : WirePayload

/-- The names of the contract. -/
def CommandName.wire : CommandName → String
  | sessionStart => "session.start"
  | sessionStop => "session.stop"
  | modeSet => "mode.set"
  | headPose => "head.pose"
  | headRecenter => "head.recenter"
  | emergencyStop => "emergency_stop"

namespace WireMembers

/-- Every required field is there, and no field that is neither required nor optional. -/
structure HasFields (members : WireMembers) (required optional : List String) : Prop where
  present : ∀ name ∈ required, name.toList ∈ members.map Prod.fst
  known : ∀ key ∈ members.map Prod.fst, key ∈ (required ++ optional).map String.toList

def Has (members : WireMembers) (name : String) (value : WireTree) : Prop :=
  members.lookup name.toList = some value

theorem HasFields.get {members : WireMembers} {required optional : List String}
    (fields : members.HasFields required optional) (name : String) (isRequired : name ∈ required) :
    ∃ value, members.Has name value := by
  obtain ⟨⟨key, value⟩, membership, rfl⟩ := List.mem_map.mp (fields.present name isRequired)
  exact Option.isSome_iff_exists.mp
    (List.lookup_isSome_iff.mpr ⟨(_, value), membership, beq_self_eq_true _⟩)

theorem Has.unique {members : WireMembers} {name : String} {value value' : WireTree}
    (has : members.Has name value) (has' : members.Has name value') : value = value' :=
  Option.some.inj (has.symm.trans has')

end WireMembers

/-! ## Shapes -/

inductive IsOrientation : WireTree → WireOrientation → Prop where
  | obj {members : WireMembers} {x y z w : Literal}
      (fields : members.HasFields ["x", "y", "z", "w"] []) (isX : members.Has "x" (.num x))
      (isY : members.Has "y" (.num y)) (isZ : members.Has "z" (.num z))
      (isW : members.Has "w" (.num w)) : IsOrientation (.obj members) ⟨x, y, z, w⟩

inductive IsPosition : WireTree → WirePosition → Prop where
  | obj {members : WireMembers} {x y z : Literal}
      (fields : members.HasFields ["x", "y", "z"] []) (isX : members.Has "x" (.num x))
      (isY : members.Has "y" (.num y)) (isZ : members.Has "z" (.num z)) :
      IsPosition (.obj members) ⟨x, y, z⟩

/-- An optional position: absent, null or an object. -/
inductive IsOptionalPosition (members : WireMembers) : Option WirePosition → Prop where
  | absent (absent : members.lookup "position".toList = none) : IsOptionalPosition members none
  | null (isNull : members.Has "position" .null) : IsOptionalPosition members none
  | present {value : WireTree} {position : WirePosition} (isMember : members.Has "position" value)
      (isPosition : IsPosition value position) : IsOptionalPosition members (some position)

inductive IsPayload : CommandName → WireTree → WirePayload → Prop where
  | sessionStart {members : WireMembers} (fields : members.HasFields ["requested_mode"] [])
      (isMode : members.Has "requested_mode" (.str "head".toList)) :
      IsPayload .sessionStart (.obj members) .sessionStart
  | sessionStop {members : WireMembers} (fields : members.HasFields [] []) :
      IsPayload .sessionStop (.obj members) .empty
  | emergencyStop {members : WireMembers} (fields : members.HasFields [] []) :
      IsPayload .emergencyStop (.obj members) .empty
  | modeSet {members : WireMembers} {mode : List Char} (fields : members.HasFields ["mode"] [])
      (isMode : members.Has "mode" (.str mode)) : IsPayload .modeSet (.obj members) (.mode mode)
  | headPose {members : WireMembers} {value : WireTree} {orientation : WireOrientation}
      {position : Option WirePosition}
      (fields : members.HasFields ["frame", "orientation"] ["position"])
      (isFrame : members.Has "frame" (.str "quest_local".toList))
      (isMember : members.Has "orientation" value) (isOrientation : IsOrientation value orientation)
      (isPosition : IsOptionalPosition members position) :
      IsPayload .headPose (.obj members) (.pose orientation position)
  | headRecenter {members : WireMembers} {value : WireTree} {orientation : WireOrientation}
      (fields : members.HasFields ["frame", "orientation"] [])
      (isFrame : members.Has "frame" (.str "quest_local".toList))
      (isMember : members.Has "orientation" value)
      (isOrientation : IsOrientation value orientation) :
      IsPayload .headRecenter (.obj members) (.pose orientation none)

/-- The document of a command. -/
inductive IsCommand : WireTree → WireCommand → Prop where
  | obj {members : WireMembers} {value : WireTree} {command : WireCommand}
      (fields : members.HasFields
        ["schema_version", "command", "session_id", "sequence", "timestamp_ms", "payload"] [])
      (isVersion : members.Has "schema_version" (.str "0.1".toList))
      (isCommand : members.Has "command" (.str command.command.wire.toList))
      (isSessionId : members.Has "session_id" (.str command.sessionId))
      (isSequence : members.Has "sequence" (.num command.sequence))
      (isTimestamp : members.Has "timestamp_ms" (.num command.timestampMs))
      (isMember : members.Has "payload" value)
      (isPayload : IsPayload command.command value command.payload) :
      IsCommand (.obj members) command

theorem IsCommand.exists_payload {tree : WireTree} {command : WireCommand}
    (isCommand : IsCommand tree command) :
    ∃ value, IsPayload command.command value command.payload := by
  obtain ⟨_, _, _, _, _, _, _, isPayload⟩ := isCommand
  exact ⟨_, isPayload⟩

theorem CommandName.wire_injective : Function.Injective CommandName.wire := by
  intro first second same
  revert same
  cases first <;> cases second <;> decide

section Unique

theorem IsOrientation.unique {value : WireTree} {orientation orientation' : WireOrientation}
    (first : IsOrientation value orientation) (second : IsOrientation value orientation') :
    orientation = orientation' := by
  obtain ⟨_, isX, isY, isZ, isW⟩ := first
  obtain ⟨_, isX', isY', isZ', isW'⟩ := second
  cases isX.unique isX'
  cases isY.unique isY'
  cases isZ.unique isZ'
  cases isW.unique isW'
  rfl

theorem IsPosition.unique {value : WireTree} {position position' : WirePosition}
    (first : IsPosition value position) (second : IsPosition value position') :
    position = position' := by
  obtain ⟨_, isX, isY, isZ⟩ := first
  obtain ⟨_, isX', isY', isZ'⟩ := second
  cases isX.unique isX'
  cases isY.unique isY'
  cases isZ.unique isZ'
  rfl

theorem IsOptionalPosition.unique {members : WireMembers} {position position' : Option WirePosition}
    (first : IsOptionalPosition members position) (second : IsOptionalPosition members position') :
    position = position' := by
  cases first with
  | absent absent =>
      cases second with
      | absent _ => rfl
      | null isNull => cases absent.symm.trans isNull
      | present isMember _ => cases absent.symm.trans isMember
  | null isNull =>
      cases second with
      | absent absent => cases absent.symm.trans isNull
      | null _ => rfl
      | present isMember isPosition =>
          cases isNull.unique isMember
          cases isPosition
  | present isMember isPosition =>
      cases second with
      | absent absent => cases absent.symm.trans isMember
      | null isNull =>
          cases isNull.unique isMember
          cases isPosition
      | present isMember' isPosition' =>
          cases isMember.unique isMember'
          rw [isPosition.unique isPosition']

theorem IsPayload.unique {name : CommandName} {value : WireTree} {payload payload' : WirePayload}
    (first : IsPayload name value payload) (second : IsPayload name value payload') :
    payload = payload' := by
  cases first with
  | sessionStart => cases second; rfl
  | sessionStop => cases second; rfl
  | emergencyStop => cases second; rfl
  | modeSet _ isMode =>
      cases second with
      | modeSet _ isMode' =>
          cases isMode.unique isMode'
          rfl
  | headPose _ _ isMember isOrientation isPosition =>
      cases second with
      | headPose _ _ isMember' isOrientation' isPosition' =>
          cases isMember.unique isMember'
          rw [isOrientation.unique isOrientation', isPosition.unique isPosition']
  | headRecenter _ _ isMember isOrientation =>
      cases second with
      | headRecenter _ _ isMember' isOrientation' =>
          cases isMember.unique isMember'
          rw [isOrientation.unique isOrientation']

/-- A document says one thing. -/
theorem IsCommand.unique {tree : WireTree} {command command' : WireCommand}
    (first : IsCommand tree command) (second : IsCommand tree command') : command = command' := by
  obtain ⟨name, sessionId, sequence, timestampMs, payload⟩ := command
  obtain ⟨name', sessionId', sequence', timestampMs', payload'⟩ := command'
  obtain ⟨_, _, isName, isSession, isSequence, isTimestamp, isMember, isPayload⟩ := first
  obtain ⟨_, _, isName', isSession', isSequence', isTimestamp', isMember', isPayload'⟩ := second
  have sameName : name.wire.toList = name'.wire.toList := by
    have same := isName.unique isName'
    injection same
  cases CommandName.wire_injective (String.toList_inj.mp sameName)
  cases isSession.unique isSession'
  cases isSequence.unique isSequence'
  cases isTimestamp.unique isTimestamp'
  cases isMember.unique isMember'
  cases isPayload.unique isPayload'
  rfl

end Unique

/-! ## Documents -/

/-- An integer as it is written. -/
def Literal.ofInt (number : ℤ) : Literal := ⟨Numeral.ofInt number, Numeral.wellFormed_ofInt number⟩

theorem Literal.value_ofInt (number : ℤ) : (Literal.ofInt number).1.value = number :=
  (Numeral.value_of_isInteger (Numeral.isInteger_ofInt number)).trans
    (congrArg Int.cast (Numeral.intValue_ofInt number))

def WireOrientation.tree (orientation : WireOrientation) : WireTree :=
  .obj [("x".toList, .num orientation.x), ("y".toList, .num orientation.y),
    ("z".toList, .num orientation.z), ("w".toList, .num orientation.w)]

def WirePosition.tree (position : WirePosition) : WireTree :=
  .obj [("x".toList, .num position.x), ("y".toList, .num position.y),
    ("z".toList, .num position.z)]

/-- The payload with its fields in the order of the contract; a position that is none is
left out. -/
def WirePayload.tree : WirePayload → WireTree
  | sessionStart => .obj [("requested_mode".toList, .str "head".toList)]
  | mode text => .obj [("mode".toList, .str text)]
  | pose orientation none =>
      .obj [("frame".toList, .str "quest_local".toList), ("orientation".toList, orientation.tree)]
  | pose orientation (some position) =>
      .obj [("frame".toList, .str "quest_local".toList), ("orientation".toList, orientation.tree),
        ("position".toList, position.tree)]
  | empty => .obj []

/-- The document with its fields in the order of the contract. -/
def WireCommand.tree (command : WireCommand) : WireTree :=
  .obj [("schema_version".toList, .str "0.1".toList),
    ("command".toList, .str command.command.wire.toList),
    ("session_id".toList, .str command.sessionId), ("sequence".toList, .num command.sequence),
    ("timestamp_ms".toList, .num command.timestampMs), ("payload".toList, command.payload.tree)]

/-- The document in code units, as a text denotes it. -/
def WireTree.document (tree : WireTree) : Document := tree.map utf16 Subtype.val

/-- The payload is one of the command. -/
def WirePayload.Fits : CommandName → WirePayload → Prop
  | .sessionStart, .sessionStart | .modeSet, .mode _ | .headPose, .pose _ _
  | .headRecenter, .pose _ none | .sessionStop, .empty | .emergencyStop, .empty => True
  | _, _ => False

theorem WireOrientation.isOrientation_tree (orientation : WireOrientation) :
    IsOrientation orientation.tree orientation := by
  unfold WireOrientation.tree
  exact .obj ⟨by simp, by simp⟩ rfl rfl rfl rfl

theorem WirePosition.isPosition_tree (position : WirePosition) :
    IsPosition position.tree position := by
  unfold WirePosition.tree
  exact .obj ⟨by simp, by simp⟩ rfl rfl rfl

theorem WirePayload.isPayload_tree {name : CommandName} {payload : WirePayload}
    (fits : payload.Fits name) : IsPayload name payload.tree payload := by
  cases payload with
  | sessionStart =>
      unfold WirePayload.tree
      cases name with
      | sessionStart => exact .sessionStart ⟨by simp, by simp⟩ rfl
      | sessionStop | modeSet | headPose | headRecenter | emergencyStop => cases fits
  | mode mode =>
      unfold WirePayload.tree
      cases name with
      | modeSet => exact .modeSet ⟨by simp, by simp⟩ rfl
      | sessionStart | sessionStop | headPose | headRecenter | emergencyStop => cases fits
  | empty =>
      unfold WirePayload.tree
      cases name with
      | sessionStop => exact .sessionStop ⟨by simp, by simp⟩
      | emergencyStop => exact .emergencyStop ⟨by simp, by simp⟩
      | sessionStart | modeSet | headPose | headRecenter => cases fits
  | pose orientation position =>
      have isOrientation := orientation.isOrientation_tree
      cases position with
      | none =>
          unfold WirePayload.tree
          cases name with
          | headPose => exact .headPose ⟨by simp, by simp⟩ rfl rfl isOrientation (.absent rfl)
          | headRecenter => exact .headRecenter ⟨by simp, by simp⟩ rfl rfl isOrientation
          | sessionStart | sessionStop | modeSet | emergencyStop => cases fits
      | some position =>
          unfold WirePayload.tree
          cases name with
          | headPose =>
              exact .headPose ⟨by simp, by simp⟩ rfl rfl isOrientation
                (.present rfl position.isPosition_tree)
          | sessionStart | sessionStop | modeSet | headRecenter | emergencyStop => cases fits

theorem WireCommand.isCommand_tree (command : WireCommand)
    (fits : command.payload.Fits command.command) : IsCommand command.tree command := by
  unfold WireCommand.tree
  exact .obj ⟨by simp, by simp⟩ rfl rfl rfl rfl rfl rfl (WirePayload.isPayload_tree fits)

/-- A `session.stop` under an id. -/
def stopCommand (sessionId : List Char) : WireCommand :=
  ⟨.sessionStop, sessionId, .ofInt 1, .ofInt 0, .empty⟩

theorem isCommand_stopCommand (sessionId : List Char) :
    IsCommand (stopCommand sessionId).tree (stopCommand sessionId) :=
  (stopCommand sessionId).isCommand_tree trivial

theorem WirePayload.distinctKeys_tree (payload : WirePayload) : payload.tree.DistinctKeys := by
  have distinct : ["x".toList, "y".toList, "z".toList, "w".toList].Nodup := by decide
  have distinct' : ["x".toList, "y".toList, "z".toList].Nodup := by decide
  have turns (orientation : WireOrientation) : orientation.tree.DistinctKeys :=
    ⟨distinct, trivial, trivial, trivial, trivial, trivial⟩
  have places (position : WirePosition) : position.tree.DistinctKeys :=
    ⟨distinct', trivial, trivial, trivial, trivial⟩
  cases payload with
  | sessionStart => exact ⟨List.nodup_singleton _, trivial, trivial⟩
  | mode mode => exact ⟨List.nodup_singleton _, trivial, trivial⟩
  | empty => exact ⟨List.nodup_nil, trivial⟩
  | pose orientation position =>
      cases position with
      | none =>
          have names : ["frame".toList, "orientation".toList].Nodup := by decide
          exact ⟨names, trivial, turns orientation, trivial⟩
      | some position =>
          have names : ["frame".toList, "orientation".toList, "position".toList].Nodup := by decide
          exact ⟨names, trivial, turns orientation, places position, trivial⟩

theorem WireCommand.distinctKeys_tree (command : WireCommand) : command.tree.DistinctKeys := by
  have names : ["schema_version".toList, "command".toList, "session_id".toList, "sequence".toList,
      "timestamp_ms".toList, "payload".toList].Nodup := by decide
  exact ⟨names, trivial, trivial, trivial, trivial, trivial, command.payload.distinctKeys_tree,
    trivial⟩

/-- The document is an object of objects of objects. -/
theorem WireCommand.depth_tree (command : WireCommand) : command.tree.depth ≤ 4 := by
  have payload : command.payload.tree.depth ≤ 3 := by
    cases command.payload with
    | sessionStart | mode _ | empty =>
        simp [WirePayload.tree, Tree.depth, Tree.depthMembers]
    | pose orientation position =>
        cases position with
        | none | some _ =>
            simp [WirePayload.tree, WireOrientation.tree, WirePosition.tree, Tree.depth,
              Tree.depthMembers]
  simp only [WireCommand.tree, Tree.depth, Tree.depthMembers]
  omega

/-- What the number literals of a payload satisfy. -/
def WirePayload.Literals (holds : Literal → Prop) : WirePayload → Prop
  | sessionStart | mode _ | empty => True
  | pose orientation position =>
      (holds orientation.x ∧ holds orientation.y ∧ holds orientation.z ∧ holds orientation.w) ∧
        ∀ value, position = some value → holds value.x ∧ holds value.y ∧ holds value.z

theorem WireCommand.numbers_tree {command : WireCommand} {holds : Literal → Prop}
    (sequence : holds command.sequence) (timestampMs : holds command.timestampMs)
    (payload : command.payload.Literals holds) : command.tree.Numbers holds := by
  refine ⟨trivial, trivial, trivial, sequence, timestampMs, ?_, trivial⟩
  generalize command.payload = wire at payload
  cases wire with
  | sessionStart | mode _ => exact ⟨trivial, trivial⟩
  | empty => trivial
  | pose orientation position =>
      obtain ⟨⟨x, y, z, w⟩, places⟩ := payload
      cases position with
      | none => exact ⟨trivial, ⟨x, y, z, w, trivial⟩, trivial⟩
      | some position =>
          obtain ⟨a, b, c⟩ := places position rfl
          exact ⟨trivial, ⟨x, y, z, w, trivial⟩, ⟨a, b, c, trivial⟩, trivial⟩

/-! ## Values -/

/-- How a program reads a document where the two may differ. -/
structure Dialect where
  /-- Does the text consist of white space? -/
  blank : List Char → Bool
  length : List Char → ℕ
  /-- Can the sign of an integer literal be read? -/
  signed : Bool

/-- An integer literal whose value lies between the least one allowed and `Int64.MaxValue`. -/
structure Dialect.Integer (dialect : Dialect) (minimum : ℤ) (literal : Literal) : Prop where
  isInteger : literal.1.isInteger = true
  sign : dialect.signed = false → literal.1.negative = false
  above : minimum ≤ literal.1.intValue
  below : literal.1.intValue ≤ 9223372036854775807

/-- A dialect with the orientations the program takes. -/
structure Reading extends Dialect where
  turns : WireOrientation → Prop

variable {K : Type}

/-- The numbers an orientation denotes. -/
def WireOrientation.Denotes (M : FloatMath K) (orientation : WireOrientation)
    (x y z w : K) : Prop :=
  M.ofRat orientation.x.1.value = some x ∧ M.ofRat orientation.y.1.value = some y ∧
    M.ofRat orientation.z.1.value = some z ∧ M.ofRat orientation.w.1.value = some w

/-- The numbers a position denotes. -/
def WirePosition.Denotes (M : FloatMath K) (position : WirePosition) (x y z : K) : Prop :=
  M.ofRat position.x.1.value = some x ∧ M.ofRat position.y.1.value = some y ∧
    M.ofRat position.z.1.value = some z

variable [Field K] [LinearOrder K]

/-- Exact arithmetic: nothing overflows, and `hypot` is the root of the sum of the squares. -/
structure FloatMath.Exact (M : FloatMath K) : Prop where
  isfinite : ∀ value, M.isfinite value = true
  hypot_nonneg : ∀ values, 0 ≤ M.hypot values
  hypot_mul_self : ∀ values,
    M.hypot values * M.hypot values = (values.map fun value => value * value).sum

/-- Finite components, not all of them close to zero. -/
def WireOrientation.Acceptable (M : FloatMath K) (orientation : WireOrientation) : Prop :=
  ∃ x y z w, orientation.Denotes M x y z w ∧
    1 / 10 ^ 24 < x * x + y * y + z * z + w * w

omit [Field K] [LinearOrder K] in
def WirePosition.Acceptable (M : FloatMath K) (position : WirePosition) : Prop :=
  ∃ x y z, position.Denotes M x y z

omit [Field K] [LinearOrder K] in
/-- The values a payload may hold. -/
def WirePayload.Acceptable (M : FloatMath K) (reading : Reading) : WirePayload → Prop
  | sessionStart | empty => True
  | mode text => text ≠ [] ∧ reading.blank text = false ∧ reading.length text ≤ 64
  | pose orientation position =>
      reading.turns orientation ∧ ∀ value, position = some value → value.Acceptable M

omit [Field K] [LinearOrder K] in
/-- The values a command may hold. -/
structure WireCommand.Acceptable (M : FloatMath K) (reading : Reading) (command : WireCommand) :
    Prop where
  nonempty : command.sessionId ≠ []
  visible : reading.blank command.sessionId = false
  sequence : reading.Integer 1 command.sequence
  timestampMs : reading.Integer 0 command.timestampMs
  payload : command.payload.Acceptable M reading

end ValeraControlTower
