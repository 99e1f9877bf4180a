import ValeraControlTower.Unity.CodecValidation
import ValeraControlTower.Unity.PositionsRefine

/-!
# The decoders on any string

`DecodeCommand` and `DecodeEvent` over the reader with its index, where a character read
outside of the string, a member asked of a value that has none, a loop that does not end and
a recursion that outgrows its stack all have outcomes of their own.
-/

namespace ValeraControlTower.Unity

open Unicode Json CsString

namespace WireCodec

variable {K : Type} (M : FloatMath K)

/-- Calls of `ReadValue` that wait for each other, the one that refuses the depth included. -/
def stack : ℕ := StrictJsonParser.maximumDepth + 2

theorem parse_stack (json : CsString) :
    StrictJsonParser.Parser.parse json stack = StrictJsonParser.parse json :=
  StrictJsonParser.Parser.parse_eq (Nat.lt_succ_self _) json

/-- `DecodeEvent`, reading by the index. -/
def decodeEventAt (json : CsString) : Except CsException (EventDto M) := do
  decodeEventRoot M (← StrictJsonParser.Parser.parse json stack)

theorem decodeEventAt_eq (json : CsString) : decodeEventAt M json = decodeEvent M json := by
  unfold decodeEventAt
  rw [parse_stack]
  rfl

variable [Field K] [LinearOrder K]

/-- `DecodeCommand`, reading by the index. -/
def decodeCommandAt (json : CsString) : Except CsException (CommandDto M) := do
  decodeCommandRoot M (← StrictJsonParser.Parser.parse json stack)

theorem decodeCommandAt_eq (json : CsString) : decodeCommandAt M json = decodeCommand M json := by
  unfold decodeCommandAt
  rw [parse_stack]
  rfl

/-- On every string each decoder returns or throws a `WireValidationException`. -/
theorem decoders_failClosed (json : CsString) :
    FailsClosed (decodeCommandAt M json) ∧ FailsClosed (decodeEventAt M json) := by
  rw [decodeCommandAt_eq, decodeEventAt_eq]
  exact ⟨validated_decodeCommand json, validated_decodeEvent json⟩

end WireCodec

end ValeraControlTower.Unity
