import ValeraControlTower.Library.Numeral
import ValeraControlTower.VrGateway.Python

/-!
# The C# values the client meets

Strings are sequences of UTF-16 code units.  A `double` is an element of the type of
exact values that a Python `float` is, so that the two sides can be compared.
-/

namespace ValeraControlTower.Unity

open Unicode

/-- A `string` that is not null; lone surrogates are allowed. -/
abbrev CsString := List CodeUnit

/-- A string literal of the sources. -/
abbrev cs (text : String) : CsString := codeUnits text

/-- Exceptions by class; those the sources raise themselves keep their message. -/
inductive CsException where
  | wireValidationException (message : CsString)
  | argumentException (message : CsString)
  | argumentOutOfRangeException (message : CsString)
  | nullReferenceException
  | indexOutOfRangeException
  /-- No exception of the language: a loop or a recursion was cut off at the bound on its
  rounds or calls. -/
  | cutOff
  deriving DecidableEq

/-- `throw new WireValidationException(message)`. -/
def invalid {α : Type} (message : String) : Except CsException α :=
  .error (.wireValidationException (cs message))

theorem bind_eq_ok {α β : Type} {outcome : Except CsException α}
    {next : α → Except CsException β} {result : β} (returned : outcome >>= next = .ok result) :
    ∃ value, outcome = .ok value ∧ next value = .ok result := by
  cases outcome with
  | error exception => cases returned
  | ok value => exact ⟨value, rfl, returned⟩

namespace CsString

/-- The zeros of the decimal digits of the basic plane. -/
def digitZeros : List ℕ :=
  [0x30, 0x660, 0x6F0, 0x7C0, 0x966, 0x9E6, 0xA66, 0xAE6, 0xB66, 0xBE6, 0xC66, 0xCE6, 0xD66,
    0xDE6, 0xE50, 0xED0, 0xF20, 0x1040, 0x1090, 0x17E0, 0x1810, 0x1946, 0x19D0, 0x1A80, 0x1A90,
    0x1B50, 0x1BB0, 0x1C40, 0x1C50, 0xA620, 0xA8D0, 0xA900, 0xA9D0, 0xA9F0, 0xAA50, 0xABF0,
    0xFF10]

/-- `char.IsDigit`: a decimal digit of any script. -/
def isDigit (unit : CodeUnit) : Bool :=
  digitZeros.any fun low => decide (low ≤ unit.val ∧ unit.val ≤ low + 9)

/-- `char.IsWhiteSpace`. -/
def isWhiteSpace (unit : CodeUnit) : Bool :=
  let code := unit.val
  decide (0x09 ≤ code ∧ code ≤ 0x0D) || code == 0x20 || code == 0x85 || code == 0xA0 ||
    code == 0x1680 || decide (0x2000 ≤ code ∧ code ≤ 0x200A) || code == 0x2028 ||
    code == 0x2029 || code == 0x202F || code == 0x205F || code == 0x3000

/-- `string.IsNullOrWhiteSpace` of a string that is not null. -/
def isWhiteSpaceOnly (text : CsString) : Bool := text.all isWhiteSpace

end CsString

/-- A `long`. -/
abbrev CsLong := { value : ℤ // -9223372036854775808 ≤ value ∧ value ≤ 9223372036854775807 }

/-- `long.TryParse` with `NumberStyles.None`: ASCII digits only, without a sign. -/
def tryParseLong (text : CsString) : Option CsLong :=
  let (digits, rest) := Numeral.scanDigits text
  if fits : digits ≠ [] ∧ rest = [] ∧ (Digit.natValue digits : ℤ) ≤ 9223372036854775807 then
    some ⟨Digit.natValue digits, by omega, fits.2.2⟩
  else none

variable {K : Type}

/-- A value that some decimal text is converted to. -/
def IsDouble (M : FloatMath K) (value : K) : Prop := ∃ decimal, M.ofRat decimal = some value

/-- A finite `double`. -/
abbrev FiniteDouble (M : FloatMath K) := { value : K // IsDouble M value }

/-- A `double`. -/
inductive CsDouble (M : FloatMath K) where
  | finite (value : FiniteDouble M)
  | infinity (negative : Bool)
  | nan

/-- `double.TryParse` with `NumberStyles.Float` on a text `ReadNumber` returns, where the
result is finite. -/
def tryParseDouble (M : FloatMath K) (text : CsString) : Option (FiniteDouble M) :=
  match Numeral.scan text with
  | some (numeral, []) =>
      match result : M.ofRat numeral.value with
      | some value => some ⟨value, numeral.value, result⟩
      | none => none
  | _ => none

end ValeraControlTower.Unity
