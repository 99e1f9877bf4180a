import ValeraControlTower.Library.Json
import ValeraControlTower.Unity.CSharp

/-!
# `Runtime/Json/StrictJsonParser.cs`

The parser's position is what is left of the source.  Every round of a loop reads on, so
a bound on the rounds that exceeds the length of what is left is never met.
-/

namespace ValeraControlTower.Unity

open Unicode Json CsString

/-- A `JsonValue`: numbers keep their text, members stand in the order they were added. -/
abbrev JsonValue := Tree CsString CsString

namespace StrictJsonParser

def maximumCharacters : ℕ := 65536

def maximumBytes : ℕ := 65536

def maximumDepth : ℕ := 16

/-- `GetByteCount` of a UTF-8 encoding that refuses lone surrogates. -/
def getByteCount (json : CsString) : Option ℕ :=
  if wellFormed json then some ((codePoints json).map CodePoint.utf8Length).sum else none

/-! ## Characters -/

def isWhitespace (unit : CodeUnit) : Bool :=
  unit = CodeUnit.ofChar ' ' || unit = CodeUnit.ofChar '\t' || unit = CodeUnit.ofChar '\r' ||
    unit = CodeUnit.ofChar '\n'

/-- `SkipWhitespace`. -/
def skipWhitespace (source : CsString) : CsString := source.dropWhile isWhitespace

/-- `Consume`: what is left behind the character, if it stands at the position. -/
def consume? (char : Char) : CsString → Option CsString
  | [] => none
  | unit :: rest => if unit = CodeUnit.ofChar char then some rest else none

/-- `Require`. -/
def require (char : Char) (source : CsString) : Except CsException CsString :=
  match consume? char (skipWhitespace source) with
  | some rest => .ok rest
  | none => invalid "Expected JSON punctuation."

/-- `ReadLiteral`. -/
def readLiteral : CsString → CsString → Except CsException CsString
  | [], source => .ok source
  | _ :: _, [] => invalid "Invalid JSON literal."
  | expected :: literal, unit :: source =>
      if unit = expected then readLiteral literal source else invalid "Invalid JSON literal."

/-! ## Strings -/

/-- `ReadHexCodeUnit`. -/
def readHexCodeUnit : CsString → Except CsException (CodeUnit × CsString)
  | first :: second :: third :: fourth :: rest =>
      match hexUnit? first.val second.val third.val fourth.val with
      | some unit => .ok (unit, rest)
      | none => invalid "Invalid Unicode escape."
  | _ => invalid "Incomplete Unicode escape."

/-- `ReadUnicodeEscape`. -/
def readUnicodeEscape (source : CsString) : Except CsException (CsString × CsString) := do
  let (first, source) ← readHexCodeUnit source
  if !first.isHighSurrogate then
    if first.isLowSurrogate then invalid "Malformed Unicode surrogate." else
      return ([first], source)
  else
    match source with
    | backslash :: letter :: source =>
        if backslash ≠ CodeUnit.ofChar '\\' ∨ letter ≠ CodeUnit.ofChar 'u' then
          invalid "Malformed Unicode surrogate pair."
        else do
          let (second, source) ← readHexCodeUnit source
          if !second.isLowSurrogate then invalid "Malformed Unicode surrogate pair."
          else return ([first, second], source)
    | _ => invalid "Malformed Unicode surrogate pair."

/-- What an escape stands for, behind its backslash. -/
def readEscape : CsString → Except CsException (CsString × CsString)
  | [] => invalid "Incomplete JSON escape."
  | escape :: source =>
      if escape = CodeUnit.ofChar 'u' then readUnicodeEscape source
      else
        match escape? escape.val with
        | some unit => .ok ([unit], source)
        | none => invalid "Invalid JSON escape."

/-- A character that stands for itself; a surrogate takes its pair along. -/
def readPlain (unit : CodeUnit) (source : CsString) : Except CsException (CsString × CsString) :=
  if unit.isSurrogate then
    if !unit.isHighSurrogate then invalid "Malformed Unicode surrogate."
    else
      match source with
      | [] => invalid "Malformed Unicode surrogate pair."
      | low :: source =>
          if !low.isLowSurrogate then invalid "Malformed Unicode surrogate pair."
          else .ok ([unit, low], source)
  else .ok ([unit], source)

/-- One round of the loop of `ReadString`, behind the checks of the character. -/
def readCharacter (unit : CodeUnit) (source : CsString) :
    Except CsException (CsString × CsString) :=
  if unit ≠ CodeUnit.ofChar '\\' then readPlain unit source else readEscape source

/-- The loop of `ReadString`. -/
def readCharacters : ℕ → CsString → Except CsException (CsString × CsString)
  | 0, _ => .error .cutOff
  | _ + 1, [] => invalid "Unterminated JSON string."
  | rounds + 1, unit :: source =>
      if unit = CodeUnit.ofChar '"' then .ok ([], source)
      else if unit.val < 0x20 then invalid "Control character in JSON string."
      else do
        let (text, source) ← readCharacter unit source
        let (rest, source) ← readCharacters rounds source
        return (text ++ rest, source)

/-- `ReadString`. -/
def readString (source : CsString) : Except CsException (CsString × CsString) := do
  let source ← require '"' source
  readCharacters (source.length + 1) source

/-! ## Numbers -/

/-- `RequireDigit`. -/
def requireDigit : CsString → Except CsException CsString
  | [] => invalid "Invalid JSON number."
  | unit :: rest => if isDigit unit then .ok rest else invalid "Invalid JSON number."

/-- `RequireDigit` and the loop over the digits behind it. -/
def requireDigits (source : CsString) : Except CsException CsString := do
  let rest ← requireDigit source
  return rest.dropWhile isDigit

/-- Behind the integer part. -/
def integerEnd (source : CsString) : Except CsException CsString :=
  match consume? '0' source with
  | some [] => .ok []
  | some (unit :: rest) =>
      if isDigit unit then invalid "Invalid JSON number." else .ok (unit :: rest)
  | none => requireDigits source

/-- Behind the fraction, if there is one. -/
def fractionEnd (source : CsString) : Except CsException CsString :=
  match consume? '.' source with
  | some rest => requireDigits rest
  | none => .ok source

/-- Behind the sign of an exponent, if there is one. -/
def signEnd : CsString → CsString
  | [] => []
  | unit :: rest =>
      if unit = CodeUnit.ofChar '+' ∨ unit = CodeUnit.ofChar '-' then rest else unit :: rest

/-- Behind the exponent, if there is one. -/
def exponentEnd : CsString → Except CsException CsString
  | [] => .ok []
  | unit :: rest =>
      if unit = CodeUnit.ofChar 'e' ∨ unit = CodeUnit.ofChar 'E' then requireDigits (signEnd rest)
      else .ok (unit :: rest)

/-- `ReadNumber`: the text of the number. -/
def readNumber (source : CsString) : Except CsException (CsString × CsString) := do
  let unsigned := (consume? '-' source).getD source
  if unsigned.isEmpty then invalid "Invalid JSON number."
  else
    let rest ← integerEnd unsigned
    let rest ← fractionEnd rest
    let rest ← exponentEnd rest
    return (source.take (source.length - rest.length), rest)

/-! ## Values -/

section Containers

variable (readValue : CsString → Except CsException (JsonValue × CsString))

/-- The loop of `ReadObject`. -/
def readMembers : ℕ → List (CsString × JsonValue) → CsString →
    Except CsException (JsonValue × CsString)
  | 0, _, _ => .error .cutOff
  | rounds + 1, members, source => do
      let source := skipWhitespace source
      if source.head? ≠ some (CodeUnit.ofChar '"') then
        invalid "Object property name is required."
      else
        let (name, source) ← readString source
        if name ∈ members.map Prod.fst then invalid "Duplicate JSON property."
        else
          let source ← require ':' (skipWhitespace source)
          let (value, source) ← readValue source
          let members := members ++ [(name, value)]
          match consume? '}' (skipWhitespace source) with
          | some source => return (.obj members, source)
          | none =>
              let source ← require ',' (skipWhitespace source)
              readMembers rounds members source

/-- `ReadObject`, behind the brace. -/
def readObject (source : CsString) : Except CsException (JsonValue × CsString) :=
  match consume? '}' (skipWhitespace source) with
  | some source => .ok (.obj [], source)
  | none => readMembers readValue (source.length + 1) [] (skipWhitespace source)

/-- The loop of `ReadArray`. -/
def readItems : ℕ → List JsonValue → CsString → Except CsException (JsonValue × CsString)
  | 0, _, _ => .error .cutOff
  | rounds + 1, items, source => do
      let (item, source) ← readValue source
      let items := items ++ [item]
      match consume? ']' (skipWhitespace source) with
      | some source => return (.arr items, source)
      | none =>
          let source ← require ',' (skipWhitespace source)
          readItems rounds items source

/-- `ReadArray`, behind the bracket. -/
def readArray (source : CsString) : Except CsException (JsonValue × CsString) :=
  match consume? ']' (skipWhitespace source) with
  | some source => .ok (.arr [], source)
  | none => readItems readValue (source.length + 1) [] (skipWhitespace source)

end Containers

/-- `ReadValue` at depth `maximumDepth + 1 - levels`. -/
def readValue : ℕ → CsString → Except CsException (JsonValue × CsString)
  | 0, _ => invalid "JSON nesting exceeds limit."
  | levels + 1, source =>
      match skipWhitespace source with
      | [] => invalid "JSON value is missing."
      | unit :: source =>
          if unit = CodeUnit.ofChar '{' then readObject (readValue levels) source
          else if unit = CodeUnit.ofChar '[' then readArray (readValue levels) source
          else if unit = CodeUnit.ofChar '"' then
            (readString (unit :: source)).map fun read => (.str read.1, read.2)
          else if unit = CodeUnit.ofChar 't' then
            (readLiteral (cs "true") (unit :: source)).map (.bool true, ·)
          else if unit = CodeUnit.ofChar 'f' then
            (readLiteral (cs "false") (unit :: source)).map (.bool false, ·)
          else if unit = CodeUnit.ofChar 'n' then
            (readLiteral (cs "null") (unit :: source)).map (.null, ·)
          else if unit = CodeUnit.ofChar '-' ∨ (48 ≤ unit.val ∧ unit.val ≤ 57) then
            (readNumber (unit :: source)).map fun read => (.num read.1, read.2)
          else invalid "Invalid JSON token."

/-- The limits on the size of a text. -/
def checkLimits (json : CsString) : Except CsException Unit :=
  if json.length > maximumCharacters then invalid "JSON exceeds character limit."
  else
    match getByteCount json with
    | none => invalid "JSON contains malformed Unicode."
    | some bytes => if bytes > maximumBytes then invalid "JSON exceeds byte limit." else .ok ()

/-- `Parse`. -/
def parse (json : CsString) : Except CsException JsonValue := do
  checkLimits json
  let (value, rest) ← readValue (maximumDepth + 1) json
  if !(skipWhitespace rest).isEmpty then invalid "JSON has trailing data."
  else return value

end StrictJsonParser

end ValeraControlTower.Unity
