import ValeraControlTower.Unity.StrictJsonParser

/-!
# `Parser` with its index

The reader as the source has it: every method is given the index and returns the one it
leaves behind, and a character is read at an index, which must lie inside of `source`.
Loops have a bound on their rounds, `ReadValue` one on the calls that wait for each other.
-/

namespace ValeraControlTower.Unity

open Unicode Json CsString

namespace StrictJsonParser.Parser

variable (source : CsString)

/-! ## Characters -/

/-- `AtEnd`. -/
def atEnd (index : ℕ) : Bool := index == source.length

/-- `source[index]`. -/
def charAt (index : ℕ) : Except CsException CodeUnit :=
  match source[index]? with
  | some unit => .ok unit
  | none => .error .indexOutOfRangeException

/-- `source.Substring(start, end - start)`. -/
def substring (first last : ℕ) : Except CsException CsString :=
  if first ≤ last ∧ last ≤ source.length then .ok ((source.drop first).take (last - first))
  else .error (.argumentOutOfRangeException [])

/-- `while (!AtEnd && test(source[index])) index++`. -/
def skipWhile (test : CodeUnit → Bool) : ℕ → ℕ → Except CsException ℕ
  | 0, _ => .error .cutOff
  | rounds + 1, index =>
      if atEnd source index then .ok index
      else do
        let unit ← charAt source index
        if test unit then skipWhile test rounds (index + 1) else return index

/-- More rounds than characters are left. -/
def enoughRounds (index : ℕ) : ℕ := source.length - index + 1

/-- `SkipWhitespace`. -/
def skipWhitespace (index : ℕ) : Except CsException ℕ :=
  skipWhile source isWhitespace (enoughRounds source index) index

/-- `Consume`. -/
def consume (char : Char) (index : ℕ) : Except CsException (Bool × ℕ) :=
  if atEnd source index then .ok (false, index)
  else do
    let unit ← charAt source index
    if unit = CodeUnit.ofChar char then return (true, index + 1) else return (false, index)

/-- `Require`. -/
def require (char : Char) (index : ℕ) : Except CsException ℕ := do
  let index ← skipWhitespace source index
  let (consumed, index) ← consume source char index
  if consumed then return index else invalid "Expected JSON punctuation."

/-- `ReadLiteral`. -/
def readLiteral : CsString → ℕ → Except CsException ℕ
  | [], index => .ok index
  | expected :: literal, index =>
      if atEnd source index then invalid "Invalid JSON literal."
      else do
        let unit ← charAt source index
        if unit = expected then readLiteral literal (index + 1) else invalid "Invalid JSON literal."

/-! ## Strings -/

/-- The loop of `ReadHexCodeUnit`. -/
def readHexDigits : ℕ → ℕ → ℕ → Except CsException (ℕ × ℕ)
  | 0, value, index => .ok (value, index)
  | count + 1, value, index => do
      let unit ← charAt source index
      match hexDigit? unit.val with
      | some digit => readHexDigits count (value <<< 4 ||| digit.val) (index + 1)
      | none => invalid "Invalid Unicode escape."

/-- `ReadHexCodeUnit`. -/
def readHexCodeUnit (index : ℕ) : Except CsException (CodeUnit × ℕ) :=
  if index + 4 > source.length then invalid "Incomplete Unicode escape."
  else do
    let (value, index) ← readHexDigits source 4 0 index
    return (Fin.ofNat 0x10000 value, index)

/-- `ReadUnicodeEscape`. -/
def readUnicodeEscape (index : ℕ) : Except CsException (CsString × ℕ) := do
  let (first, index) ← readHexCodeUnit source index
  if !first.isHighSurrogate then
    if first.isLowSurrogate then invalid "Malformed Unicode surrogate." else return ([first], index)
  else if index + 2 > source.length then invalid "Malformed Unicode surrogate pair."
  else do
    let backslash ← charAt source index
    if backslash ≠ CodeUnit.ofChar '\\' then invalid "Malformed Unicode surrogate pair."
    else do
      let letter ← charAt source (index + 1)
      if letter ≠ CodeUnit.ofChar 'u' then invalid "Malformed Unicode surrogate pair."
      else do
        let (second, index) ← readHexCodeUnit source (index + 2)
        if !second.isLowSurrogate then invalid "Malformed Unicode surrogate pair."
        else return ([first, second], index)

/-- What an escape stands for, behind its backslash. -/
def readEscape (index : ℕ) : Except CsException (CsString × ℕ) :=
  if atEnd source index then invalid "Incomplete JSON escape."
  else do
    let escape ← charAt source index
    if escape = CodeUnit.ofChar 'u' then readUnicodeEscape source (index + 1)
    else
      match escape? escape.val with
      | some unit => return ([unit], index + 1)
      | none => invalid "Invalid JSON escape."

/-- A character that stands for itself; a surrogate takes its pair along. -/
def readPlain (unit : CodeUnit) (index : ℕ) : Except CsException (CsString × ℕ) :=
  if unit.isSurrogate then
    if !unit.isHighSurrogate then invalid "Malformed Unicode surrogate."
    else if atEnd source index then invalid "Malformed Unicode surrogate pair."
    else do
      let low ← charAt source index
      if !low.isLowSurrogate then invalid "Malformed Unicode surrogate pair."
      else return ([unit, low], index + 1)
  else .ok ([unit], index)

/-- One round of the loop of `ReadString`, behind the checks of the character. -/
def readCharacter (unit : CodeUnit) (index : ℕ) : Except CsException (CsString × ℕ) :=
  if unit ≠ CodeUnit.ofChar '\\' then readPlain source unit index else readEscape source index

/-- The loop of `ReadString`. -/
def readCharacters : ℕ → ℕ → Except CsException (CsString × ℕ)
  | 0, _ => .error .cutOff
  | rounds + 1, index =>
      if atEnd source index then invalid "Unterminated JSON string."
      else do
        let unit ← charAt source index
        if unit = CodeUnit.ofChar '"' then return ([], index + 1)
        else if unit.val < 0x20 then invalid "Control character in JSON string."
        else do
          let (text, index) ← readCharacter source unit (index + 1)
          let (rest, index) ← readCharacters rounds index
          return (text ++ rest, index)

/-- `ReadString`. -/
def readString (index : ℕ) : Except CsException (CsString × ℕ) := do
  let index ← require source '"' index
  readCharacters source (enoughRounds source index) index

/-! ## Numbers -/

/-- `RequireDigit`. -/
def requireDigit (index : ℕ) : Except CsException ℕ :=
  if atEnd source index then invalid "Invalid JSON number."
  else do
    let unit ← charAt source index
    if isDigit unit then return index + 1 else invalid "Invalid JSON number."

/-- `RequireDigit` and the loop over the digits behind it. -/
def requireDigits (index : ℕ) : Except CsException ℕ := do
  let index ← requireDigit source index
  skipWhile source isDigit (enoughRounds source index) index

/-- Behind the integer part. -/
def integerEnd (index : ℕ) : Except CsException ℕ := do
  let (zero, index) ← consume source '0' index
  if zero then
    if atEnd source index then return index
    else do
      let unit ← charAt source index
      if isDigit unit then invalid "Invalid JSON number." else return index
  else requireDigits source index

/-- Behind the fraction, if there is one. -/
def fractionEnd (index : ℕ) : Except CsException ℕ := do
  let (point, index) ← consume source '.' index
  if point then requireDigits source index else return index

/-- Behind the sign of an exponent, if there is one. -/
def signEnd (index : ℕ) : Except CsException ℕ :=
  if atEnd source index then .ok index
  else do
    let unit ← charAt source index
    if unit = CodeUnit.ofChar '+' ∨ unit = CodeUnit.ofChar '-' then return index + 1
    else return index

/-- Behind the exponent, if there is one. -/
def exponentEnd (index : ℕ) : Except CsException ℕ :=
  if atEnd source index then .ok index
  else do
    let unit ← charAt source index
    if unit = CodeUnit.ofChar 'e' ∨ unit = CodeUnit.ofChar 'E' then do
      let index ← signEnd source (index + 1)
      requireDigits source index
    else return index

/-- `ReadNumber`. -/
def readNumber (start : ℕ) : Except CsException (CsString × ℕ) := do
  let (_, index) ← consume source '-' start
  if atEnd source index then invalid "Invalid JSON number."
  else do
    let index ← integerEnd source index
    let index ← fractionEnd source index
    let index ← exponentEnd source index
    return (← substring source start index, index)

/-! ## Values -/

section Containers

variable (readValue : ℕ → Except CsException (JsonValue × ℕ))

/-- The loop of `ReadObject`. -/
def readMembers : ℕ → List (CsString × JsonValue) → ℕ → Except CsException (JsonValue × ℕ)
  | 0, _, _ => .error .cutOff
  | rounds + 1, members, index => do
      let index ← skipWhitespace source index
      if atEnd source index then invalid "Object property name is required."
      else do
        let unit ← charAt source index
        if unit ≠ CodeUnit.ofChar '"' then invalid "Object property name is required."
        else do
          let (name, index) ← readString source index
          if name ∈ members.map Prod.fst then invalid "Duplicate JSON property."
          else do
            let index ← skipWhitespace source index
            let index ← require source ':' index
            let (value, index) ← readValue index
            let members := members ++ [(name, value)]
            let index ← skipWhitespace source index
            let (closed, index) ← consume source '}' index
            if closed then return (.obj members, index)
            else do
              let index ← require source ',' index
              readMembers rounds members index

/-- `ReadObject`; the caller has seen the brace. -/
def readObject (index : ℕ) : Except CsException (JsonValue × ℕ) := do
  let index := index + 1
  let start ← skipWhitespace source index
  let (closed, start) ← consume source '}' start
  if closed then return (.obj [], start)
  else readMembers source readValue (enoughRounds source index) [] start

/-- The loop of `ReadArray`. -/
def readItems : ℕ → List JsonValue → ℕ → Except CsException (JsonValue × ℕ)
  | 0, _, _ => .error .cutOff
  | rounds + 1, items, index => do
      let (item, index) ← readValue index
      let items := items ++ [item]
      let index ← skipWhitespace source index
      let (closed, index) ← consume source ']' index
      if closed then return (.arr items, index)
      else do
        let index ← require source ',' index
        readItems rounds items index

/-- `ReadArray`; the caller has seen the bracket. -/
def readArray (index : ℕ) : Except CsException (JsonValue × ℕ) := do
  let index := index + 1
  let start ← skipWhitespace source index
  let (closed, start) ← consume source ']' start
  if closed then return (.arr [], start)
  else readItems source readValue (enoughRounds source index) [] start

end Containers

/-- `ReadValue`, with a bound on the calls that wait for each other. -/
def readValue : ℕ → ℕ → ℕ → Except CsException (JsonValue × ℕ)
  | 0, _, _ => .error .cutOff
  | calls + 1, depth, index =>
      if depth > maximumDepth then invalid "JSON nesting exceeds limit."
      else do
        let index ← skipWhitespace source index
        if atEnd source index then invalid "JSON value is missing."
        else do
          let unit ← charAt source index
          if unit = CodeUnit.ofChar '{' then readObject source (readValue calls (depth + 1)) index
          else if unit = CodeUnit.ofChar '[' then
            readArray source (readValue calls (depth + 1)) index
          else if unit = CodeUnit.ofChar '"' then
            (readString source index).map fun read => (.str read.1, read.2)
          else if unit = CodeUnit.ofChar 't' then
            (readLiteral source (cs "true") index).map (.bool true, ·)
          else if unit = CodeUnit.ofChar 'f' then
            (readLiteral source (cs "false") index).map (.bool false, ·)
          else if unit = CodeUnit.ofChar 'n' then
            (readLiteral source (cs "null") index).map (.null, ·)
          else if unit = CodeUnit.ofChar '-' ∨ (48 ≤ unit.val ∧ unit.val ≤ 57) then
            (readNumber source index).map fun read => (.num read.1, read.2)
          else invalid "Invalid JSON token."

/-- `Parse`, on a stack for this many calls of `ReadValue`. -/
def parse (calls : ℕ) : Except CsException JsonValue := do
  checkLimits source
  let (value, index) ← readValue source calls 0 0
  let index ← skipWhitespace source index
  if !atEnd source index then invalid "JSON has trailing data." else return value

end StrictJsonParser.Parser

end ValeraControlTower.Unity
