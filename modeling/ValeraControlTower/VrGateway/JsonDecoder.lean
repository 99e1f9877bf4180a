import ValeraControlTower.Library.Json
import ValeraControlTower.VrGateway.Python

/-!
# The `json` decoder of the standard library

`json.JSONDecoder.raw_decode` with the hooks a caller passes.  Every recursive call
reads on in the text, so a bound on the calls that exceeds twice the length of the text
is never met; it raises `RecursionError`, as running out of stack would.  The position
that a `JSONDecodeError` adds to its message is left out.
-/

namespace ValeraControlTower

open Unicode Json

/-- A decoded number: `int` for a literal without fraction and exponent. -/
inductive PyNumber (K : Type) where
  | int (value : ℤ)
  | float (value : PyFloat K)

/-- A decoded document: `dict`, `list`, `str`, `int`, `float`, `bool` or `None`. -/
abbrev PyJson (K : Type) := Tree PyStr (PyNumber K)

abbrev PyPairs (K : Type) := List (PyStr × PyJson K)

/-- The arguments of `json.JSONDecoder`. -/
structure DecoderHooks (K : Type) where
  objectPairsHook : PyPairs K → Except PyException (PyJson K)
  parseConstant : String → Except PyException (PyJson K)
  parseInt : Numeral → Except PyException ℤ
  parseFloat : Numeral → PyFloat K

/-- The number of digits `int` accepts in a string. -/
def intMaxStrDigits : ℕ := 4300

/-- `int` on an integer literal. -/
def parseInt (numeral : Numeral) : Except PyException ℤ :=
  if intMaxStrDigits < numeral.integer.length then .error .valueError else .ok numeral.intValue

/-- `float` on a literal; an overflow gives an infinity. -/
def parseFloat {K : Type} (M : FloatMath K) (numeral : Numeral) : PyFloat K :=
  match M.ofRat numeral.value with
  | some value => .finite value
  | none => .infinity numeral.negative

namespace JsonDecoder

variable {K : Type}

/-- `[ \t\n\r]`. -/
def isWhitespace (point : CodePoint) : Bool :=
  point = CodePoint.ofChar ' ' || point = CodePoint.ofChar '\t' ||
    point = CodePoint.ofChar '\n' || point = CodePoint.ofChar '\r'

def skipWhitespace (text : PyStr) : PyStr := text.dropWhile isWhitespace

/-- The text behind a character, if it starts with it. -/
def consume? (char : Char) (text : PyStr) : Option PyStr :=
  match text with
  | [] => none
  | point :: rest => if point = CodePoint.ofChar char then some rest else none

/-- The text behind a literal, if it starts with it. -/
def consumeAll? : List Char → PyStr → Option PyStr
  | [], text => some text
  | char :: literal, text => (consume? char text).bind (consumeAll? literal)

/-- `scanstring` behind the opening quote, in strict mode.  The code units of escapes and
of the text between them are collected; the text holds no surrogate of its own. -/
def scanString : PyStr → Except PyException (List CodeUnit × PyStr)
  | [] => .error (.jsonDecodeError "Unterminated string starting at")
  | point :: text =>
      if point = CodePoint.ofChar '"' then .ok ([], text)
      else if point = CodePoint.ofChar '\\' then
        match text with
        | [] => .error (.jsonDecodeError "Unterminated string starting at")
        | letter :: text =>
            if letter = CodePoint.ofChar 'u' then
              match text with
              | first :: second :: third :: fourth :: text =>
                  match hexUnit? first.val second.val third.val fourth.val with
                  | some unit => (scanString text).map fun read => (unit :: read.1, read.2)
                  | none => .error (.jsonDecodeError "Invalid \\uXXXX escape")
              | _ => .error (.jsonDecodeError "Invalid \\uXXXX escape")
            else
              match escape? letter.val with
              | some unit => (scanString text).map fun read => (unit :: read.1, read.2)
              | none => .error (.jsonDecodeError "Invalid \\escape")
      else if point.val < 0x20 then .error (.jsonDecodeError "Invalid control character at")
      else (scanString text).map fun read => (point.units ++ read.1, read.2)

/-- The number a literal stands for: `parse_float` if it has a fraction or an exponent. -/
def number (hooks : DecoderHooks K) (numeral : Numeral) : Except PyException (PyJson K) :=
  if numeral.isInteger then (hooks.parseInt numeral).map fun value => .num (.int value)
  else .ok (.num (.float (hooks.parseFloat numeral)))

/-- A constant at the head of the text. -/
def constant (hooks : DecoderHooks K) (text : PyStr) :
    Except PyException (PyJson K × PyStr) :=
  match consumeAll? "null".toList text with
  | some rest => .ok (.null, rest)
  | none =>
  match consumeAll? "true".toList text with
  | some rest => .ok (.bool true, rest)
  | none =>
  match consumeAll? "false".toList text with
  | some rest => .ok (.bool false, rest)
  | none =>
  match consumeAll? "NaN".toList text with
  | some rest => (hooks.parseConstant "NaN").map (·, rest)
  | none =>
  match consumeAll? "Infinity".toList text with
  | some rest => (hooks.parseConstant "Infinity").map (·, rest)
  | none =>
  match consumeAll? "-Infinity".toList text with
  | some rest => (hooks.parseConstant "-Infinity").map (·, rest)
  | none => .error (.jsonDecodeError "Expecting value")

/-- A number or a constant. -/
def scanAtom (hooks : DecoderHooks K) (text : PyStr) : Except PyException (PyJson K × PyStr) :=
  match Numeral.scan text with
  | some (numeral, rest) => (number hooks numeral).map (·, rest)
  | none => constant hooks text

mutual

/-- `scan_once`. -/
def scanOnce (hooks : DecoderHooks K) : ℕ → PyStr → Except PyException (PyJson K × PyStr)
  | 0, _ => .error .recursionError
  | calls + 1, text =>
      match consume? '"' text with
      | some text => (scanString text).map fun read => (.str (codePoints read.1), read.2)
      | none =>
      match consume? '{' text with
      | some text =>
          match consume? '}' (skipWhitespace text) with
          | some rest => (hooks.objectPairsHook []).map (·, rest)
          | none => do
              let (pairs, rest) ← scanMembers hooks calls (skipWhitespace text)
              let value ← hooks.objectPairsHook pairs
              return (value, rest)
      | none =>
      match consume? '[' text with
      | some text =>
          match consume? ']' (skipWhitespace text) with
          | some rest => .ok (.arr [], rest)
          | none => do
              let (items, rest) ← scanItems hooks calls (skipWhitespace text)
              return (.arr items, rest)
      | none => scanAtom hooks text

/-- The members of an object, up to the closing brace. -/
def scanMembers (hooks : DecoderHooks K) : ℕ → PyStr → Except PyException (PyPairs K × PyStr)
  | 0, _ => .error .recursionError
  | calls + 1, text =>
      match consume? '"' text with
      | none =>
          .error (.jsonDecodeError "Expecting property name enclosed in double quotes")
      | some text => do
          let (key, text) ← scanString text
          match consume? ':' (skipWhitespace text) with
          | none => .error (.jsonDecodeError "Expecting ':' delimiter")
          | some text => do
              let (value, text) ← scanOnce hooks calls (skipWhitespace text)
              match consume? '}' (skipWhitespace text) with
              | some rest => return ([(codePoints key, value)], rest)
              | none =>
              match consume? ',' (skipWhitespace text) with
              | none => .error (.jsonDecodeError "Expecting ',' delimiter")
              | some text => do
                  let (pairs, rest) ← scanMembers hooks calls (skipWhitespace text)
                  return ((codePoints key, value) :: pairs, rest)

/-- The items of an array, up to the closing bracket. -/
def scanItems (hooks : DecoderHooks K) :
    ℕ → PyStr → Except PyException (List (PyJson K) × PyStr)
  | 0, _ => .error .recursionError
  | calls + 1, text => do
      let (item, text) ← scanOnce hooks calls text
      match consume? ']' (skipWhitespace text) with
      | some rest => return ([item], rest)
      | none =>
      match consume? ',' (skipWhitespace text) with
      | none => .error (.jsonDecodeError "Expecting ',' delimiter")
      | some text => do
          let (items, rest) ← scanItems hooks calls (skipWhitespace text)
          return (item :: items, rest)

end

/-- `raw_decode`. -/
def rawDecode (hooks : DecoderHooks K) (text : PyStr) : Except PyException (PyJson K × PyStr) :=
  scanOnce hooks (2 * text.length + 1) text

end JsonDecoder

end ValeraControlTower
