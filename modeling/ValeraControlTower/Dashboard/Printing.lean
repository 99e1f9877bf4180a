import ValeraControlTower.VrGateway.WireEvents

/-!
# How Python writes values

`str`, `json.dumps` and `html.escape` on what `json.loads` returns.
-/

namespace ValeraControlTower

open Unicode Json

namespace Dashboard

/-- What the interpreter brings in: its floats, the printable characters of its Unicode
version, and the working directory. -/
structure Host (K : Type) where
  math : FloatMath K
  isprintable : CodePoint → Bool
  cwd : PyStr

variable {K : Type}

/-! ## `str` and `repr` -/

/-- A number in lower-case hexadecimal, with as many digits. -/
def hexDigits (code : ℕ) : ℕ → List Char
  | 0 => []
  | digits + 1 => JsonEncoder.hexChar (code / 16 ^ digits % 16) :: hexDigits code digits

/-- One character of the `repr` of a string in these quotes. -/
def reprChar (host : Host K) (quote point : CodePoint) : PyStr :=
  if point = quote ∨ point = CodePoint.ofChar '\\' then [CodePoint.ofChar '\\', point]
  else if point = CodePoint.ofChar '\t' then py "\\t"
  else if point = CodePoint.ofChar '\n' then py "\\n"
  else if point = CodePoint.ofChar '\r' then py "\\r"
  else if point.val < 0x20 ∨ point.val = 0x7F then py "\\x" ++ ofChars (hexDigits point.val 2)
  else if point.val < 0x7F ∨ host.isprintable point then [point]
  else if point.val ≤ 0xFF then py "\\x" ++ ofChars (hexDigits point.val 2)
  else if point.val ≤ 0xFFFF then py "\\u" ++ ofChars (hexDigits point.val 4)
  else py "\\U" ++ ofChars (hexDigits point.val 8)

/-- `repr` of a string: double quotes only around a string with single ones alone. -/
def reprStr (host : Host K) (text : PyStr) : PyStr :=
  let quote :=
    if CodePoint.ofChar '\'' ∈ text ∧ CodePoint.ofChar '"' ∉ text then CodePoint.ofChar '"'
    else CodePoint.ofChar '\''
  quote :: (text.flatMap (reprChar host quote) ++ [quote])

/-- `repr` of a number. -/
def reprNumber (host : Host K) : PyNumber K → Except PyException PyStr
  | .int value => (JsonEncoder.encodeInt value).map ofChars
  | .float (.finite value) => .ok (ofChars (host.math.repr value))
  | .float (.infinity negative) => .ok (py (if negative then "-inf" else "inf"))
  | .float .nan => .ok (py "nan")

mutual

/-- `repr`. -/
def repr (host : Host K) : PyJson K → Except PyException PyStr
  | .null => .ok (py "None")
  | .bool value => .ok (py (if value then "True" else "False"))
  | .num value => reprNumber host value
  | .str text => .ok (reprStr host text)
  | .arr items => do
      let texts ← reprItems host items
      return py "[" ++ (py ", ").intercalate texts ++ py "]"
  | .obj members => do
      let texts ← reprMembers host members
      return py "\x7b" ++ (py ", ").intercalate texts ++ py "\x7d"

def reprItems (host : Host K) : List (PyJson K) → Except PyException (List PyStr)
  | [] => .ok []
  | item :: items => do
      let text ← repr host item
      let texts ← reprItems host items
      return text :: texts

def reprMembers (host : Host K) : PyPairs K → Except PyException (List PyStr)
  | [] => .ok []
  | (key, value) :: members => do
      let text ← repr host value
      let texts ← reprMembers host members
      return (reprStr host key ++ py ": " ++ text) :: texts

end

/-- `str`. -/
def str (host : Host K) : PyJson K → Except PyException PyStr
  | .str text => .ok text
  | value => repr host value

/-! ## `json.dumps` -/

/-- A line break and the indent of a level. -/
def newline (level : ℕ) : PyStr := py "\n" ++ List.replicate (2 * level) (CodePoint.ofChar ' ')

/-- A number of a document, with `allow_nan=True`. -/
def dumpsNumber (host : Host K) : PyNumber K → Except PyException PyStr
  | .int value => (JsonEncoder.encodeInt value).map ofChars
  | .float (.finite value) => .ok (ofChars (host.math.repr value))
  | .float (.infinity negative) => .ok (py (if negative then "-Infinity" else "Infinity"))
  | .float .nan => .ok (py "NaN")

/-- The lines of a container. -/
def block (level : ℕ) (opening closing : String) (lines : List PyStr) : PyStr :=
  py opening ++ newline (level + 1) ++ (py "," ++ newline (level + 1)).intercalate lines ++
    newline level ++ py closing

/-- `sorted(dct.items())`, of members that are written. -/
def sortedMembers (members : List (PyStr × PyStr)) : List (PyStr × PyStr) :=
  members.insertionSort fun first second => first.1 ≤ second.1

mutual

/-- `json.dumps(value, indent=2, sort_keys=True)`, from a level on. -/
def dumps (host : Host K) (level : ℕ) : PyJson K → Except PyException PyStr
  | .null => .ok (py "null")
  | .bool value => .ok (py (if value then "true" else "false"))
  | .num value => dumpsNumber host value
  | .str text => .ok (ofChars (JsonEncoder.encodeString text))
  | .arr [] => .ok (py "[]")
  | .arr items => do
      let texts ← dumpsItems host (level + 1) items
      return block level "[" "]" texts
  | .obj [] => .ok (py "\x7b\x7d")
  | .obj members => do
      let texts ← dumpsMembers host (level + 1) members
      return block level "\x7b" "\x7d" ((sortedMembers texts).map fun member =>
        ofChars (JsonEncoder.encodeString member.1) ++ py ": " ++ member.2)

def dumpsItems (host : Host K) (level : ℕ) : List (PyJson K) → Except PyException (List PyStr)
  | [] => .ok []
  | item :: items => do
      let text ← dumps host level item
      let texts ← dumpsItems host level items
      return text :: texts

def dumpsMembers (host : Host K) (level : ℕ) :
    PyPairs K → Except PyException (List (PyStr × PyStr))
  | [] => .ok []
  | (key, value) :: members => do
      let text ← dumps host level value
      let texts ← dumpsMembers host level members
      return (key, text) :: texts

end

/-! ## `html.escape` -/

/-- One character, with `quote=True`. -/
def escapeChar (point : CodePoint) : PyStr :=
  if point = CodePoint.ofChar '&' then py "&amp;"
  else if point = CodePoint.ofChar '<' then py "&lt;"
  else if point = CodePoint.ofChar '>' then py "&gt;"
  else if point = CodePoint.ofChar '"' then py "&quot;"
  else if point = CodePoint.ofChar '\'' then py "&#x27;"
  else [point]

/-- `escape(text, quote=True)`. -/
def escape (text : PyStr) : PyStr := text.flatMap escapeChar

/-- A host with the floats of whole numbers, whose printable characters are those of ASCII. -/
def Host.ascii (cwd : PyStr) : Host ℚ := ⟨.axis, fun point => decide (point.val < 0x7F), cwd⟩

example :
    (dumps (Host.ascii []) 0 (.obj [(py "b", .arr [.null]), (py "a", .str (py "x'"))])).toOption =
    some (py "\x7b\n  \"a\": \"x'\",\n  \"b\": [\n    null\n  ]\n\x7d") := by
  decide

end Dashboard

end ValeraControlTower
