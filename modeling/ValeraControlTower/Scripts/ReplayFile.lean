import ValeraControlTower.Library.Failures
import ValeraControlTower.Scripts.PhysicalDemoOutput
import ValeraControlTower.VrGateway.DecoderCompleteness
import ValeraControlTower.VrGateway.EventText

/-!
# The file of a replay

The missions write their logs with an indent of two, as objects whose members keep their order,
and the dashboard and the check read them with `json.loads`.  What comes back of a value is its
rereading: surrogates next to each other are joined, and of the values of a key the last stays.
-/

namespace ValeraControlTower

open Unicode Json Robot Failures JsonEncoder JsonDecoder

namespace Scripts

variable {K : Type}

/-! ## The text -/

/-- A call within others: the room that is left for the calls within it. -/
def enter : ℕ → Except PyException ℕ
  | 0 => .error .recursionError
  | room + 1 => .ok room

/-- A number; `floatstr` is a call of its own, `int.__repr__` is not one of the interpreter's. -/
def dumpsNumber (host : Dashboard.Host K) (room : ℕ) : PyNumber K → Except PyException PyStr
  | .int value => Dashboard.dumpsNumber host (.int value)
  | .float value => do
      let _ ← enter room
      Dashboard.dumpsNumber host (.float value)

mutual

/-- `json.dumps(value, indent=2)`, from a level on.  With an indent the text comes from generators
in Python, one within the other for the containers that are open. -/
def dumps (host : Dashboard.Host K) (room level : ℕ) : PyJson K → Except PyException PyStr
  | .null => .ok (py "null")
  | .bool value => .ok (py (if value then "true" else "false"))
  | .num value => dumpsNumber host room value
  | .str text => .ok (ofChars (encodeString text))
  | .arr [] => do
      let _ ← enter room
      return py "[]"
  | .arr items => do
      let room ← enter room
      let texts ← dumpsItems host room (level + 1) items
      return Dashboard.block level "[" "]" texts
  | .obj [] => do
      let _ ← enter room
      return py "\x7b\x7d"
  | .obj members => do
      let room ← enter room
      let texts ← dumpsMembers host room (level + 1) members
      return Dashboard.block level "\x7b" "\x7d" texts

def dumpsItems (host : Dashboard.Host K) (room level : ℕ) :
    List (PyJson K) → Except PyException (List PyStr)
  | [] => .ok []
  | item :: items => do
      let text ← dumps host room level item
      let texts ← dumpsItems host room level items
      return text :: texts

def dumpsMembers (host : Dashboard.Host K) (room level : ℕ) :
    PyPairs K → Except PyException (List PyStr)
  | [] => .ok []
  | (key, value) :: members => do
      let text ← dumps host room level value
      let texts ← dumpsMembers host room level members
      return (ofChars (encodeString key) ++ py ": " ++ text) :: texts

end

/-- The events of a log, as a list of dictionaries. -/
def replayEvents (eventLog : TaskEventLog K) : PyJson K :=
  .arr (eventLog.events.map fun event => .obj event.toDict)

/-- `json.dumps([event.to_dict() for event in event_log.events], indent=2) + "\n"`. -/
def replayText (host : Dashboard.Host K) (room : ℕ) (eventLog : TaskEventLog K) :
    Except PyException PyStr := do
  let text ← dumps host room 0 (replayEvents eventLog)
  return text ++ py "\n"

/-- The text `write_replay` of `scripts/run_demo.py` writes. -/
def writeReplay (host : Dashboard.Host K) (room : ℕ) (eventLog : TaskEventLog K) :
    Except PyException PyStr :=
  replayText host room eventLog

/-- The text `write_hybrid_replay` writes. -/
def writeHybridReplay (host : Dashboard.Host K) (room : ℕ) (eventLog : TaskEventLog K) :
    Except PyException PyStr :=
  replayText host room eventLog

/-- The text `write_physical_demo_replay` writes. -/
def writePhysicalDemoReplay (host : Dashboard.Host K) (room : ℕ) (eventLog : TaskEventLog K) :
    Except PyException PyStr :=
  replayText host room eventLog

/-! ## Rereading -/

/-- The string, with surrogates next to each other joined. -/
def joined (text : PyStr) : PyStr := codePoints (units text)

mutual

/-- What comes back of a value. -/
def reread : PyJson K → PyJson K
  | .null => .null
  | .bool value => .bool value
  | .num value => .num value
  | .str text => .str (joined text)
  | .arr items => .arr (rereadItems items)
  | .obj members => .obj ((rereadMembers members).foldl setItem [])

def rereadItems : List (PyJson K) → List (PyJson K)
  | [] => []
  | item :: items => reread item :: rereadItems items

def rereadMembers : PyPairs K → PyPairs K
  | [] => []
  | (key, value) :: members => (joined key, reread value) :: rereadMembers members

end

/-- `float` reads what `repr` writes of the number, if that is a finite float. -/
def FloatReturns (M : FloatMath K) (number : PyNumber K) : Prop :=
  ∀ value, number = .float (.finite value) → ∃ numeral : Numeral, numeral.WellFormed ∧
    numeral.isInteger = false ∧ M.repr value = numeral.text ∧ M.ofRat numeral.value = some value

/-- The text starts with a character that is neither blank nor ends a value. -/
def Solid (text : PyStr) : Prop :=
  ∃ char after, text = CodePoint.ofChar char :: after ∧ separator char = false

/-- The text of a value is read, wherever a value may stand, as its rereading, and has as many
containers open as the value. -/
structure Rereads (M : FloatMath K) (text : PyStr) (value : PyJson K) : Prop where
  solid : Solid text
  noMark : text.head? ≠ some (CodePoint.ofChar '\uFEFF')
  scans : ∀ calls rest, 2 * text.length < calls → Numeral.Closed rest →
    scanOnce (loadsHooks M) calls (text ++ rest) = .ok (reread value, rest)
  levels : ∀ calls rest, 2 * text.length < calls → Numeral.Closed rest →
    mostOpen (loadsHooks M) calls (text ++ rest) = value.nesting

/-- The line of a member. -/
inductive RereadsMember (M : FloatMath K) : PyStr → PyStr × PyJson K → Prop where
  | member (key : PyStr) {text : PyStr} {value : PyJson K} (rereads : Rereads M text value) :
      RereadsMember M (ofChars (encodeString key) ++ py ": " ++ text) (key, value)

section Read

variable {M : FloatMath K} {host : Dashboard.Host K} {text : PyStr} {texts : List PyStr}
  {value : PyJson K} {items : List (PyJson K)} {members : PyPairs K}

theorem Solid.append (solid : Solid text) (rest : PyStr) : Solid (text ++ rest) := by
  obtain ⟨char, after, rfl, isSolid⟩ := solid
  exact ⟨char, after ++ rest, rfl, isSolid⟩

theorem Solid.skip (solid : Solid text) (rest : PyStr) :
    skipWhitespace (text ++ rest) = text ++ rest := by
  obtain ⟨char, after, rfl, isSolid⟩ := solid
  simp only [separator, Bool.or_eq_false_iff] at isSolid
  exact skipWhitespace_solid isSolid.1.1.1.1 _

theorem Solid.goesOn (solid : Solid text) {closing : Char} (ends : separator closing = true)
    (rest : PyStr) : consume? closing (text ++ rest) = none := by
  obtain ⟨char, after, rfl, isSolid⟩ := solid
  apply consume?_other
  rintro rfl
  rw [isSolid] at ends
  cases ends

/-! ## Scalars -/

/-- A literal is read by `scanAtom`, and opens nothing. -/
theorem rereads_numeral {numeral : Numeral} (wellFormed : numeral.WellFormed)
    {number : PyNumber K} (read : JsonDecoder.number (loadsHooks M) numeral = .ok (.num number)) :
    Rereads M (ofChars numeral.text) (.num number) := by
  obtain ⟨char, after, same, start⟩ := numeral_head wellFormed
  have other : char ≠ '"' ∧ char ≠ '{' ∧ char ≠ '[' ∧ char ≠ '\uFEFF' ∧
      separator char = false := by
    rcases start with rfl | ⟨digit, rfl⟩
    · decide
    · clear same
      revert digit
      decide
  constructor
  · exact ⟨char, ofChars after, by rw [same, ofChars_cons], other.2.2.2.2⟩
  · rw [same, ofChars_cons]
    exact fun isMark => other.2.2.2.1 (CodePoint.ofChar_inj.mp (Option.some.inj isMark))
  · intro calls rest enough closed
    obtain ⟨calls, rfl⟩ := exists_pred enough
    rw [scanOnce_literal _ _ wellFormed,
      scanAtom_numeral _ (Numeral.scan_ofChars wellFormed closed), read]
    rfl
  · intro calls rest enough _
    obtain ⟨calls, rfl⟩ := exists_pred enough
    rw [same, ofChars_cons, List.cons_append, mostOpen, consume?_other other.1,
      consume?_other other.2.1, consume?_other other.2.2.1]
    rfl

/-- So is a word with nothing open. -/
theorem rereads_word {word : String} (char : Char) (after : List Char)
    (spelled : word.toList = char :: after) (solid : separator char = false ∧ char ≠ '\uFEFF')
    (scans : ∀ calls rest, scanOnce (loadsHooks M) (calls + 1)
      (ofChars (char :: after) ++ rest) = .ok (reread value, rest))
    (levels : ∀ calls rest, mostOpen (loadsHooks M) (calls + 1)
      (ofChars (char :: after) ++ rest) = value.nesting) :
    Rereads M (py word) value := by
  have isWord : py word = ofChars (char :: after) := congrArg ofChars spelled
  rw [isWord]
  constructor
  · exact ⟨char, ofChars after, rfl, solid.1⟩
  · exact fun isMark => solid.2 (CodePoint.ofChar_inj.mp (Option.some.inj isMark))
  · intro calls rest enough _
    obtain ⟨calls, rfl⟩ := exists_pred enough
    exact scans calls rest
  · intro calls rest enough _
    obtain ⟨calls, rfl⟩ := exists_pred enough
    exact levels calls rest

theorem rereads_number {number : PyNumber K}
    (written : Dashboard.dumpsNumber host number = .ok text)
    (returns : FloatReturns host.math number) : Rereads host.math text (.num number) := by
  cases number with
  | int number =>
      change (encodeInt number).map ofChars = _ at written
      unfold encodeInt at written
      by_cases long : intMaxStrDigits < (Numeral.ofInt number).integer.length
      · rw [if_pos long] at written
        cases written
      · rw [if_neg long] at written
        cases written
        apply rereads_numeral (Numeral.wellFormed_ofInt number)
        unfold JsonDecoder.number
        rw [if_pos (Numeral.isInteger_ofInt number)]
        change (parseInt (Numeral.ofInt number)).map _ = _
        rw [parseInt, if_neg long, Numeral.intValue_ofInt]
        rfl
  | float float =>
      cases float with
      | finite number =>
          obtain ⟨numeral, wellFormed, fractional, isRepr, isValue⟩ := returns number rfl
          cases written
          rw [isRepr]
          apply rereads_numeral wellFormed
          unfold JsonDecoder.number
          rw [if_neg (by rw [fractional]; exact Bool.false_ne_true)]
          change Except.ok (Tree.num (PyNumber.float (parseFloat host.math numeral))) = _
          rw [parseFloat, isValue]
      | infinity negative =>
          cases written
          cases negative with
          | true =>
              apply rereads_word '-' ['I', 'n', 'f', 'i', 'n', 'i', 't', 'y'] (by simp) (by decide)
              · exact fun _ _ => rfl
              · exact fun _ _ => rfl
          | false =>
              apply rereads_word 'I' ['n', 'f', 'i', 'n', 'i', 't', 'y'] (by simp) (by decide)
              · exact fun _ _ => rfl
              · exact fun _ _ => rfl
      | nan =>
          cases written
          apply rereads_word 'N' ['a', 'N'] (by simp) (by decide)
          · exact fun _ _ => rfl
          · exact fun _ _ => rfl

/-! ## Lines -/

/-- The line break in front of the lines of a level. -/
def indent (level : ℕ) : List Char := '\n' :: List.replicate (2 * level) ' '

theorem newline_eq (level : ℕ) : Dashboard.newline level = ofChars (indent level) := by
  rw [Dashboard.newline, indent, ofChars_cons, ofChars, List.map_replicate]
  simp [py, points]

theorem blank_indent (level : ℕ) : Blank (indent level) := by
  intro char membership
  rcases List.mem_cons.mp membership with rfl | inside
  · rfl
  · rw [List.eq_of_mem_replicate inside]
    rfl

/-- Lines start as the first of them does. -/
theorem solid_lines {Value : Type} (reads : PyStr → Value → Prop) {values : List Value}
    (solid : ∀ {text value}, reads text value → Solid text)
    (lines : List.Forall₂ reads texts values) (present : texts ≠ []) (inner : List Char) :
    Solid ((ofChars (',' :: inner)).intercalate texts) := by
  cases lines with
  | nil => exact absurd rfl present
  | @cons text value texts _ first others =>
      cases texts with
      | nil =>
          rw [List.intercalate_singleton]
          exact solid first
      | cons second texts =>
          rw [List.intercalate_cons_cons, List.append_assoc]
          exact (solid first).append _

section Lines

variable {inner outer : List Char} (isInner : Blank inner) (isOuter : Blank outer)

include isInner isOuter

/-- The lines of an array are read as its items. -/
theorem scanItems_lines (rereads : List.Forall₂ (Rereads M) texts items) (present : texts ≠ [])
    (calls : ℕ) (rest : PyStr)
    (enough : 2 * ((ofChars (',' :: inner)).intercalate texts).length + 1 < calls) :
    scanItems (loadsHooks M) calls ((ofChars (',' :: inner)).intercalate texts ++
        (ofChars outer ++ CodePoint.ofChar ']' :: rest)) = .ok (rereadItems items, rest) ∧
      mostOpenItems (loadsHooks M) calls ((ofChars (',' :: inner)).intercalate texts ++
        (ofChars outer ++ CodePoint.ofChar ']' :: rest)) = Tree.nestingItems items := by
  induction rereads generalizing calls with
  | nil => exact absurd rfl present
  | @cons text item texts items first others inductionHypothesis =>
      obtain ⟨calls, rfl⟩ := exists_pred enough
      cases others with
      | nil =>
          rw [List.intercalate_singleton] at enough ⊢
          have closed := closed_blank isOuter (by decide : separator ']' = true) rest
          have scanned := first.scans calls _ (by omega) closed
          constructor
          · rw [scanItems_step, scanned]
            exact afterItem_last _ _ _ isOuter rest
          · rw [mostOpenItems, first.levels calls _ (by omega) closed, scanned]
            dsimp only
            rw [skipWhitespace_blank_char isOuter (by decide), consume?_same]
            rfl
      | @cons second item' texts items isSecond others =>
          have more : second :: texts ≠ [] := List.cons_ne_nil _ _
          have opens := (solid_lines (Rereads M) Rereads.solid (.cons isSecond others) more
            inner).skip (ofChars outer ++ CodePoint.ofChar ']' :: rest)
          rw [List.intercalate_cons_of_ne_nil more] at enough ⊢
          simp only [List.length_append, ofChars_cons, List.length_cons] at enough
          have later := inductionHypothesis more calls (by rw [ofChars_cons]; omega)
          simp only [List.append_assoc, ofChars_cons, List.cons_append] at later opens ⊢
          have closed := closed_ofChar (by decide : separator ',' = true) (ofChars inner ++
            ((CodePoint.ofChar ',' :: ofChars inner).intercalate (second :: texts) ++
              (ofChars outer ++ CodePoint.ofChar ']' :: rest)))
          have scanned := first.scans calls _ (by omega) closed
          constructor
          · rw [scanItems_step, scanned]
            apply (afterItem_comma _ _ _ Blank.nil _).trans
            rw [skipWhitespace_blank isInner, opens, later.1]
            rfl
          · rw [mostOpenItems, first.levels calls _ (by omega) closed, scanned]
            dsimp only
            rw [skipWhitespace_solid (by decide), consume?_other (by decide)]
            dsimp only
            rw [consume?_same]
            dsimp only
            rw [skipWhitespace_blank isInner, opens, later.2]
            rfl

end Lines

/-! ## Members -/

theorem line_eq (key text rest : PyStr) :
    ofChars (encodeString key) ++ py ": " ++ text ++ rest =
      CodePoint.ofChar '"' :: (ofChars (key.flatMap escapeAscii) ++ CodePoint.ofChar '"' ::
        (CodePoint.ofChar ':' :: CodePoint.ofChar ' ' :: (text ++ rest))) := by
  simp [encodeString, py, points, ofChars]

theorem scanMembers_line (rereads : Rereads M text value) (calls : ℕ) (key rest : PyStr) :
    scanMembers (loadsHooks M) (calls + 1)
        (ofChars (encodeString key) ++ py ": " ++ text ++ rest) =
      scanOnce (loadsHooks M) calls (text ++ rest) >>=
        afterMember (loadsHooks M) calls (units key) := by
  have named := scanMembers_name (loadsHooks M) calls Blank.nil (stringBody_escaped key) Blank.nil
    (by simp [Blank, blankChar] : Blank [' ']) (text ++ rest)
  rw [rereads.solid.skip] at named
  rw [line_eq, ← named]
  rfl

/-- The most containers open behind the value of a member. -/
def openBehind (M : FloatMath K) (calls : ℕ) :
    Except PyException (PyJson K × PyStr) → ℕ
  | .error _ => 0
  | .ok (_, text) =>
      match consume? '}' (skipWhitespace text) with
      | some _ => 0
      | none =>
      match consume? ',' (skipWhitespace text) with
      | none => 0
      | some text => mostOpenMembers (loadsHooks M) calls (skipWhitespace text)

theorem mostOpenMembers_line (rereads : Rereads M text value) (calls : ℕ) (key rest : PyStr) :
    mostOpenMembers (loadsHooks M) (calls + 1)
        (ofChars (encodeString key) ++ py ": " ++ text ++ rest) =
      max (mostOpen (loadsHooks M) calls (text ++ rest))
        (openBehind M calls (scanOnce (loadsHooks M) calls (text ++ rest))) := by
  rw [line_eq, mostOpenMembers, consume?_same]
  dsimp only
  rw [scanString_body (stringBody_escaped key)]
  dsimp only
  rw [skipWhitespace_solid (by decide), consume?_same]
  dsimp only
  have blank : skipWhitespace (CodePoint.ofChar ' ' :: (text ++ rest)) = text ++ rest := by
    apply (skipWhitespace_blank (by simp [Blank, blankChar] : Blank [' ']) (text ++ rest)).trans
    exact rereads.solid.skip rest
  rw [blank]
  rfl

theorem RereadsMember.solid {member : PyStr × PyJson K} (rereads : RereadsMember M text member) :
    Solid text := by
  obtain @⟨key, text, value, rereads⟩ := rereads
  exact ⟨'"', _, rfl, by decide⟩

/-- The lines of an object are read as its members. -/
theorem scanMembers_lines {inner outer : List Char} (isInner : Blank inner) (isOuter : Blank outer)
    (rereads : List.Forall₂ (RereadsMember M) texts members) (present : texts ≠ [])
    (calls : ℕ) (rest : PyStr)
    (enough : 2 * ((ofChars (',' :: inner)).intercalate texts).length + 1 < calls) :
    scanMembers (loadsHooks M) calls ((ofChars (',' :: inner)).intercalate texts ++
        (ofChars outer ++ CodePoint.ofChar '}' :: rest)) = .ok (rereadMembers members, rest) ∧
      mostOpenMembers (loadsHooks M) calls ((ofChars (',' :: inner)).intercalate texts ++
        (ofChars outer ++ CodePoint.ofChar '}' :: rest)) = Tree.nestingMembers members := by
  induction rereads generalizing calls with
  | nil => exact absurd rfl present
  | @cons text member texts members first others inductionHypothesis =>
      obtain ⟨calls, rfl⟩ := exists_pred enough
      obtain @⟨key, text, value, first⟩ := first
      cases others with
      | nil =>
          rw [List.intercalate_singleton] at enough ⊢
          simp only [List.length_append] at enough
          have closed := closed_blank isOuter (by decide : separator '}' = true) rest
          have scanned := first.scans calls _ (by omega) closed
          constructor
          · rw [scanMembers_line first, scanned]
            exact afterMember_last _ _ _ _ isOuter rest
          · rw [mostOpenMembers_line first, first.levels calls _ (by omega) closed, scanned,
              openBehind, skipWhitespace_blank_char isOuter (by decide), consume?_same]
            rfl
      | @cons second member' texts members isSecond others =>
          have more : second :: texts ≠ [] := List.cons_ne_nil _ _
          have opens := (solid_lines (RereadsMember M) RereadsMember.solid
            (.cons isSecond others) more inner).skip (ofChars outer ++ CodePoint.ofChar '}' :: rest)
          rw [List.intercalate_cons_of_ne_nil more] at enough ⊢
          simp only [List.length_append, ofChars_cons, List.length_cons] at enough
          have later := inductionHypothesis more calls (by rw [ofChars_cons]; omega)
          rw [ofChars_cons] at later opens ⊢
          have isLine : ofChars (encodeString key) ++ py ": " ++ text ++
              (CodePoint.ofChar ',' :: ofChars inner) ++
              (CodePoint.ofChar ',' :: ofChars inner).intercalate (second :: texts) ++
              (ofChars outer ++ CodePoint.ofChar '}' :: rest) =
            ofChars (encodeString key) ++ py ": " ++ text ++ (CodePoint.ofChar ',' ::
              (ofChars inner ++ ((CodePoint.ofChar ',' :: ofChars inner).intercalate
                (second :: texts) ++ (ofChars outer ++ CodePoint.ofChar '}' :: rest)))) := by
            simp only [List.append_assoc, List.cons_append]
          rw [isLine]
          have closed := closed_ofChar (by decide : separator ',' = true) (ofChars inner ++
            ((CodePoint.ofChar ',' :: ofChars inner).intercalate (second :: texts) ++
              (ofChars outer ++ CodePoint.ofChar '}' :: rest)))
          have scanned := first.scans calls _ (by omega) closed
          constructor
          · rw [scanMembers_line first, scanned]
            apply (afterMember_comma _ _ _ _ Blank.nil _).trans
            rw [skipWhitespace_blank isInner, opens, later.1]
            rfl
          · rw [mostOpenMembers_line first, first.levels calls _ (by omega) closed, scanned,
              openBehind, skipWhitespace_solid (by decide), consume?_other (by decide)]
            dsimp only
            rw [consume?_same]
            dsimp only
            rw [skipWhitespace_blank isInner, opens, later.2]
            rfl

/-! ## Containers -/

theorem block_eq (level : ℕ) (opening closing : String) (texts : List PyStr) (rest : PyStr) :
    Dashboard.block level opening closing texts ++ rest = py opening ++
      (ofChars (indent (level + 1)) ++ ((ofChars (',' :: indent (level + 1))).intercalate texts ++
        (ofChars (indent level) ++ (py closing ++ rest)))) := by
  have comma : py "," ++ ofChars (indent (level + 1)) = ofChars (',' :: indent (level + 1)) := by
    simp [py, points]
  rw [Dashboard.block, newline_eq, newline_eq, comma]
  simp only [List.append_assoc]

theorem length_block (level : ℕ) (opening closing : String) (texts : List PyStr) :
    ((ofChars (',' :: indent (level + 1))).intercalate texts).length + 1 ≤
      (Dashboard.block level opening closing texts).length := by
  have isBlock := congrArg List.length (block_eq level opening closing texts [])
  simp only [List.length_append, List.length_nil] at isBlock
  have positive : 0 < (ofChars (indent level)).length := Nat.succ_pos _
  omega

section Block

variable {level : ℕ} (present : texts ≠ [])

include present

theorem rereads_array (rereads : List.Forall₂ (Rereads M) texts items) :
    Rereads M (Dashboard.block level "[" "]" texts) (.arr items) := by
  have isLonger := length_block level "[" "]" texts
  have solid := solid_lines (Rereads M) Rereads.solid rereads present (indent (level + 1))
  have lines := scanItems_lines (blank_indent (level + 1)) (blank_indent level) rereads present
  have isBlock (rest : PyStr) : Dashboard.block level "[" "]" texts ++ rest =
      CodePoint.ofChar '[' :: (ofChars (indent (level + 1)) ++
        ((ofChars (',' :: indent (level + 1))).intercalate texts ++
          (ofChars (indent level) ++ CodePoint.ofChar ']' :: rest))) := by
    rw [block_eq]
    simp [py, points]
  have isStart := isBlock []
  rw [List.append_nil] at isStart
  constructor
  · exact ⟨'[', _, isStart, by decide⟩
  · rw [isStart, List.head?_cons]
    decide
  · intro calls rest enough _
    obtain ⟨calls, rfl⟩ := exists_pred enough
    rw [isBlock, scanOnce_array, skipWhitespace_blank (blank_indent _), solid.skip,
      (lines calls rest (by omega)).1]
    · rfl
    · rw [skipWhitespace_blank (blank_indent _), solid.skip]
      exact solid.goesOn (by decide) _
  · intro calls rest enough _
    obtain ⟨calls, rfl⟩ := exists_pred enough
    rw [isBlock, mostOpen, consume?_other (by decide), consume?_other (by decide), consume?_same]
    dsimp only
    rw [skipWhitespace_blank (blank_indent _), solid.skip, solid.goesOn (by decide),
      (lines calls rest (by omega)).2]
    rfl

theorem rereads_object (rereads : List.Forall₂ (RereadsMember M) texts members) :
    Rereads M (Dashboard.block level "\x7b" "\x7d" texts) (.obj members) := by
  have isLonger := length_block level "\x7b" "\x7d" texts
  have solid := solid_lines (RereadsMember M) RereadsMember.solid rereads present
    (indent (level + 1))
  have lines := scanMembers_lines (blank_indent (level + 1)) (blank_indent level) rereads present
  have isBlock (rest : PyStr) : Dashboard.block level "\x7b" "\x7d" texts ++ rest =
      CodePoint.ofChar '{' :: (ofChars (indent (level + 1)) ++
        ((ofChars (',' :: indent (level + 1))).intercalate texts ++
          (ofChars (indent level) ++ CodePoint.ofChar '}' :: rest))) := by
    rw [block_eq]
    simp [py, points]
  have isStart := isBlock []
  rw [List.append_nil] at isStart
  constructor
  · exact ⟨'{', _, isStart, by decide⟩
  · rw [isStart, List.head?_cons]
    decide
  · intro calls rest enough _
    obtain ⟨calls, rfl⟩ := exists_pred enough
    rw [isBlock, scanOnce_object, skipWhitespace_blank (blank_indent _), solid.skip,
      (lines calls rest (by omega)).1]
    · rfl
    · rw [skipWhitespace_blank (blank_indent _), solid.skip]
      exact solid.goesOn (by decide) _
  · intro calls rest enough _
    obtain ⟨calls, rfl⟩ := exists_pred enough
    rw [isBlock, mostOpen, consume?_other (by decide), consume?_same]
    dsimp only
    rw [skipWhitespace_blank (blank_indent _), solid.skip, solid.goesOn (by decide),
      (lines calls rest (by omega)).2]
    rfl

end Block

/-! ## Values -/

mutual

theorem rereads_dumps (room level : ℕ) (value : PyJson K) (text : PyStr)
    (written : dumps host room level value = .ok text)
    (floats : value.Numbers (FloatReturns host.math)) : Rereads host.math text value := by
  cases value with
  | null =>
      cases written
      apply rereads_word 'n' ['u', 'l', 'l'] (by simp) (by decide)
      · exact fun _ _ => rfl
      · exact fun _ _ => rfl
  | bool value =>
      cases written
      cases value with
      | true =>
          apply rereads_word 't' ['r', 'u', 'e'] (by simp) (by decide)
          · exact fun _ _ => rfl
          · exact fun _ _ => rfl
      | false =>
          apply rereads_word 'f' ['a', 'l', 's', 'e'] (by simp) (by decide)
          · exact fun _ _ => rfl
          · exact fun _ _ => rfl
  | num number =>
      cases number with
      | int number => exact rereads_number written floats
      | float float =>
          obtain ⟨_, _, written⟩ := bind_eq_ok written
          exact rereads_number written floats
  | str string =>
      cases written
      have same (rest : PyStr) : ofChars (encodeString string) ++ rest =
          CodePoint.ofChar '"' :: (ofChars (string.flatMap escapeAscii) ++
            CodePoint.ofChar '"' :: rest) := by
        simp [encodeString, ofChars]
      constructor
      · exact ⟨'"', _, rfl, by decide⟩
      · exact fun isMark => absurd (Option.some.inj isMark) (by decide)
      · intro calls rest enough _
        obtain ⟨calls, rfl⟩ := exists_pred enough
        rw [same, scanOnce_string, scanString_body (stringBody_escaped string)]
        rfl
      · intro calls rest enough _
        obtain ⟨calls, rfl⟩ := exists_pred enough
        rw [same, mostOpen, consume?_same]
        rfl
  | arr items =>
      cases items with
      | nil =>
          obtain ⟨_, _, written⟩ := bind_eq_ok written
          cases written
          apply rereads_word '[' [']'] (by simp) (by decide)
          · exact fun _ _ => rfl
          · exact fun _ _ => rfl
      | cons item items =>
          obtain ⟨room, _, written⟩ := bind_eq_ok written
          obtain ⟨texts, isTexts, isText⟩ := bind_eq_ok written
          cases isText
          have rereads :=
            rereads_dumpsItems room (level + 1) (item :: items) texts isTexts floats
          apply rereads_array _ rereads
          rintro rfl
          cases rereads
  | obj members =>
      cases members with
      | nil =>
          obtain ⟨_, _, written⟩ := bind_eq_ok written
          cases written
          apply rereads_word '{' ['}'] (by simp) (by decide)
          · exact fun _ _ => rfl
          · exact fun _ _ => rfl
      | cons member members =>
          obtain ⟨room, _, written⟩ := bind_eq_ok written
          obtain ⟨texts, isTexts, isText⟩ := bind_eq_ok written
          cases isText
          have rereads :=
            rereads_dumpsMembers room (level + 1) (member :: members) texts isTexts floats
          apply rereads_object _ rereads
          rintro rfl
          cases rereads

theorem rereads_dumpsItems (room level : ℕ) (items : List (PyJson K)) (texts : List PyStr)
    (written : dumpsItems host room level items = .ok texts)
    (floats : Tree.NumbersItems (FloatReturns host.math) items) :
    List.Forall₂ (Rereads host.math) texts items := by
  cases items with
  | nil =>
      cases written
      exact .nil
  | cons item items =>
      obtain ⟨text, isText, written⟩ := bind_eq_ok written
      obtain ⟨others, isOthers, written⟩ := bind_eq_ok written
      cases written
      exact .cons (rereads_dumps room level item text isText floats.1)
        (rereads_dumpsItems room level items others isOthers floats.2)

theorem rereads_dumpsMembers (room level : ℕ) (members : PyPairs K) (texts : List PyStr)
    (written : dumpsMembers host room level members = .ok texts)
    (floats : Tree.NumbersMembers (FloatReturns host.math) members) :
    List.Forall₂ (RereadsMember host.math) texts members := by
  cases members with
  | nil =>
      cases written
      exact .nil
  | cons member members =>
      obtain ⟨text, isText, written⟩ := bind_eq_ok written
      obtain ⟨others, isOthers, written⟩ := bind_eq_ok written
      cases written
      exact .cons (.member member.1 (rereads_dumps room level member.2 text isText floats.1))
        (rereads_dumpsMembers room level members others isOthers floats.2)

end

/-- `json.loads` reads what was written as its rereading, if the stack has room for the value. -/
theorem loads_dumps {room : ℕ} (written : dumps host room 0 value = .ok text)
    (floats : value.Numbers (FloatReturns host.math)) (stackLevels : ℕ) :
    loads host.math stackLevels (text ++ py "\n") =
      if stackLevels < value.nesting then .error .recursionError else .ok (reread value) := by
  have rereads := rereads_dumps room 0 value text written floats
  have isBreak : py "\n" = [CodePoint.ofChar '\n'] := by simp [py, points, ofChars]
  have head : (text ++ py "\n").head? = text.head? := by
    obtain ⟨char, after, rfl, _⟩ := rereads.solid
    rfl
  have closed : Numeral.Closed (py "\n") := by
    rw [isBreak]
    exact closed_ofChar (by decide) []
  have enough : 2 * text.length < 2 * (text ++ py "\n").length + 1 := by
    rw [List.length_append]
    omega
  unfold loads
  rw [head, if_neg rereads.noMark, rereads.solid.skip, rereads.levels _ _ enough closed,
    rereads.scans _ _ enough closed]
  by_cases deep : stackLevels < value.nesting
  · rw [if_pos deep, if_pos deep]
  · have nothing : skipWhitespace (py "\n") = [] := by
      rw [isBreak]
      rfl
    rw [if_neg deep, if_neg deep, ok_bind]
    dsimp only
    rw [if_neg (not_not.mpr nothing)]
    rfl

/-! ## What stays the same -/

/-- No surrogates stand next to each other that make up a character. -/
def Joined (text : PyStr) : Prop := joined text = text

theorem setItem_new {pairs : PyPairs K} {member : PyStr × PyJson K}
    (new : member.1 ∉ pairs.map Prod.fst) : setItem pairs member = pairs ++ [member] :=
  if_neg new

theorem length_setItem_known {pairs : PyPairs K} {member : PyStr × PyJson K}
    (known : member.1 ∈ pairs.map Prod.fst) : (setItem pairs member).length = pairs.length := by
  rw [setItem, if_pos known, List.length_map]

/-- Members of distinct keys are added as they are. -/
theorem foldl_setItem {pairs members : PyPairs K}
    (distinct : ((pairs ++ members).map Prod.fst).Nodup) :
    members.foldl setItem pairs = pairs ++ members := by
  induction members generalizing pairs with
  | nil => rw [List.foldl_nil, List.append_nil]
  | cons member members inductionHypothesis =>
      have new : member.1 ∉ pairs.map Prod.fst := by
        rw [List.map_append, List.map_cons, List.nodup_append] at distinct
        intro known
        exact distinct.2.2 _ known _ List.mem_cons_self rfl
      rw [List.foldl_cons, setItem_new new, inductionHypothesis]
      · rw [List.append_assoc, List.singleton_append]
      · rwa [List.append_assoc, List.singleton_append]

theorem length_foldl_setItem_le (pairs members : PyPairs K) :
    (members.foldl setItem pairs).length ≤ pairs.length + members.length := by
  induction members generalizing pairs with
  | nil => exact le_rfl
  | cons member members inductionHypothesis =>
      have others := inductionHypothesis (setItem pairs member)
      rw [List.foldl_cons, List.length_cons]
      by_cases known : member.1 ∈ pairs.map Prod.fst
      · rw [length_setItem_known known] at others
        omega
      · rw [setItem_new known, List.length_append, List.length_singleton] at others
        rw [setItem_new known]
        omega

/-- If none of the members is lost, their keys are distinct. -/
theorem nodup_of_length_foldl {pairs members : PyPairs K}
    (distinct : (pairs.map Prod.fst).Nodup)
    (kept : (members.foldl setItem pairs).length = pairs.length + members.length) :
    ((pairs ++ members).map Prod.fst).Nodup := by
  induction members generalizing pairs with
  | nil => rwa [List.append_nil]
  | cons member members inductionHypothesis =>
      rw [List.foldl_cons, List.length_cons] at kept
      by_cases known : member.1 ∈ pairs.map Prod.fst
      · have fewer := length_foldl_setItem_le (setItem pairs member) members
        rw [length_setItem_known known] at fewer
        omega
      · have distinct' : ((pairs ++ [member]).map Prod.fst).Nodup := by
          rw [List.map_append, List.nodup_append]
          refine ⟨distinct, List.nodup_singleton _, ?_⟩
          intro key inside other isNew same
          rw [List.mem_singleton.mp isNew] at same
          exact known (same ▸ inside)
        rw [setItem_new known] at kept
        have longer := inductionHypothesis distinct'
          (by rw [kept, List.length_append, List.length_singleton]; omega)
        rwa [List.append_assoc, List.singleton_append] at longer

theorem length_rereadMembers (members : PyPairs K) :
    (rereadMembers members).length = members.length := by
  induction members with
  | nil => rfl
  | cons member members inductionHypothesis =>
      rw [rereadMembers, List.length_cons, List.length_cons, inductionHypothesis]

mutual

/-- A value comes back as it was exactly if its strings are joined and no dictionary of it has a
key twice. -/
theorem reread_eq_iff (value : PyJson K) :
    reread value = value ↔ value.Strings Joined ∧ value.DistinctKeys := by
  cases value with
  | null | bool _ | num _ => exact iff_of_true rfl ⟨trivial, trivial⟩
  | str text => simp [reread, Tree.Strings, Tree.DistinctKeys, Joined]
  | arr items =>
      rw [reread, Tree.arr.injEq, rereadItems_eq_iff items]
      rfl
  | obj members =>
      rw [reread, Tree.obj.injEq]
      have same := rereadMembers_eq_iff members
      constructor
      · intro kept
        have distinct := @nodup_of_length_foldl K [] (rereadMembers members) List.nodup_nil
          (by rw [kept, length_rereadMembers, List.length_nil, Nat.zero_add])
        rw [foldl_setItem distinct, List.nil_append] at kept
        rw [List.nil_append, kept] at distinct
        exact ⟨(same.mp kept).1, distinct, (same.mp kept).2⟩
      · intro unchanged
        rw [same.mpr ⟨unchanged.1, unchanged.2.2⟩]
        exact foldl_setItem unchanged.2.1

theorem rereadItems_eq_iff (items : List (PyJson K)) : rereadItems items = items ↔
    Tree.StringsItems Joined items ∧ Tree.DistinctKeysItems items := by
  cases items with
  | nil => exact iff_of_true rfl ⟨trivial, trivial⟩
  | cons item items =>
      rw [rereadItems, List.cons.injEq, reread_eq_iff item, rereadItems_eq_iff items]
      exact and_and_and_comm

theorem rereadMembers_eq_iff (members : PyPairs K) : rereadMembers members = members ↔
    Tree.StringsMembers Joined members ∧ Tree.DistinctKeysMembers members := by
  cases members with
  | nil => exact iff_of_true rfl ⟨trivial, trivial⟩
  | cons member members =>
      obtain ⟨key, value⟩ := member
      rw [rereadMembers, List.cons.injEq, Prod.mk.injEq, reread_eq_iff value,
        rereadMembers_eq_iff members, ← Joined]
      rw [Tree.StringsMembers, Tree.DistinctKeysMembers]
      tauto

end

/-! ## What is written -/

/-- The number has no more digits than `int.__repr__` writes. -/
def Prints (number : PyNumber K) : Prop :=
  ∀ value, number = .int value → (Numeral.ofInt value).integer.length ≤ intMaxStrDigits

mutual

/-- The calls within each other that write a value: the containers on the longest path from the
root, and one more where a float is in the innermost. -/
def dumpsCalls : PyJson K → ℕ
  | .num (.float _) => 1
  | .arr items => 1 + dumpsCallsItems items
  | .obj members => 1 + dumpsCallsMembers members
  | _ => 0

def dumpsCallsItems : List (PyJson K) → ℕ
  | [] => 0
  | item :: items => max (dumpsCalls item) (dumpsCallsItems items)

def dumpsCallsMembers : PyPairs K → ℕ
  | [] => 0
  | (_, value) :: members => max (dumpsCalls value) (dumpsCallsMembers members)

end

theorem dumpsNumber_ok_iff {number : PyNumber K} :
    (∃ text, Dashboard.dumpsNumber host number = .ok text) ↔ Prints number := by
  cases number with
  | int value =>
      have written : Dashboard.dumpsNumber host (.int value) = (encodeInt value).map ofChars := rfl
      rw [written, encodeInt]
      by_cases long : intMaxStrDigits < (Numeral.ofInt value).integer.length
      · rw [if_pos long]
        apply iff_of_false
        · intro ⟨text, returned⟩
          cases returned
        · intro prints
          exact absurd (prints value rfl) (not_le.mpr long)
      · rw [if_neg long]
        refine iff_of_true ⟨_, rfl⟩ ?_
        intro other same
        cases same
        exact not_lt.mp long
  | float float =>
      refine iff_of_true ?_ nofun
      cases float with
      | finite value => exact ⟨_, rfl⟩
      | infinity negative => exact ⟨_, rfl⟩
      | nan => exact ⟨_, rfl⟩

theorem bind_ok_iff {α β γ : Type} {first : Except PyException α}
    {second : Except PyException β} {write : α → β → γ} :
    (∃ result, (do
        let value ← first
        let other ← second
        return write value other) = .ok result) ↔
      (∃ value, first = .ok value) ∧ ∃ other, second = .ok other := by
  cases first with
  | error exception => exact iff_of_false nofun nofun
  | ok value =>
      cases second with
      | error exception => exact iff_of_false nofun nofun
      | ok other => exact iff_of_true ⟨_, rfl⟩ ⟨⟨value, rfl⟩, other, rfl⟩

theorem map_ok_iff {α β : Type} {outcome : Except PyException α} {write : α → β} :
    (∃ result, (do
        let value ← outcome
        return write value) = .ok result) ↔ ∃ value, outcome = .ok value := by
  cases outcome with
  | error exception => exact iff_of_false nofun nofun
  | ok value => exact iff_of_true ⟨_, rfl⟩ ⟨value, rfl⟩

/-- A call returns exactly if there is room for it and what it encloses returns with the rest. -/
theorem enter_ok_iff {α : Type} {room calls : ℕ} {within : ℕ → Except PyException α}
    {written : Prop}
    (inside : ∀ left, (∃ result, within left = .ok result) ↔ written ∧ calls ≤ left) :
    (∃ result, (enter room >>= within) = .ok result) ↔ written ∧ 1 + calls ≤ room := by
  cases room with
  | zero => exact iff_of_false nofun fun both => absurd both.2 (by omega)
  | succ left =>
      change (∃ result, within left = .ok result) ↔ _
      rw [inside, Nat.add_comm, Nat.add_le_add_iff_right]

mutual

/-- A value is written if its numbers are, and if the stack has room for its calls. -/
theorem dumps_ok_iff (room level : ℕ) (value : PyJson K) :
    (∃ text, dumps host room level value = .ok text) ↔
      value.Numbers Prints ∧ dumpsCalls value ≤ room := by
  cases value with
  | null | bool _ | str _ => exact iff_of_true ⟨_, rfl⟩ ⟨trivial, room.zero_le⟩
  | num number =>
      cases number with
      | int number =>
          have written : (∃ text, Dashboard.dumpsNumber host (.int number) = .ok text) ↔
            Prints (.int number) := dumpsNumber_ok_iff
          exact written.trans (and_iff_left room.zero_le).symm
      | float float =>
          exact enter_ok_iff fun left => dumpsNumber_ok_iff.trans (and_iff_left left.zero_le).symm
  | arr items =>
      cases items with
      | nil => exact enter_ok_iff fun left => iff_of_true ⟨_, rfl⟩ ⟨trivial, left.zero_le⟩
      | cons item items =>
          exact enter_ok_iff fun left =>
            map_ok_iff.trans (dumpsItems_ok_iff left (level + 1) (item :: items))
  | obj members =>
      cases members with
      | nil => exact enter_ok_iff fun left => iff_of_true ⟨_, rfl⟩ ⟨trivial, left.zero_le⟩
      | cons member members =>
          exact enter_ok_iff fun left =>
            map_ok_iff.trans (dumpsMembers_ok_iff left (level + 1) (member :: members))

theorem dumpsItems_ok_iff (room level : ℕ) (items : List (PyJson K)) :
    (∃ texts, dumpsItems host room level items = .ok texts) ↔
      Tree.NumbersItems Prints items ∧ dumpsCallsItems items ≤ room := by
  cases items with
  | nil => exact iff_of_true ⟨_, rfl⟩ ⟨trivial, room.zero_le⟩
  | cons item items =>
      have parts := and_congr (dumps_ok_iff room level item) (dumpsItems_ok_iff room level items)
      rw [and_and_and_comm, ← max_le_iff] at parts
      exact bind_ok_iff.trans parts

theorem dumpsMembers_ok_iff (room level : ℕ) (members : PyPairs K) :
    (∃ texts, dumpsMembers host room level members = .ok texts) ↔
      Tree.NumbersMembers Prints members ∧ dumpsCallsMembers members ≤ room := by
  cases members with
  | nil => exact iff_of_true ⟨_, rfl⟩ ⟨trivial, room.zero_le⟩
  | cons member members =>
      have parts :=
        and_congr (dumps_ok_iff room level member.2) (dumpsMembers_ok_iff room level members)
      rw [and_and_and_comm, ← max_le_iff] at parts
      exact bind_ok_iff.trans parts

end

end Read

/-! ## Replays -/

theorem distinctKeysItems_map {α : Type} {write : α → PyJson K} {items : List α} :
    Tree.DistinctKeysItems (items.map write) ↔ ∀ item ∈ items, (write item).DistinctKeys := by
  induction items with
  | nil => simp [Tree.DistinctKeysItems]
  | cons item items inductionHypothesis =>
      rw [List.map_cons, Tree.DistinctKeysItems, inductionHypothesis, List.forall_mem_cons]

/-- The keys of every reference and of every event. -/
def refKeys : List PyStr :=
  [py "evidence_id", py "relative_path", py "media_type", py "capture_mode", py "source_adapter",
    py "linked_event_id"]

def eventKeys : List PyStr :=
  [py "event_id", py "task_id", py "correlation_id", py "sequence", py "event_type",
    py "occurred_at", py "source", py "mode", py "schema_version", py "payload",
    py "evidence_refs"]

theorem distinctKeys_evidenceRef (ref : EvidenceRef) :
    (Tree.obj ref.toDict : PyJson K).DistinctKeys := by
  have named : (refKeys ++ [py "checksum"]).Nodup := by decide
  rw [Tree.DistinctKeys, EvidenceRef.toDict]
  cases ref.checksum with
  | none =>
      refine ⟨named.of_append_left, ?_⟩
      simp [Tree.DistinctKeysMembers, Tree.DistinctKeys]
  | some checksum =>
      refine ⟨named, ?_⟩
      simp [Tree.DistinctKeysMembers, Tree.DistinctKeys]

/-- The dictionary of an event has no key twice, if its payload has none. -/
theorem distinctKeys_toDict {event : EventEnvelope K} :
    (Tree.obj event.toDict).DistinctKeys ↔ (Tree.obj event.payload).DistinctKeys := by
  have named : (eventKeys ++ [py "error"]).Nodup := by decide
  have refs : Tree.DistinctKeysItems
      (event.evidenceRefs.map fun ref => (Tree.obj ref.toDict : PyJson K)) :=
    distinctKeysItems_map.mpr fun ref _ => distinctKeys_evidenceRef ref
  have pair : ([py "code", py "message"] : List PyStr).Nodup := by decide
  rw [Tree.DistinctKeys, EventEnvelope.toDict]
  cases event.error with
  | none =>
      refine (and_iff_right named.of_append_left).trans ?_
      simp [Tree.DistinctKeysMembers, Tree.DistinctKeys, refs]
  | some error =>
      refine (and_iff_right named).trans ?_
      simp [Tree.DistinctKeysMembers, Tree.DistinctKeys, refs, pair, -List.nodup_cons]

/-- A log is read back from its replay exactly if its numbers are written, its strings are joined,
no payload has a key twice, and the stack has room to write it and to read it. -/
theorem replay_returns_iff (host : Dashboard.Host K) (room stackLevels : ℕ)
    (eventLog : TaskEventLog K)
    (floats : (replayEvents eventLog).Numbers (FloatReturns host.math)) :
    (∃ text, replayText host room eventLog = .ok text ∧
        loads host.math stackLevels text = .ok (replayEvents eventLog)) ↔
      ((replayEvents eventLog).Numbers Prints ∧ dumpsCalls (replayEvents eventLog) ≤ room) ∧
        (replayEvents eventLog).nesting ≤ stackLevels ∧
        (replayEvents eventLog).Strings Joined ∧
        ∀ event ∈ eventLog.events, (Tree.obj event.payload).DistinctKeys := by
  have distinct : (replayEvents eventLog).DistinctKeys ↔
      ∀ event ∈ eventLog.events, (Tree.obj event.payload).DistinctKeys := by
    simp only [← distinctKeys_toDict]
    exact distinctKeysItems_map
  rw [← distinct, ← reread_eq_iff, ← @dumps_ok_iff _ host room 0]
  constructor
  · intro ⟨text, written, returned⟩
    obtain ⟨text, isText, isEnd⟩ := bind_eq_ok written
    cases isEnd
    rw [loads_dumps isText floats] at returned
    by_cases deep : stackLevels < (replayEvents eventLog).nesting
    · rw [if_pos deep] at returned
      cases returned
    · rw [if_neg deep] at returned
      exact ⟨⟨text, isText⟩, not_lt.mp deep, Except.ok.inj returned⟩
  · intro ⟨⟨text, isText⟩, shallow, same⟩
    refine ⟨text ++ py "\n", ?_, ?_⟩
    · rw [replayText, isText]
      rfl
    · rw [loads_dumps isText floats, if_neg (not_lt.mpr shallow), same]

theorem floatReturns_int (M : FloatMath K) (value : ℤ) : FloatReturns M (.int value) := nofun

/-- `repr(1.0)` in rational arithmetic. -/
theorem floatReturns_one : FloatReturns FloatMath.axis (.float (.finite 1)) := by
  intro value same
  cases same
  have isValue : (⟨false, [1], some [0], none⟩ : Numeral).value = 1 := by
    norm_num [Numeral.value, Numeral.exponentValue, Digit.natValue]
  refine ⟨⟨false, [1], some [0], none⟩, by constructor <;> simp, rfl, rfl, ?_⟩
  rw [isValue]
  have small : (1 : ℤ) < 2 ^ 1024 - 2 ^ 970 := by decide +kernel
  apply if_pos
  rw [abs_one]
  exact_mod_cast small

/-- An event with a score. -/
def scoredEvent : EventEnvelope ℚ where
  toEventFields := { Dashboard.deliveryEvent.toEventFields with
    payload := [(py "detection_score", .num (.float (.finite 1)))] }
  hasStrings := Dashboard.deliveryEvent.hasStrings
  positive := Dashboard.deliveryEvent.positive
  enabled := Dashboard.deliveryEvent.enabled
  aware := Dashboard.deliveryEvent.aware

theorem replay_returns_iff_scored :
    let log : TaskEventLog ℚ := ⟨scoredEvent.taskId, [scoredEvent]⟩
    (∃ text, replayText (Dashboard.Host.ascii []) 4 log = .ok text ∧
        loads FloatMath.axis 3 text = .ok (replayEvents log)) ↔
      ((replayEvents log).Numbers Prints ∧ dumpsCalls (replayEvents log) ≤ 4) ∧
        (replayEvents log).nesting ≤ 3 ∧ (replayEvents log).Strings Joined ∧
        ∀ event ∈ log.events, (Tree.obj event.payload).DistinctKeys :=
  replay_returns_iff (Dashboard.Host.ascii []) 4 3 ⟨scoredEvent.taskId, [scoredEvent]⟩ (by
    have score := floatReturns_one
    have sequence := floatReturns_int FloatMath.axis 12
    simp [replayEvents, EventEnvelope.toDict, Tree.Numbers, Tree.NumbersItems,
      Tree.NumbersMembers, scoredEvent, Dashboard.deliveryEvent, Dashboard.Host.ascii, score,
      sequence])

end Scripts

end ValeraControlTower
