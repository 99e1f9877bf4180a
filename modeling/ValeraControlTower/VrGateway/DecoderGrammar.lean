import ValeraControlTower.VrGateway.Wire

/-!
# The standard decoder and the grammar

The value a document is decoded to, the texts whose reading reaches an integer literal
that `int` refuses, and the lemmas about single steps of the decoder from which
`DecoderSoundness` and `DecoderCompleteness` are assembled.
-/

namespace ValeraControlTower

open Unicode Json

variable {K : Type}

/-- An integer literal that `int` refuses. -/
def Overlong (numeral : Numeral) : Prop :=
  numeral.isInteger = true ∧ intMaxStrDigits < numeral.integer.length

instance (numeral : Numeral) : Decidable (Overlong numeral) := inferInstanceAs (Decidable (_ ∧ _))

/-- The number a literal is decoded to. -/
def pyNumber (M : FloatMath K) (numeral : Numeral) : PyNumber K :=
  if numeral.isInteger then .int numeral.intValue else .float (parseFloat M numeral)

/-- The value a document is decoded to. -/
abbrev pyDocument (M : FloatMath K) (tree : Document) : PyJson K :=
  tree.map codePoints (pyNumber M)

abbrev pyMembers (M : FloatMath K) (members : List (List CodeUnit × Document)) : PyPairs K :=
  Tree.mapMembers codePoints (pyNumber M) members

abbrev pyItems (M : FloatMath K) (items : List Document) : List (PyJson K) :=
  Tree.mapItems codePoints (pyNumber M) items

/-- No integer literal of the document is refused. -/
abbrev ShortIntegers (tree : Document) : Prop := tree.Numbers fun numeral => ¬Overlong numeral

/-- Where a text is being read. -/
inductive Place where
  | value
  | items
  | members

/-- A left-to-right reading of the text reaches an overlong integer literal: every value
in front of it is complete, its objects without duplicate keys. -/
inductive ReachesOverlong : List Char → Place → Prop where
  | literal {source rest : List Char} {numeral : Numeral}
      (read : Numeral.scan (ofChars source) = some (numeral, ofChars rest))
      (overlong : Overlong numeral) : ReachesOverlong source .value
  | array {source : List Char} (inside : ReachesOverlong source .items) :
      ReachesOverlong ('[' :: source) .value
  | object {source : List Char} (inside : ReachesOverlong source .members) :
      ReachesOverlong ('{' :: source) .value
  | firstItem {before source : List Char} (isBefore : Blank before)
      (inside : ReachesOverlong source .value) : ReachesOverlong (before ++ source) .items
  | laterItem {before text after source : List Char} {item : Document}
      (isBefore : Blank before) (isItem : Derives text (.value item))
      (distinct : item.DistinctKeys) (isAfter : Blank after)
      (inside : ReachesOverlong source .items) :
      ReachesOverlong (before ++ (text ++ (after ++ ',' :: source))) .items
  | firstMember {before key beforeColon afterColon source : List Char} {name : List CodeUnit}
      (isBefore : Blank before) (isName : StringBody key name)
      (isBeforeColon : Blank beforeColon) (isAfterColon : Blank afterColon)
      (inside : ReachesOverlong source .value) :
      ReachesOverlong (before ++ '"' :: (key ++ '"' ::
        (beforeColon ++ ':' :: (afterColon ++ source)))) .members
  | laterMember {before key beforeColon afterColon text after source : List Char}
      {name : List CodeUnit} {value : Document}
      (isBefore : Blank before) (isName : StringBody key name)
      (isBeforeColon : Blank beforeColon) (isAfterColon : Blank afterColon)
      (isValue : Derives text (.value value)) (distinct : value.DistinctKeys)
      (isAfter : Blank after) (inside : ReachesOverlong source .members) :
      ReachesOverlong (before ++ '"' :: (key ++ '"' ::
        (beforeColon ++ ':' :: (afterColon ++ (text ++ (after ++ ',' :: source)))))) .members

theorem ReachesOverlong.blank_items {before source : List Char} (isBlank : Blank before)
    (reaches : ReachesOverlong source .items) : ReachesOverlong (before ++ source) .items := by
  cases reaches with
  | firstItem isBefore inside =>
      rw [← List.append_assoc]
      exact .firstItem (isBlank.append isBefore) inside
  | laterItem isBefore isItem distinct isAfter inside =>
      rw [← List.append_assoc]
      exact .laterItem (isBlank.append isBefore) isItem distinct isAfter inside

theorem ReachesOverlong.blank_members {before source : List Char} (isBlank : Blank before)
    (reaches : ReachesOverlong source .members) : ReachesOverlong (before ++ source) .members := by
  cases reaches with
  | firstMember isBefore isName isBeforeColon isAfterColon inside =>
      rw [← List.append_assoc]
      exact .firstMember (isBlank.append isBefore) isName isBeforeColon isAfterColon inside
  | laterMember isBefore isName isBeforeColon isAfterColon isValue distinct isAfter inside =>
      rw [← List.append_assoc]
      exact .laterMember (isBlank.append isBefore) isName isBeforeColon isAfterColon isValue
        distinct isAfter inside

namespace JsonDecoder

/-! ## Characters -/

theorem ofChars_eq_cons {source : List Char} {point : CodePoint} {rest : PyStr}
    (same : ofChars source = point :: rest) :
    ∃ char after, source = char :: after ∧ point = CodePoint.ofChar char ∧
      ofChars after = rest := by
  obtain ⟨char, after, rfl, rfl, rfl⟩ := List.map_eq_cons_iff.mp same
  exact ⟨char, after, rfl, rfl, rfl⟩

theorem isWhitespace_ofChar (char : Char) :
    isWhitespace (CodePoint.ofChar char) = blankChar char := by
  simp [isWhitespace, blankChar]

theorem skipWhitespace_solid {char : Char} (solid : blankChar char = false) (rest : PyStr) :
    skipWhitespace (CodePoint.ofChar char :: rest) = CodePoint.ofChar char :: rest := by
  unfold skipWhitespace
  rw [List.dropWhile_cons_of_neg]
  rw [isWhitespace_ofChar, solid]
  exact Bool.false_ne_true

theorem skipWhitespace_blank {blank : List Char} (isBlank : Blank blank) (rest : PyStr) :
    skipWhitespace (ofChars blank ++ rest) = skipWhitespace rest := by
  apply List.dropWhile_append_of_pos
  intro point membership
  obtain ⟨char, inBlank, rfl⟩ := List.mem_map.mp membership
  rw [isWhitespace_ofChar]
  exact isBlank char inBlank

/-- What is skipped is blank. -/
theorem skipWhitespace_sound (source : List Char) :
    ∃ blank after, source = blank ++ after ∧ Blank blank ∧
      skipWhitespace (ofChars source) = ofChars after := by
  refine ⟨source.takeWhile blankChar, source.dropWhile blankChar,
    List.takeWhile_append_dropWhile.symm, fun char membership => ?_, ?_⟩
  · exact List.all_eq_true.mp List.all_takeWhile char membership
  · unfold skipWhitespace ofChars
    rw [List.dropWhile_map]
    have same : isWhitespace ∘ CodePoint.ofChar = blankChar := funext isWhitespace_ofChar
    rw [same]

theorem consume?_same (char : Char) (rest : PyStr) :
    consume? char (CodePoint.ofChar char :: rest) = some rest :=
  if_pos rfl

theorem consume?_other {char other : Char} (different : other ≠ char) (rest : PyStr) :
    consume? char (CodePoint.ofChar other :: rest) = none :=
  if_neg fun same => different (CodePoint.ofChar_inj.mp same)

theorem consume?_sound {char : Char} {source : List Char} {rest : PyStr}
    (read : consume? char (ofChars source) = some rest) :
    ∃ after, source = char :: after ∧ rest = ofChars after := by
  cases source with
  | nil => cases read
  | cons first source =>
      by_cases same : first = char
      · subst same
        rw [ofChars_cons, consume?_same] at read
        cases read
        exact ⟨source, rfl, rfl⟩
      · rw [ofChars_cons, consume?_other same] at read
        cases read

theorem consumeAll?_sound {literal source : List Char} {rest : PyStr}
    (read : consumeAll? literal (ofChars source) = some rest) :
    ∃ after, source = literal ++ after ∧ rest = ofChars after := by
  induction literal generalizing source with
  | nil =>
      cases read
      exact ⟨source, rfl, rfl⟩
  | cons char literal inductionHypothesis =>
      obtain ⟨text, first, later⟩ := Option.bind_eq_some_iff.mp read
      obtain ⟨after, rfl, rfl⟩ := consume?_sound first
      obtain ⟨after, rfl, rfl⟩ := inductionHypothesis later
      exact ⟨after, rfl, rfl⟩

/-! ## Outcomes -/

/-- What was read and what is left, or what was raised. -/
def Explains {α : Type} (read : α → List Char → Prop) (raised : PyException → Prop) :
    Except PyException (α × PyStr) → Prop
  | .ok (value, rest) => ∃ after, rest = ofChars after ∧ read value after
  | .error exception => raised exception

theorem Explains.bind {α β : Type} {read : α → List Char → Prop} {read' : β → List Char → Prop}
    {raised raised' : PyException → Prop} {outcome : Except PyException (α × PyStr)}
    {next : α × PyStr → Except PyException (β × PyStr)} (first : Explains read raised outcome)
    (weaken : ∀ exception, raised exception → raised' exception)
    (continued : ∀ value after, read value after →
      Explains read' raised' (next (value, ofChars after))) :
    Explains read' raised' (outcome >>= next) := by
  cases outcome with
  | error exception => exact weaken exception first
  | ok pair =>
      obtain ⟨value, rest⟩ := pair
      obtain ⟨after, rfl, shown⟩ := first
      exact continued value after shown

/-- The value, if every integer of it is short; otherwise the `ValueError` of `int`. -/
def Returns {α : Type} (outcome : Except PyException α) (value : α) (short : Prop) : Prop :=
  (short ∧ outcome = .ok value) ∨ (¬short ∧ outcome = .error .valueError)

theorem Returns.bind {α β : Type} {outcome : Except PyException α} {value : α}
    {next : α → Except PyException β} {value' : β} {short short' : Prop}
    (first : Returns outcome value short) (second : Returns (next value) value' short') :
    Returns (outcome >>= next) value' (short ∧ short') := by
  rcases first with ⟨isShort, rfl⟩ | ⟨notShort, rfl⟩
  · rcases second with ⟨isShort', later⟩ | ⟨notShort', later⟩
    · exact .inl ⟨⟨isShort, isShort'⟩, later⟩
    · exact .inr ⟨fun both => notShort' both.2, later⟩
  · exact .inr ⟨fun both => notShort both.1, rfl⟩

theorem Returns.map {α β : Type} {outcome : Except PyException α} {value : α} {short : Prop}
    (returns : Returns outcome value short) (next : α → β) :
    Returns (outcome.map next) (next value) short := by
  rcases returns with ⟨isShort, rfl⟩ | ⟨notShort, rfl⟩
  · exact .inl ⟨isShort, rfl⟩
  · exact .inr ⟨notShort, rfl⟩

theorem Returns.of_ok {α : Type} {outcome : Except PyException α} {value : α}
    (same : outcome = .ok value) : Returns outcome value True :=
  .inl ⟨trivial, same⟩

/-- The exceptions the `except` clauses around the decoder turn into a `WireError`. -/
inductive Refusal : PyException → Prop where
  | jsonDecodeError (message : String) : Refusal (.jsonDecodeError message)
  | recursionError : Refusal .recursionError
  | wireError (message : String) : Refusal (.wireError message)

/-- What reading the text at a place raises. -/
def Raises (source : List Char) (place : Place) (exception : PyException) : Prop :=
  Refusal exception ∨ (exception = .valueError ∧ ReachesOverlong source place)

theorem Raises.inside {source source' : List Char} {place place' : Place}
    (wider : ReachesOverlong source place → ReachesOverlong source' place')
    (exception : PyException) (raised : Raises source place exception) :
    Raises source' place' exception :=
  raised.imp_right fun overlong => ⟨overlong.1, wider overlong.2⟩

/-! ## Strings -/

theorem scanString_quote (rest : PyStr) :
    scanString (CodePoint.ofChar '"' :: rest) = .ok ([], rest) := by
  rw [scanString.eq_def]
  exact if_pos rfl

theorem scanString_printable {point : CodePoint} (notQuote : point ≠ CodePoint.ofChar '"')
    (notBackslash : point ≠ CodePoint.ofChar '\\') (printable : 0x20 ≤ point.val)
    (rest : PyStr) : scanString (point :: rest) =
      (scanString rest).map fun read => (point.units ++ read.1, read.2) := by
  rw [scanString.eq_def]
  dsimp only
  rw [if_neg notQuote, if_neg notBackslash, if_neg (Nat.not_lt.mpr printable)]

theorem scanString_escape {letter : CodePoint} {unit : CodeUnit}
    (notU : letter ≠ CodePoint.ofChar 'u') (known : escape? letter.val = some unit)
    (rest : PyStr) : scanString (CodePoint.ofChar '\\' :: letter :: rest) =
      (scanString rest).map fun read => (unit :: read.1, read.2) := by
  rw [scanString.eq_def]
  dsimp only
  rw [if_neg (by decide), if_pos rfl, if_neg notU, known]

theorem scanString_unicode {first second third fourth : CodePoint} {unit : CodeUnit}
    (hex : hexUnit? first.val second.val third.val fourth.val = some unit) (rest : PyStr) :
    scanString (CodePoint.ofChar '\\' :: CodePoint.ofChar 'u' :: first :: second :: third ::
        fourth :: rest) = (scanString rest).map fun read => (unit :: read.1, read.2) := by
  rw [scanString.eq_def]
  dsimp only
  rw [if_neg (by decide), if_pos rfl, if_pos rfl, hex]

theorem scanString_body {body : List Char} {units : List CodeUnit}
    (derived : StringBody body units) (rest : PyStr) :
    scanString (ofChars body ++ CodePoint.ofChar '"' :: rest) = .ok (units, rest) := by
  induction derived with
  | nil => exact scanString_quote rest
  | @unescaped char text units printable notQuote notBackslash _ inductionHypothesis =>
      rw [ofChars_cons, List.cons_append, scanString_printable _ _ printable, inductionHypothesis]
      · rfl
      · exact fun same => notQuote (CodePoint.ofChar_inj.mp same)
      · exact fun same => notBackslash (CodePoint.ofChar_inj.mp same)
  | @escaped char unit text units known _ inductionHypothesis =>
      have notU : CodePoint.ofChar char ≠ CodePoint.ofChar 'u' := by
        intro same
        rw [CodePoint.ofChar_inj.mp same] at known
        have unknown : escape? 'u'.toNat = none := by decide
        rw [unknown] at known
        cases known
      rw [ofChars_cons, ofChars_cons, List.cons_append, List.cons_append,
        scanString_escape notU known, inductionHypothesis]
      rfl
  | unicode hex _ inductionHypothesis =>
      simp only [ofChars_cons, List.cons_append]
      rw [scanString_unicode hex, inductionHypothesis]
      rfl

/-- What `scanstring` has read so far stands in front of what it reads next. -/
theorem Explains.prepend (body : List Char) (units : List CodeUnit)
    {outcome : Except PyException (List CodeUnit × PyStr)} {source : List Char}
    (grow : ∀ {text units'}, StringBody text units' → StringBody (body ++ text) (units ++ units'))
    (explained : Explains
      (fun units after => ∃ text, source = text ++ '"' :: after ∧ StringBody text units)
      Refusal outcome) :
    Explains
      (fun units after => ∃ text, body ++ source = text ++ '"' :: after ∧ StringBody text units)
      Refusal (outcome.map fun read => (units ++ read.1, read.2)) := by
  cases outcome with
  | error exception => exact explained
  | ok pair =>
      obtain ⟨read, rest⟩ := pair
      obtain ⟨after, rfl, text, rfl, derived⟩ := explained
      exact ⟨after, rfl, body ++ text, by simp, grow derived⟩

/-- `scanstring` returns what a string body denotes, or raises a `JSONDecodeError`. -/
theorem scanString_explains (source : List Char) :
    Explains (fun units after => ∃ text, source = text ++ '"' :: after ∧ StringBody text units)
      Refusal (scanString (ofChars source)) := by
  generalize same : ofChars source = text
  induction text using scanString.induct generalizing source with
  | case1 => exact .jsonDecodeError _
  | case2 rest =>
      obtain ⟨char, after, rfl, isQuote, rfl⟩ := ofChars_eq_cons same
      rw [CodePoint.ofChar_inj.mp isQuote.symm, scanString_quote]
      exact ⟨after, rfl, [], rfl, .nil⟩
  | case3 _ => exact .jsonDecodeError _
  | case4 first second third fourth text unit hex _ inductionHypothesis =>
      obtain ⟨_, source, rfl, slash, same1⟩ := ofChars_eq_cons same
      obtain ⟨_, source, rfl, letter, same2⟩ := ofChars_eq_cons same1
      obtain ⟨_, source, rfl, rfl, same3⟩ := ofChars_eq_cons same2
      obtain ⟨_, source, rfl, rfl, same4⟩ := ofChars_eq_cons same3
      obtain ⟨_, source, rfl, rfl, same5⟩ := ofChars_eq_cons same4
      obtain ⟨_, source, rfl, rfl, same6⟩ := ofChars_eq_cons same5
      rw [scanString_unicode hex, ← CodePoint.ofChar_inj.mp slash,
        ← CodePoint.ofChar_inj.mp letter]
      exact (inductionHypothesis source same6).prepend ['\\', 'u', _, _, _, _] [unit] (.unicode hex)
  | case5 first second third fourth text malformed =>
      rw [scanString.eq_def]
      dsimp only
      rw [if_neg (by decide), if_pos rfl, if_pos rfl, malformed]
      exact .jsonDecodeError _
  | case6 text tooShort _ =>
      rw [scanString.eq_def]
      dsimp only
      rw [if_neg (by decide), if_pos rfl, if_pos rfl]
      split
      · exact absurd rfl (tooShort _ _ _ _ _)
      · exact .jsonDecodeError _
  | case7 letter text notU unit known _ inductionHypothesis =>
      obtain ⟨_, source, rfl, slash, same1⟩ := ofChars_eq_cons same
      obtain ⟨_, source, rfl, rfl, same2⟩ := ofChars_eq_cons same1
      rw [scanString_escape notU known, ← CodePoint.ofChar_inj.mp slash]
      exact (inductionHypothesis source same2).prepend ['\\', _] [unit] (.escaped known)
  | case8 letter text notU unknown _ =>
      rw [scanString.eq_def]
      dsimp only
      rw [if_neg (by decide), if_pos rfl, if_neg notU, unknown]
      exact .jsonDecodeError _
  | case9 point rest notQuote notBackslash control =>
      rw [scanString.eq_def]
      dsimp only
      rw [if_neg notQuote, if_neg notBackslash, if_pos control]
      exact .jsonDecodeError _
  | case10 point rest notQuote notBackslash printable inductionHypothesis =>
      obtain ⟨char, source, rfl, rfl, same1⟩ := ofChars_eq_cons same
      have printable := Nat.le_of_not_lt printable
      rw [scanString_printable notQuote notBackslash printable]
      apply (inductionHypothesis source same1).prepend [char]
      intro text units derived
      apply StringBody.unescaped printable _ _ derived
      · rintro rfl
        exact notQuote rfl
      · rintro rfl
        exact notBackslash rfl

/-! ## Literals -/

variable {M : FloatMath K}

theorem number_returns (M : FloatMath K) (numeral : Numeral) :
    Returns (number (Wire.decoderHooks M parseInt) numeral) (.num (pyNumber M numeral))
      (¬Overlong numeral) := by
  unfold number pyNumber
  by_cases integral : numeral.isInteger = true
  · rw [if_pos integral, if_pos integral]
    by_cases long : intMaxStrDigits < numeral.integer.length
    · refine .inr ⟨not_not.mpr ⟨integral, long⟩, ?_⟩
      change (parseInt numeral).map _ = _
      rw [parseInt, if_pos long]
      rfl
    · refine .inl ⟨fun overlong => long overlong.2, ?_⟩
      change (parseInt numeral).map _ = _
      rw [parseInt, if_neg long]
      rfl
  · rw [if_neg integral, if_neg integral]
    exact .inl ⟨fun overlong => integral overlong.1, rfl⟩

theorem scanAtom_numeral (hooks : DecoderHooks K) {text rest : PyStr} {numeral : Numeral}
    (read : Numeral.scan text = some (numeral, rest)) :
    scanAtom hooks text = (number hooks numeral).map (·, rest) := by
  unfold scanAtom
  rw [read]

theorem scanAtom_number {numeral : Numeral} (wellFormed : numeral.WellFormed) {rest : PyStr}
    (closed : Numeral.Closed rest) :
    Returns (scanAtom (Wire.decoderHooks M parseInt) (ofChars numeral.text ++ rest))
      (.num (pyNumber M numeral), rest) (¬Overlong numeral) := by
  rw [scanAtom_numeral _ (Numeral.scan_ofChars wellFormed closed)]
  rcases number_returns M numeral with ⟨short, same⟩ | ⟨long, same⟩
  · exact .inl ⟨short, by rw [same]; rfl⟩
  · exact .inr ⟨long, by rw [same]; rfl⟩

/-- What reading a value of the text returns. -/
def ReadsValue (M : FloatMath K) (source : List Char) (document : PyJson K) (after : List Char) :
    Prop :=
  ∃ text tree, source = text ++ after ∧ Derives text (.value tree) ∧ tree.DistinctKeys ∧
    ShortIntegers tree ∧ document = pyDocument M tree

theorem constant_explains (M : FloatMath K) (source : List Char) :
    Explains (ReadsValue M source) Refusal
      (constant (Wire.decoderHooks M parseInt) (ofChars source)) := by
  unfold constant
  split
  · next read =>
      obtain ⟨after, rfl, rfl⟩ := consumeAll?_sound read
      exact ⟨after, rfl, _, .null, rfl, .null, trivial, trivial, rfl⟩
  · split
    · next read =>
        obtain ⟨after, rfl, rfl⟩ := consumeAll?_sound read
        exact ⟨after, rfl, _, .bool true, rfl, .true, trivial, trivial, rfl⟩
    · split
      · next read =>
          obtain ⟨after, rfl, rfl⟩ := consumeAll?_sound read
          exact ⟨after, rfl, _, .bool false, rfl, .false, trivial, trivial, rfl⟩
      · split
        · exact .wireError _
        · split
          · exact .wireError _
          · split
            · exact .wireError _
            · exact .jsonDecodeError _

theorem scanAtom_explains (M : FloatMath K) (source : List Char) :
    Explains (ReadsValue M source) (Raises source .value)
      (scanAtom (Wire.decoderHooks M parseInt) (ofChars source)) := by
  cases read : Numeral.scan (ofChars source) with
  | none =>
      unfold scanAtom
      rw [read]
      have explained := constant_explains M source
      dsimp only
      generalize constant (Wire.decoderHooks M parseInt) (ofChars source) = outcome at explained
      cases outcome with
      | error exception => exact .inl explained
      | ok pair => exact explained
  | some pair =>
      obtain ⟨numeral, rest⟩ := pair
      rw [scanAtom_numeral _ read]
      obtain ⟨written, wellFormed⟩ := Numeral.scan_sound read
      rw [← Numeral.ofChars_eq_encode] at written
      obtain ⟨text, after, rfl, isText, rfl⟩ := List.map_eq_append_iff.mp written
      obtain rfl := List.map_injective_iff.mpr (fun _ _ => CodePoint.ofChar_inj.mp) isText
      rcases number_returns M numeral with ⟨short, same⟩ | ⟨long, same⟩
      · rw [same]
        exact ⟨after, rfl, _, .num numeral, rfl, .number wellFormed, trivial, short, rfl⟩
      · rw [same]
        exact .inr ⟨rfl, .literal read (not_not.mp long)⟩

/-! ## Containers, one step -/

section Steps

variable (hooks : DecoderHooks K) (calls : ℕ) {text rest : PyStr}

theorem scanOnce_string (text : PyStr) :
    scanOnce hooks (calls + 1) (CodePoint.ofChar '"' :: text) =
      (scanString text).map fun read => (.str (codePoints read.1), read.2) := by
  rw [scanOnce, consume?_same]

theorem scanOnce_emptyObject (ends : consume? '}' (skipWhitespace text) = some rest) :
    scanOnce hooks (calls + 1) (CodePoint.ofChar '{' :: text) =
      (hooks.objectPairsHook []).map (·, rest) := by
  rw [scanOnce, consume?_other (by decide), consume?_same]
  dsimp only
  rw [ends]

theorem scanOnce_object (more : consume? '}' (skipWhitespace text) = none) :
    scanOnce hooks (calls + 1) (CodePoint.ofChar '{' :: text) =
      scanMembers hooks calls (skipWhitespace text) >>= fun read =>
        (hooks.objectPairsHook read.1).map (·, read.2) := by
  rw [scanOnce, consume?_other (by decide), consume?_same]
  dsimp only
  rw [more]
  rfl

theorem scanOnce_emptyArray (ends : consume? ']' (skipWhitespace text) = some rest) :
    scanOnce hooks (calls + 1) (CodePoint.ofChar '[' :: text) = .ok (.arr [], rest) := by
  rw [scanOnce, consume?_other (by decide), consume?_other (by decide), consume?_same]
  dsimp only
  rw [ends]

theorem scanOnce_array (more : consume? ']' (skipWhitespace text) = none) :
    scanOnce hooks (calls + 1) (CodePoint.ofChar '[' :: text) =
      (scanItems hooks calls (skipWhitespace text)).map fun read => (.arr read.1, read.2) := by
  rw [scanOnce, consume?_other (by decide), consume?_other (by decide), consume?_same]
  dsimp only
  rw [more]
  rfl

theorem scanOnce_atom (notString : consume? '"' text = none) (notObject : consume? '{' text = none)
    (notArray : consume? '[' text = none) :
    scanOnce hooks (calls + 1) text = scanAtom hooks text := by
  rw [scanOnce, notString, notObject, notArray]

/-- What follows the value of a member. -/
def afterMember (name : List CodeUnit) (read : PyJson K × PyStr) :
    Except PyException (PyPairs K × PyStr) :=
  match consume? '}' (skipWhitespace read.2) with
  | some rest => .ok ([(codePoints name, read.1)], rest)
  | none =>
  match consume? ',' (skipWhitespace read.2) with
  | none => .error (.jsonDecodeError "Expecting ',' delimiter")
  | some text =>
      (scanMembers hooks calls (skipWhitespace text)).map fun others =>
        ((codePoints name, read.1) :: others.1, others.2)

/-- What follows the name of a member. -/
def afterName (read : List CodeUnit × PyStr) : Except PyException (PyPairs K × PyStr) :=
  match consume? ':' (skipWhitespace read.2) with
  | none => .error (.jsonDecodeError "Expecting ':' delimiter")
  | some text =>
      scanOnce hooks calls (skipWhitespace text) >>= afterMember hooks calls read.1

theorem scanMembers_step (text : PyStr) :
    scanMembers hooks (calls + 1) (CodePoint.ofChar '"' :: text) =
      scanString text >>= afterName hooks calls := by
  rw [scanMembers, consume?_same]
  rfl

/-- What follows an item. -/
def afterItem (read : PyJson K × PyStr) : Except PyException (List (PyJson K) × PyStr) :=
  match consume? ']' (skipWhitespace read.2) with
  | some rest => .ok ([read.1], rest)
  | none =>
  match consume? ',' (skipWhitespace read.2) with
  | none => .error (.jsonDecodeError "Expecting ',' delimiter")
  | some text =>
      (scanItems hooks calls (skipWhitespace text)).map fun others =>
        (read.1 :: others.1, others.2)

theorem scanItems_step (text : PyStr) :
    scanItems hooks (calls + 1) text = scanOnce hooks calls text >>= afterItem hooks calls := by
  rw [scanItems]
  rfl

end Steps

/-! ## Duplicate keys -/

theorem collectKeys_eq (normalized pairs : PyPairs K)
    (distinct : (normalized.map Prod.fst).Nodup) :
    Wire.collectKeys normalized pairs =
      if ((normalized ++ pairs).map Prod.fst).Nodup then .ok (normalized ++ pairs)
      else .error (.wireError "duplicate keys in JSON object") := by
  induction pairs generalizing normalized with
  | nil => rw [Wire.collectKeys, List.append_nil, if_pos distinct]
  | cons pair pairs inductionHypothesis =>
      obtain ⟨key, value⟩ := pair
      rw [Wire.collectKeys]
      by_cases seen : key ∈ normalized.map Prod.fst
      · rw [if_pos seen, if_neg]
        rw [List.map_append, List.nodup_append]
        exact fun distinct => distinct.2.2 key seen key (by simp) rfl
      · rw [if_neg seen, inductionHypothesis, List.append_assoc]
        · rfl
        · rw [List.map_append, List.nodup_append]
          refine ⟨distinct, List.nodup_singleton key, ?_⟩
          intro other membership _ single
          rw [List.mem_singleton.mp single]
          rintro rfl
          exact seen membership

/-- A dictionary keeps the pairs of an object whose keys are distinct. -/
theorem rejectDuplicateKeys_eq (pairs : PyPairs K) :
    Wire.rejectDuplicateKeys pairs =
      if (pairs.map Prod.fst).Nodup then .ok (.obj pairs)
      else .error (.wireError "duplicate keys in JSON object") := by
  unfold Wire.rejectDuplicateKeys
  rw [collectKeys_eq [] pairs List.nodup_nil, List.nil_append]
  split <;> rfl

theorem nodup_pyMembers (M : FloatMath K) (members : List (List CodeUnit × Document)) :
    ((pyMembers M members).map Prod.fst).Nodup ↔ (members.map Prod.fst).Nodup := by
  rw [Tree.map_fst_mapMembers]
  exact List.nodup_map_iff codePoints_injective

end JsonDecoder

end ValeraControlTower
