import ValeraControlTower.Unity.ParserCompleteness

/-!
# What the strict parser accepts

A reader that returns has consumed a text of the grammar, of which it returns the value.
The keys of every object are distinct, no string has a lone surrogate, and the depth is
within the levels the reader was given.
-/

namespace ValeraControlTower.Unity

open Unicode Json CsString

namespace StrictJsonParser

/-! ## Characters -/

/-- The white space in front of what is left. -/
theorem skipWhitespace_sound (source : CsString) :
    ∃ blank, Blank blank ∧ source = utf16 blank ++ skipWhitespace source := by
  induction source with
  | nil => exact ⟨[], Blank.nil, rfl⟩
  | cons unit source inductionHypothesis =>
      by_cases white : isWhitespace unit = true
      · obtain ⟨blank, isBlank, same⟩ := inductionHypothesis
        have known : ∃ char, blankChar char = true ∧ (CodePoint.ofChar char).units = [unit] := by
          simp only [isWhitespace, Bool.or_eq_true, decide_eq_true_eq] at white
          rcases white with ((rfl | rfl) | rfl) | rfl
          · exact ⟨' ', rfl, rfl⟩
          · exact ⟨'\t', rfl, rfl⟩
          · exact ⟨'\r', rfl, rfl⟩
          · exact ⟨'\n', rfl, rfl⟩
        obtain ⟨char, whiteChar, single⟩ := known
        have skipped : skipWhitespace (unit :: source) = skipWhitespace source :=
          List.dropWhile_cons_of_pos white
        refine ⟨char :: blank, List.forall_mem_cons.mpr ⟨whiteChar, isBlank⟩, ?_⟩
        rw [utf16_cons, single, skipped, List.append_assoc, ← same, List.singleton_append]
      · exact ⟨[], Blank.nil, (List.dropWhile_cons_of_neg white).symm⟩

theorem consume?_sound {char : Char} {source rest : CsString}
    (consumed : consume? char (skipWhitespace source) = some rest) :
    ∃ blank, Blank blank ∧ source = utf16 blank ++ CodeUnit.ofChar char :: rest := by
  obtain ⟨blank, isBlank, same⟩ := skipWhitespace_sound source
  rw [consume?_eq_some consumed] at same
  exact ⟨blank, isBlank, same⟩

theorem require_sound {char : Char} {source rest : CsString}
    (read : require char source = .ok rest) :
    ∃ blank, Blank blank ∧ source = utf16 blank ++ CodeUnit.ofChar char :: rest := by
  unfold require at read
  split at read
  · next after consumed =>
      cases read
      exact consume?_sound consumed
  · cases read

theorem require_skip (char : Char) (source : CsString) :
    require char (skipWhitespace source) = require char source := by
  unfold require
  rw [skipWhitespace_idempotent]

theorem readLiteral_sound {literal source rest : CsString}
    (read : readLiteral literal source = .ok rest) : source = literal ++ rest := by
  induction literal generalizing source with
  | nil =>
      cases read
      rfl
  | cons expected literal inductionHypothesis =>
      cases source with
      | nil => cases read
      | cons unit source =>
          rw [readLiteral] at read
          split at read
          · next same => rw [same, inductionHypothesis read, List.cons_append]
          · cases read

/-! ## Strings -/

theorem hexDigit?_unit {unit : CodeUnit} {digit : Fin 16} (read : hexDigit? unit.val = some digit) :
    ∃ char : Char, (CodePoint.ofChar char).units = [unit] ∧ char.toNat = unit.val := by
  have ascii := hexDigit?_ascii read
  apply CodeUnit.exists_char
  simp only [CodeUnit.isSurrogate, CodeUnit.isHighSurrogate, CodeUnit.isLowSurrogate,
    Bool.or_eq_false_iff, decide_eq_false_iff_not]
  omega

/-- Four hexadecimal digits. -/
theorem readHexCodeUnit_sound {source rest : CsString} {unit : CodeUnit}
    (read : readHexCodeUnit source = .ok (unit, rest)) :
    ∃ first second third fourth : Char,
      hexUnit? first.toNat second.toNat third.toNat fourth.toNat = some unit ∧
      source = utf16 [first, second, third, fourth] ++ rest := by
  unfold readHexCodeUnit at read
  split at read
  · split at read
    · next hex =>
        cases read
        obtain ⟨_, _, _, _, isFirst, isSecond, isThird, isFourth, _⟩ := hexUnit?_eq_some hex
        obtain ⟨first, firstUnits, firstCode⟩ := hexDigit?_unit isFirst
        obtain ⟨second, secondUnits, secondCode⟩ := hexDigit?_unit isSecond
        obtain ⟨third, thirdUnits, thirdCode⟩ := hexDigit?_unit isThird
        obtain ⟨fourth, fourthUnits, fourthCode⟩ := hexDigit?_unit isFourth
        refine ⟨first, second, third, fourth, ?_, ?_⟩
        · rwa [firstCode, secondCode, thirdCode, fourthCode]
        · simp [firstUnits, secondUnits, thirdUnits, fourthUnits]
    · cases read
  · cases read

/-- A stretch of a string body, and the code units it denotes. -/
structure Stretch (chars : List Char) (text : CsString) : Prop where
  body : ∀ later units, StringBody later units → StringBody (chars ++ later) (text ++ units)
  paired : Paired text

theorem stretch_unicode {source rest text : CsString}
    (read : readUnicodeEscape source = .ok (text, rest)) :
    ∃ chars, source = utf16 chars ++ rest ∧ Stretch ('\\' :: 'u' :: chars) text := by
  unfold readUnicodeEscape at read
  obtain ⟨⟨high, afterHigh⟩, readHigh, goesOn⟩ := bind_eq_ok read
  obtain ⟨first, second, third, fourth, hex, same⟩ := readHexCodeUnit_sound readHigh
  dsimp only at goesOn
  split at goesOn
  · next notHigh =>
      split at goesOn
      · cases goesOn
      · next notLow =>
          cases goesOn
          refine ⟨[first, second, third, fourth], same, ?_, ?_⟩
          · exact fun later units body => .unicode hex body
          · simp only [Bool.not_eq_true', Bool.not_eq_true] at notHigh notLow
            simp [Paired, wellFormed, CodeUnit.isSurrogate, notHigh, notLow]
  · next isHigh =>
      split at goesOn
      · next backslash letter afterLetter =>
          split at goesOn
          · cases goesOn
          · next isEscape =>
              obtain ⟨⟨low, afterLow⟩, readLow, ends⟩ := bind_eq_ok goesOn
              obtain ⟨first', second', third', fourth', hex', rfl⟩ := readHexCodeUnit_sound readLow
              dsimp only at ends
              split at ends
              · cases ends
              · next isLow =>
                  cases ends
                  simp only [not_or, ne_eq, not_not] at isEscape
                  obtain ⟨rfl, rfl⟩ := isEscape
                  refine ⟨[first, second, third, fourth, '\\', 'u', first', second', third',
                    fourth'], ?_, ?_, ?_⟩
                  · rw [same]
                    simp [CodePoint.units_ofChar]
                  · exact fun later units body => .unicode hex (.unicode hex' body)
                  · simp only [Bool.not_eq_true', Bool.not_eq_false] at isHigh isLow
                    simp [Paired, wellFormed, isHigh, isLow]
      · cases goesOn

theorem stretch_escape {source rest text : CsString} (read : readEscape source = .ok (text, rest)) :
    ∃ chars, source = utf16 chars ++ rest ∧ Stretch ('\\' :: chars) text := by
  cases source with
  | nil => cases read
  | cons escape source =>
      rw [readEscape] at read
      split at read
      · next isU =>
          obtain ⟨chars, rfl, stretch⟩ := stretch_unicode read
          refine ⟨'u' :: chars, ?_, stretch⟩
          rw [isU, utf16_basic (by decide), List.cons_append]
      · split at read
        · next unit known =>
            cases read
            obtain ⟨ascii, proper⟩ := escape?_ascii known
            have notSurrogate : escape.isSurrogate = false := by
              simp only [CodeUnit.isSurrogate, CodeUnit.isHighSurrogate, CodeUnit.isLowSurrogate,
                Bool.or_eq_false_iff, decide_eq_false_iff_not]
              omega
            obtain ⟨char, single, code⟩ := CodeUnit.exists_char notSurrogate
            rw [← code] at known
            refine ⟨[char], ?_, fun later units body => .escaped known body, ?_⟩
            · simp [single]
            · simp [Paired, wellFormed, proper]
        · cases read

theorem stretch_plain {unit : CodeUnit} {source rest text : CsString}
    (printable : ¬unit.val < 0x20) (notQuote : unit ≠ CodeUnit.ofChar '"')
    (notBackslash : unit ≠ CodeUnit.ofChar '\\')
    (read : readPlain unit source = .ok (text, rest)) :
    ∃ chars, unit :: source = utf16 chars ++ rest ∧ Stretch chars text := by
  -- A character that denotes itself, of one code unit or of two.
  have single : ∀ {char : Char}, (CodePoint.ofChar char).units = text → 0x20 ≤ char.toNat →
      char ≠ '"' → char ≠ '\\' → Stretch [char] text := by
    rintro char rfl above otherQuote otherBackslash
    refine ⟨fun later units body => .unescaped above otherQuote otherBackslash body, ?_⟩
    have written := wellFormed_utf16 [char]
    rwa [utf16_cons, utf16_nil, List.append_nil] at written
  unfold readPlain at read
  split at read
  · split at read
    · cases read
    · next isHigh =>
        split at read
        · cases read
        · next low after =>
            split at read
            · cases read
            · next isLow =>
                cases read
                simp only [Bool.not_eq_true', Bool.not_eq_false] at isHigh isLow
                obtain ⟨char, pair, beyond⟩ := exists_char_pair isHigh isLow
                refine ⟨[char], ?_, single pair (by omega) ?_ ?_⟩
                · simp [pair]
                · rintro rfl
                  exact absurd beyond (by decide)
                · rintro rfl
                  exact absurd beyond (by decide)
  · next notSurrogate =>
      cases read
      obtain ⟨char, itself, code⟩ :=
        CodeUnit.exists_char (Bool.eq_false_of_not_eq_true notSurrogate)
      refine ⟨[char], ?_, single itself (by omega) ?_ ?_⟩
      · simp [itself]
      · rintro rfl
        exact notQuote (List.singleton_inj.mp itself).symm
      · rintro rfl
        exact notBackslash (List.singleton_inj.mp itself).symm

theorem paired_append {first second : CsString} (left : Paired first) (right : Paired second) :
    Paired (first ++ second) := by
  obtain ⟨text, rfl⟩ := exists_utf16 left
  unfold Paired
  rw [wellFormed_utf16_append]
  exact right

/-- The loop of `ReadString` reads a string body and the quote behind it. -/
theorem readCharacters_sound {rounds : ℕ} {source units rest : CsString}
    (read : readCharacters rounds source = .ok (units, rest)) :
    ∃ text, source = utf16 text ++ CodeUnit.ofChar '"' :: rest ∧ StringBody text units ∧
      Paired units := by
  induction rounds generalizing source units with
  | zero => cases read
  | succ rounds inductionHypothesis =>
      cases source with
      | nil => cases read
      | cons unit source =>
          rw [readCharacters] at read
          split at read
          · next isQuote =>
              cases read
              exact ⟨[], by rw [isQuote]; rfl, .nil, rfl⟩
          · next notQuote =>
              split at read
              · cases read
              · next printable =>
                  obtain ⟨⟨text, after⟩, readFirst, read⟩ := bind_eq_ok read
                  obtain ⟨⟨later, last⟩, readLater, read⟩ := bind_eq_ok read
                  cases read
                  have first : ∃ chars, unit :: source = utf16 chars ++ after ∧
                      Stretch chars text := by
                    unfold readCharacter at readFirst
                    split at readFirst
                    · next notBackslash =>
                        exact stretch_plain printable notQuote notBackslash readFirst
                    · next isBackslash =>
                        obtain ⟨chars, rfl, stretch⟩ := stretch_escape readFirst
                        refine ⟨'\\' :: chars, ?_, stretch⟩
                        rw [not_not.mp isBackslash, utf16_basic (by decide), List.cons_append]
                  obtain ⟨chars, same, stretch⟩ := first
                  obtain ⟨body, rfl, isBody, proper⟩ := inductionHypothesis readLater
                  refine ⟨chars ++ body, ?_, stretch.body body later isBody,
                    paired_append stretch.paired proper⟩
                  rw [same, utf16_append, List.append_assoc]

theorem readString_sound {source units rest : CsString}
    (read : readString source = .ok (units, rest)) :
    ∃ before text, Blank before ∧ StringBody text units ∧ Paired units ∧
      source = utf16 before ++ CodeUnit.ofChar '"' ::
        (utf16 text ++ CodeUnit.ofChar '"' :: rest) := by
  unfold readString at read
  obtain ⟨after, opened, readBody⟩ := bind_eq_ok read
  obtain ⟨before, isBefore, same⟩ := require_sound opened
  obtain ⟨text, rfl, body, paired⟩ := readCharacters_sound readBody
  exact ⟨before, text, isBefore, body, paired, same⟩

/-! ## Containers -/

/-- What the parser has checked of a part it read at a level. -/
def Checked (levels : ℕ) : PartOf CsString → Prop
  | .value tree => tree.DistinctKeys ∧ tree.Strings Paired ∧ tree.depth ≤ levels
  | .items items =>
      Tree.DistinctKeysItems items ∧ Tree.StringsItems Paired items ∧ Tree.depthItems items ≤ levels
  | .members members => Tree.DistinctKeysMembers members ∧ Tree.StringsMembers Paired members ∧
      Tree.depthMembers members ≤ levels

/-- A value of the grammar behind white space. -/
def ReadsValue (levels : ℕ) (source : CsString) (value : JsonValue) (rest : CsString) : Prop :=
  ∃ before text, Blank before ∧ source = utf16 before ++ (utf16 text ++ rest) ∧
    DerivesBy Literal text (.value value) ∧ Checked levels (.value value)

/-- The inside of an array from where the loop stands, and its bracket. -/
def ReadsItems (levels : ℕ) (items : List JsonValue) (source : CsString) (value : JsonValue)
    (rest : CsString) : Prop :=
  ∃ text later, source = utf16 text ++ CodeUnit.ofChar ']' :: rest ∧
    value = .arr (items ++ later) ∧ DerivesBy Literal text (.items later) ∧
    Checked levels (.items later)

/-- The inside of an object from where the loop stands, and its brace. -/
def ReadsMembers (levels : ℕ) (members : List (CsString × JsonValue)) (source : CsString)
    (value : JsonValue) (rest : CsString) : Prop :=
  ∃ text later, source = utf16 text ++ CodeUnit.ofChar '}' :: rest ∧
    value = .obj (members ++ later) ∧ DerivesBy Literal text (.members later) ∧
    ((members ++ later).map Prod.fst).Nodup ∧ Checked levels (.members later)

section Loops

variable {levels : ℕ}
  (inside : ∀ source value rest, readValue levels source = .ok (value, rest) →
    ReadsValue levels source value rest)

include inside

theorem readItems_sound {rounds : ℕ} {items : List JsonValue} {source rest : CsString}
    {value : JsonValue}
    (read : readItems (readValue levels) rounds items source = .ok (value, rest)) :
    ReadsItems levels items source value rest := by
  induction rounds generalizing items source with
  | zero => cases read
  | succ rounds inductionHypothesis =>
      rw [readItems_step] at read
      obtain ⟨⟨item, after⟩, readItem, goesOn⟩ := bind_eq_ok read
      obtain ⟨before, text, isBefore, same, derived, distinct, paired, shallow⟩ :=
        inside _ _ _ readItem
      unfold afterItem at goesOn
      split at goesOn
      · next last closed =>
          cases goesOn
          obtain ⟨blank, isBlank, rfl⟩ := consume?_sound closed
          refine ⟨before ++ (text ++ blank), [item], ?_, rfl, .lastItem isBefore derived isBlank,
            ⟨distinct, trivial⟩, ⟨paired, trivial⟩, by simpa [Tree.depthItems] using shallow⟩
          rw [same]
          simp
      · obtain ⟨last, separated, readLater⟩ := bind_eq_ok goesOn
        rw [require_skip] at separated
        obtain ⟨blank, isBlank, rfl⟩ := require_sound separated
        obtain ⟨others, later, rfl, rfl, derivedLater, distinctLater, pairedLater, shallowLater⟩ :=
          inductionHypothesis readLater
        refine ⟨before ++ (text ++ (blank ++ ',' :: others)), item :: later, ?_, ?_,
          .item isBefore derived isBlank derivedLater, ⟨distinct, distinctLater⟩,
          ⟨paired, pairedLater⟩, max_le shallow shallowLater⟩
        · rw [same]
          simp [CodePoint.units_ofChar]
        · simp

/-- The name of a member, its colon, and the value behind it. -/
theorem readMembers_named {rounds : ℕ} {members : List (CsString × JsonValue)}
    {source rest : CsString} {value : JsonValue}
    (read : readMembers (readValue levels) (rounds + 1) members source = .ok (value, rest)) :
    ∃ before key beforeColon afterColon text name member after, Blank before ∧
      StringBody key name ∧ Paired name ∧ name ∉ members.map Prod.fst ∧ Blank beforeColon ∧
      Blank afterColon ∧ DerivesBy Literal text (.value member) ∧ Checked levels (.value member) ∧
      source = utf16 (before ++ '"' :: (key ++ '"' :: (beforeColon ++ ':' ::
        (afterColon ++ text)))) ++ after ∧
      afterMember levels rounds members name (member, after) = .ok (value, rest) := by
  obtain ⟨before, isBefore, same⟩ := skipWhitespace_sound source
  rw [readMembers] at read
  split at read
  · cases read
  · obtain ⟨⟨name, afterName⟩, readName, goesOn⟩ := bind_eq_ok read
    obtain ⟨blank, key, isBlank, isName, paired, quotedName⟩ := readString_sound readName
    dsimp only at goesOn
    split at goesOn
    · cases goesOn
    · next fresh =>
        obtain ⟨afterPunctuation, separated, readNext⟩ := bind_eq_ok goesOn
        rw [require_skip] at separated
        obtain ⟨beforeColon, isBeforeColon, rfl⟩ := require_sound separated
        obtain ⟨⟨member, after⟩, readMember, last⟩ := bind_eq_ok readNext
        obtain ⟨afterColon, text, isAfterColon, rfl, derived, checked⟩ := inside _ _ _ readMember
        refine ⟨before ++ blank, key, beforeColon, afterColon, text, name, member, after,
          isBefore.append isBlank, isName, paired, fresh, isBeforeColon, isAfterColon, derived,
          checked, ?_, last⟩
        rw [same, quotedName, utf16_member, utf16_append, List.append_assoc]

theorem readMembers_sound {rounds : ℕ} {members : List (CsString × JsonValue)}
    {source rest : CsString} {value : JsonValue} (nodup : (members.map Prod.fst).Nodup)
    (read : readMembers (readValue levels) rounds members source = .ok (value, rest)) :
    ReadsMembers levels members source value rest := by
  induction rounds generalizing members source with
  | zero => cases read
  | succ rounds inductionHypothesis =>
      obtain ⟨before, key, beforeColon, afterColon, text, name, member, after, isBefore, isName,
        pairedName, fresh, isBeforeColon, isAfterColon, derived, ⟨distinct, paired, shallow⟩, same,
        goesOn⟩ := readMembers_named inside read
      have nodupNext : ((members ++ [(name, member)]).map Prod.fst).Nodup := by
        rw [List.map_append]
        exact List.nodup_append'.mpr ⟨nodup, List.nodup_singleton _, by simpa using fresh⟩
      unfold afterMember at goesOn
      split at goesOn
      · next last closed =>
          cases goesOn
          obtain ⟨blank, isBlank, rfl⟩ := consume?_sound closed
          refine ⟨_, [(name, member)], ?_, rfl,
            .lastMember isBefore isName isBeforeColon isAfterColon derived isBlank, nodupNext,
            ⟨distinct, trivial⟩, ⟨pairedName, paired, trivial⟩,
            by simpa [Tree.depthMembers] using shallow⟩
          rw [same]
          simp
      · obtain ⟨last, separated, readLater⟩ := bind_eq_ok goesOn
        rw [require_skip] at separated
        obtain ⟨blank, isBlank, rfl⟩ := require_sound separated
        obtain ⟨others, later, rfl, rfl, derivedLater, nodupLater, distinctLater, pairedLater,
          shallowLater⟩ := inductionHypothesis nodupNext readLater
        rw [List.append_assoc, List.singleton_append] at nodupLater ⊢
        refine ⟨_, (name, member) :: later, ?_, rfl,
          .member isBefore isName isBeforeColon isAfterColon derived isBlank derivedLater,
          nodupLater, ⟨distinct, distinctLater⟩, ⟨pairedName, paired, pairedLater⟩,
          max_le shallow shallowLater⟩
        rw [same]
        simp [CodePoint.units_ofChar]

/-- `ReadArray`, behind the bracket. -/
theorem readArray_sound {source rest : CsString} {value : JsonValue}
    (read : readArray (readValue levels) source = .ok (value, rest)) :
    ∃ text, CodeUnit.ofChar '[' :: source = utf16 text ++ rest ∧
      DerivesBy Literal text (.value value) ∧ Checked (levels + 1) (.value value) := by
  unfold readArray at read
  split at read
  · next after closed =>
      cases read
      obtain ⟨blank, isBlank, rfl⟩ := consume?_sound closed
      refine ⟨'[' :: (blank ++ [']']), ?_, .emptyArray isBlank, trivial, trivial,
        Nat.le_add_left 1 levels⟩
      rw [utf16_enclosed (by decide) (by decide)]
  · rw [readItems_skip] at read
    obtain ⟨text, items, rfl, rfl, derived, distinct, paired, shallow⟩ :=
      readItems_sound inside read
    refine ⟨'[' :: (text ++ [']']), ?_, .array derived, distinct, paired, ?_⟩
    · rw [utf16_enclosed (by decide) (by decide)]
    · rw [List.nil_append, Tree.depth, Nat.add_comm]
      exact Nat.succ_le_succ shallow

/-- `ReadObject`, behind the brace. -/
theorem readObject_sound {source rest : CsString} {value : JsonValue}
    (read : readObject (readValue levels) source = .ok (value, rest)) :
    ∃ text, CodeUnit.ofChar '{' :: source = utf16 text ++ rest ∧
      DerivesBy Literal text (.value value) ∧ Checked (levels + 1) (.value value) := by
  unfold readObject at read
  split at read
  · next after closed =>
      cases read
      obtain ⟨blank, isBlank, rfl⟩ := consume?_sound closed
      refine ⟨'{' :: (blank ++ ['}']), ?_, .emptyObject isBlank, ⟨List.nodup_nil, trivial⟩,
        trivial, Nat.le_add_left 1 levels⟩
      rw [utf16_enclosed (by decide) (by decide)]
  · rw [readMembers_skip] at read
    obtain ⟨text, members, rfl, rfl, derived, nodup, distinct, paired, shallow⟩ :=
      @readMembers_sound _ inside _ [] _ _ _ List.nodup_nil read
    refine ⟨'{' :: (text ++ ['}']), ?_, .object derived, ⟨nodup, distinct⟩, paired, ?_⟩
    · rw [utf16_enclosed (by decide) (by decide)]
    · rw [List.nil_append, Tree.depth, Nat.add_comm]
      exact Nat.succ_le_succ shallow

end Loops

/-! ## Values -/

theorem map_eq_ok {α β : Type} {outcome : Except CsException α} {onValue : α → β} {value : β}
    (mapped : outcome.map onValue = .ok value) :
      ∃ before, outcome = .ok before ∧ onValue before = value := by
  cases outcome with
  | error exception => cases mapped
  | ok before => exact ⟨before, rfl, Except.ok.inj mapped⟩

theorem ReadsValue.of_skip {levels : ℕ} {source rest : CsString} {value : JsonValue}
    (reads : ReadsValue levels (skipWhitespace source) value rest) :
    ReadsValue levels source value rest := by
  obtain ⟨blank, isBlank, same⟩ := skipWhitespace_sound source
  obtain ⟨before, text, isBefore, skipped, derived, checked⟩ := reads
  refine ⟨blank ++ before, text, isBlank.append isBefore, ?_, derived, checked⟩
  rw [same, skipped, utf16_append, List.append_assoc]

/-- A value without white space in front. -/
theorem ReadsValue.of_text {levels : ℕ} {source rest : CsString} {value : JsonValue}
    (reads : ∃ text, source = utf16 text ++ rest ∧ DerivesBy Literal text (.value value) ∧
      Checked levels (.value value)) : ReadsValue levels source value rest := by
  obtain ⟨text, same, derived, checked⟩ := reads
  exact ⟨[], text, Blank.nil, same, derived, checked⟩

/-- A literal name. -/
theorem readLiteral_value {levels : ℕ} {text : List Char} {tree : JsonValue}
    {source rest : CsString} {value : JsonValue}
    (read : (readLiteral (utf16 text) source).map (fun after => (tree, after)) = .ok (value, rest))
    (derived : DerivesBy Literal text (.value tree)) (checked : Checked levels (.value tree)) :
    ReadsValue levels source value rest := by
  obtain ⟨after, readText, same⟩ := map_eq_ok read
  cases same
  exact .of_text ⟨text, readLiteral_sound readText, derived, checked⟩

theorem readString_value {levels : ℕ} {source rest : CsString} {value : JsonValue}
    (read : (readString source).map (fun read => (.str read.1, read.2)) = .ok (value, rest)) :
    ReadsValue (levels + 1) source value rest := by
  obtain ⟨⟨units, after⟩, readText, same⟩ := map_eq_ok read
  cases same
  obtain ⟨before, text, isBefore, body, paired, same⟩ := readString_sound readText
  refine ⟨before, '"' :: (text ++ ['"']), isBefore, ?_, .string body, trivial, paired,
    Nat.le_add_left 1 levels⟩
  rw [same, utf16_enclosed (by decide) (by decide)]

theorem readNumber_value {levels : ℕ} {source rest : CsString} {value : JsonValue}
    (starts : ∀ unit, source.head? = some unit → StartsNumber unit)
    (read : (readNumber source).map (fun read => (.num read.1, read.2)) = .ok (value, rest)) :
    ReadsValue (levels + 1) source value rest := by
  obtain ⟨⟨text, after⟩, readText, same⟩ := map_eq_ok read
  cases same
  obtain ⟨isNumber, rfl⟩ := readNumber_sound starts readText
  obtain ⟨chars, rfl⟩ := isNumber.exists_utf16
  exact .of_text ⟨chars, rfl, .number ⟨rfl, isNumber⟩, trivial, trivial, Nat.le_add_left 1 levels⟩

/-- What is read has been checked and is what the grammar says. -/
theorem readValue_sound (levels : ℕ) (source : CsString) (value : JsonValue) (rest : CsString)
    (read : readValue levels source = .ok (value, rest)) : ReadsValue levels source value rest := by
  induction levels generalizing source value rest with
  | zero => cases read
  | succ levels inductionHypothesis =>
      apply ReadsValue.of_skip
      rw [readValue] at read
      split at read
      · cases read
      · next unit after skipped =>
          rw [skipped]
          have flat : 1 ≤ levels + 1 := Nat.le_add_left 1 levels
          -- The character the value starts with.
          split_ifs at read with isBrace isBracket isQuote isTrue isFalse isNull starts
          · rw [isBrace]
            exact .of_text (readObject_sound inductionHypothesis read)
          · rw [isBracket]
            exact .of_text (readArray_sound inductionHypothesis read)
          · exact readString_value read
          · exact readLiteral_value read .true ⟨trivial, trivial, flat⟩
          · exact readLiteral_value read .false ⟨trivial, trivial, flat⟩
          · exact readLiteral_value read .null ⟨trivial, trivial, flat⟩
          · apply readNumber_value _ read
            rintro _ ⟨⟩
            exact starts
          · cases read

/-- What `Parse` accepts, and what it returns. -/
theorem parse_eq_ok_iff {json : CsString} {value : JsonValue} :
    parse json = .ok value ↔ checkLimits json = .ok () ∧ ∃ source, json = utf16 source ∧
      IsTextBy Literal source value ∧ value.DistinctKeys ∧ value.Strings Paired ∧
      value.depth ≤ maximumDepth + 1 := by
  constructor
  · intro parsed
    unfold parse at parsed
    obtain ⟨_, within, goesOn⟩ := bind_eq_ok parsed
    obtain ⟨⟨tree, rest⟩, read, ends⟩ := bind_eq_ok goesOn
    dsimp only at ends
    split at ends
    · cases ends
    · next nothing =>
        cases ends
        obtain ⟨before, text, isBefore, same, derived, distinct, paired, shallow⟩ :=
          readValue_sound _ _ _ _ read
        obtain ⟨after, isAfter, sameRest⟩ := skipWhitespace_sound rest
        have empty : skipWhitespace rest = [] := by simpa using nothing
        rw [empty, List.append_nil] at sameRest
        refine ⟨within, before ++ (text ++ after), ?_,
          ⟨before, text, after, rfl, isBefore, derived, isAfter⟩, distinct, paired, shallow⟩
        rw [same, sameRest, utf16_append, utf16_append]
  · rintro ⟨within, source, rfl, isText, distinct, paired, shallow⟩
    rw [parse_of_isTextBy isText distinct paired within, if_pos shallow]

end StrictJsonParser

end ValeraControlTower.Unity
