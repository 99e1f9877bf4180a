import ValeraControlTower.Library.Outcome
import ValeraControlTower.Unity.ParserPositions
import ValeraControlTower.Unity.ParserProgress

/-!
# The index and what is left

The reader with its index does what the reader over what is left does: no character is
read outside of `source`, and no loop or recursion meets its bound.
-/

namespace ValeraControlTower.Unity

open Unicode Json CsString Outcome

namespace StrictJsonParser.Parser

variable {source : CsString}

/-- The index stands in front of what is left. -/
structure At (source : CsString) (index : ℕ) (rest : CsString) : Prop where
  inside : index ≤ source.length
  rest : rest = source.drop index

/-- The same value, and the index in front of what is left. -/
def ReadAt {α : Type} (source : CsString) (read : α × ℕ) (left : α × CsString) : Prop :=
  read.1 = left.1 ∧ At source read.2 left.2

theorem at_start (source : CsString) : At source 0 source := ⟨Nat.zero_le _, rfl⟩

theorem At.length {index : ℕ} {rest : CsString} (stands : At source index rest) :
    rest.length = source.length - index := by
  rw [stands.rest, List.length_drop]

theorem At.ends {index : ℕ} (stands : At source index []) : atEnd source index = true := by
  have length := stands.length
  have inside := stands.inside
  simp only [List.length_nil] at length
  simp only [atEnd, beq_iff_eq]
  omega

theorem At.goesOn {index : ℕ} {unit : CodeUnit} {rest : CsString}
    (stands : At source index (unit :: rest)) : atEnd source index = false := by
  have length := stands.length
  simp only [List.length_cons] at length
  simp only [atEnd, beq_eq_false_iff_ne]
  omega

theorem At.reads {index : ℕ} {unit : CodeUnit} {rest : CsString}
    (stands : At source index (unit :: rest)) : charAt source index = .ok unit := by
  have head : source[index]? = some unit := by
    rw [← List.head?_drop, ← stands.rest]
    rfl
  unfold charAt
  rw [head]

theorem At.next {index : ℕ} {unit : CodeUnit} {rest : CsString}
    (stands : At source index (unit :: rest)) : At source (index + 1) rest := by
  have length := stands.length
  simp only [List.length_cons] at length
  refine ⟨by omega, ?_⟩
  rw [← List.tail_drop, ← stands.rest, List.tail_cons]

theorem At.rounds {index : ℕ} {rest : CsString} (stands : At source index rest) :
    enoughRounds source index = rest.length + 1 := by
  rw [stands.length]
  rfl

/-- A reader that looks at the next character, where there is one. -/
theorem At.looks {α : Type} {index : ℕ} {unit : CodeUnit} {rest : CsString}
    (stands : At source index (unit :: rest)) (onEnd : Except CsException α)
    (onUnit : CodeUnit → Except CsException α) :
    (if atEnd source index then onEnd else charAt source index >>= onUnit) = onUnit unit := by
  rw [stands.goesOn, stands.reads]
  rfl

/-- A reader that looks at the next character, at the end. -/
theorem At.stops {α : Type} {index : ℕ} (stands : At source index []) (onEnd : Except CsException α)
    (onUnit : CodeUnit → Except CsException α) :
    (if atEnd source index then onEnd else charAt source index >>= onUnit) = onEnd :=
  if_pos stands.ends

/-! ## Characters -/

theorem skipWhile_at {test : CodeUnit → Bool} {rounds index : ℕ} {rest : CsString}
    (stands : At source index rest) (enough : rest.length < rounds) :
    ∃ last, skipWhile source test rounds index = .ok last ∧
      At source last (rest.dropWhile test) := by
  induction rounds generalizing index rest with
  | zero => cases enough
  | succ rounds inductionHypothesis =>
      cases rest with
      | nil => exact ⟨index, stands.stops _ _, stands⟩
      | cons unit rest =>
          rw [skipWhile, stands.looks]
          by_cases passes : test unit = true
          · rw [if_pos passes, List.dropWhile_cons_of_pos passes]
            exact inductionHypothesis stands.next (Nat.lt_of_succ_lt_succ enough)
          · rw [if_neg passes, List.dropWhile_cons_of_neg passes]
            exact ⟨index, rfl, stands⟩

theorem skipWhile_enough {test : CodeUnit → Bool} {index : ℕ} {rest : CsString}
    (stands : At source index rest) :
    ∃ last, skipWhile source test (enoughRounds source index) index = .ok last ∧
      At source last (rest.dropWhile test) := by
  rw [stands.rounds]
  exact skipWhile_at stands (Nat.lt_succ_self _)

theorem skipWhitespace_at {index : ℕ} {rest : CsString} (stands : At source index rest) :
    ∃ last, skipWhitespace source index = .ok last ∧
      At source last (StrictJsonParser.skipWhitespace rest) :=
  skipWhile_enough stands

/-- `Consume` goes behind the character or stays. -/
theorem consume_at {index : ℕ} {rest : CsString} (stands : At source index rest) (char : Char) :
    (∃ after last, consume? char rest = some after ∧ consume source char index = .ok (true, last) ∧
      At source last after) ∨
    consume? char rest = none ∧ consume source char index = .ok (false, index) := by
  cases rest with
  | nil => exact .inr ⟨rfl, stands.stops _ _⟩
  | cons unit rest =>
      unfold consume consume?
      rw [stands.looks]
      by_cases same : unit = CodeUnit.ofChar char
      · exact .inl ⟨rest, index + 1, if_pos same, if_pos same, stands.next⟩
      · exact .inr ⟨if_neg same, if_neg same⟩

theorem require_matches {index : ℕ} {rest : CsString} (stands : At source index rest)
    (char : Char) :
    Matches (At source) (require source char index) (StrictJsonParser.require char rest) := by
  obtain ⟨start, skipped, standsStart⟩ := skipWhitespace_at stands
  unfold require StrictJsonParser.require
  rw [skipped]
  change Matches _ (consume source char start >>= _) _
  rcases consume_at standsStart char with
    ⟨after, last, isSome, consumed, standsLast⟩ | ⟨isNone, consumed⟩
  · rw [consumed, isSome]
    exact .ok standsLast
  · rw [consumed, isNone]
    exact .error _

theorem readLiteral_matches {literal : CsString} {index : ℕ} {rest : CsString}
    (stands : At source index rest) :
    Matches (At source) (readLiteral source literal index)
      (StrictJsonParser.readLiteral literal rest) := by
  induction literal generalizing index rest with
  | nil => exact .ok stands
  | cons expected literal inductionHypothesis =>
      cases rest with
      | nil =>
          rw [readLiteral, stands.stops]
          exact .error _
      | cons unit rest =>
          rw [readLiteral, StrictJsonParser.readLiteral, stands.looks]
          exact .ite (fun _ => inductionHypothesis stands.next) fun _ => .error _

/-! ## Strings -/

theorem shift_or (value : ℕ) (digit : Fin 16) :
    value <<< 4 ||| digit.val = value * 16 + digit.val := by
  rw [← Nat.shiftLeft_add_eq_or_of_lt digit.isLt, Nat.shiftLeft_eq]

/-- One round of the loop of `ReadHexCodeUnit`. -/
theorem readHexDigits_step {index : ℕ} {unit : CodeUnit} {rest : CsString}
    (stands : At source index (unit :: rest)) (count value : ℕ) :
    readHexDigits source (count + 1) value index =
      match hexDigit? unit.val with
      | some digit => readHexDigits source count (value * 16 + digit.val) (index + 1)
      | none => invalid "Invalid Unicode escape." := by
  rw [readHexDigits, stands.reads]
  simp only [shift_or]
  rfl

theorem readHexCodeUnit_matches {index : ℕ} {rest : CsString} (stands : At source index rest) :
    Matches (ReadAt source) (readHexCodeUnit source index)
      (StrictJsonParser.readHexCodeUnit rest) := by
  have length := stands.length
  have inside := stands.inside
  unfold readHexCodeUnit
  by_cases short : rest.length < 4
  · rw [if_pos (by omega)]
    match rest, short with
    | [], _ | [_], _ | [_, _], _ | [_, _, _], _ => exact .error _
  · rw [if_neg (by omega)]
    match rest, short with
    | [], short | [_], short | [_, _], short | [_, _, _], short => simp at short
    | first :: second :: third :: fourth :: after, _ =>
        have next := stands.next
        have afterNext := next.next
        have last := afterNext.next
        rw [readHexDigits_step stands]
        simp only [StrictJsonParser.readHexCodeUnit, hexUnit?]
        cases hexDigit? first.val with
        | none => exact .error _
        | some a =>
            dsimp only
            rw [readHexDigits_step next]
            cases hexDigit? second.val with
            | none => exact .error _
            | some b =>
                dsimp only
                rw [readHexDigits_step afterNext]
                cases hexDigit? third.val with
                | none => exact .error _
                | some c =>
                    dsimp only
                    rw [readHexDigits_step last]
                    cases hexDigit? fourth.val with
                    | none => exact .error _
                    | some d =>
                        refine .ok ⟨?_, last.next⟩
                        simp only [hexUnit, Nat.zero_mul, Nat.zero_add]

theorem readUnicodeEscape_matches {index : ℕ} {rest : CsString} (stands : At source index rest) :
    Matches (ReadAt source) (readUnicodeEscape source index)
      (StrictJsonParser.readUnicodeEscape rest) := by
  apply (readHexCodeUnit_matches stands).bind
  rintro ⟨first, last⟩ ⟨_, after⟩ ⟨rfl, standsLast⟩
  refine .ite (fun _ => .ite (fun _ => .error _) fun _ => .ok ⟨rfl, standsLast⟩) fun _ => ?_
  have length := standsLast.length
  cases after with
  | nil =>
      rw [List.length_nil] at length
      rw [if_pos (by omega)]
      exact .error _
  | cons backslash after =>
      cases after with
      | nil =>
          simp only [List.length_cons, List.length_nil] at length
          rw [if_pos (by omega)]
          exact .error _
      | cons letter after =>
          simp only [List.length_cons] at length
          rw [if_neg (by omega), standsLast.reads]
          dsimp only
          by_cases isBackslash : backslash = CodeUnit.ofChar '\\'
          · by_cases isLetter : letter = CodeUnit.ofChar 'u'
            · rw [if_neg (by simp [isBackslash, isLetter])]
              change Matches _ (if _ then _ else charAt source (last + 1) >>= _) _
              rw [standsLast.next.reads, if_neg (by simp [isBackslash])]
              change Matches _ (if _ then _ else readHexCodeUnit source (last + 2) >>= _) _
              rw [if_neg (by simp [isLetter])]
              apply (readHexCodeUnit_matches standsLast.next.next).bind
              rintro ⟨second, final⟩ ⟨_, remains⟩ ⟨rfl, standsFinal⟩
              exact .ite (fun _ => .error _) fun _ => .ok ⟨rfl, standsFinal⟩
            · rw [if_pos (.inr isLetter)]
              change Matches _ (if _ then _ else charAt source (last + 1) >>= _) _
              rw [standsLast.next.reads, if_neg (by simp [isBackslash])]
              change Matches _ (if _ then _ else readHexCodeUnit source (last + 2) >>= _) _
              rw [if_pos isLetter]
              exact .error _
          · rw [if_pos (.inl isBackslash)]
            change Matches _ (if _ then _ else charAt source (last + 1) >>= _) _
            rw [if_pos isBackslash]
            exact .error _

theorem readEscape_matches {index : ℕ} {rest : CsString} (stands : At source index rest) :
    Matches (ReadAt source) (readEscape source index) (StrictJsonParser.readEscape rest) := by
  cases rest with
  | nil =>
      unfold readEscape
      rw [stands.stops]
      exact .error _
  | cons escape rest =>
      unfold readEscape StrictJsonParser.readEscape
      rw [stands.looks]
      refine .ite (fun _ => readUnicodeEscape_matches stands.next) fun _ => ?_
      cases escape? escape.val with
      | some unit => exact .ok ⟨rfl, stands.next⟩
      | none => exact .error _

theorem readCharacter_matches {index : ℕ} {rest : CsString} (unit : CodeUnit)
    (stands : At source index rest) :
    Matches (ReadAt source) (readCharacter source unit index)
      (StrictJsonParser.readCharacter unit rest) := by
  refine .ite (fun _ => ?_) fun _ => readEscape_matches stands
  refine .ite (fun _ => .ite (fun _ => .error _) fun _ => ?_) fun _ => .ok ⟨rfl, stands⟩
  cases rest with
  | nil =>
      rw [stands.stops]
      exact .error _
  | cons low rest =>
      rw [stands.looks]
      exact .ite (fun _ => .error _) fun _ => .ok ⟨rfl, stands.next⟩

theorem readCharacters_matches {rounds index : ℕ} {rest : CsString}
    (stands : At source index rest) :
    Matches (ReadAt source) (readCharacters source rounds index)
      (StrictJsonParser.readCharacters rounds rest) := by
  induction rounds generalizing index rest with
  | zero => exact .error _
  | succ rounds inductionHypothesis =>
      cases rest with
      | nil =>
          rw [readCharacters, stands.stops]
          exact .error _
      | cons unit rest =>
          rw [readCharacters, StrictJsonParser.readCharacters, stands.looks]
          refine .ite (fun _ => .ok ⟨rfl, stands.next⟩) fun _ => ?_
          refine .ite (fun _ => .error _) fun _ => ?_
          apply (readCharacter_matches unit stands.next).bind
          rintro ⟨text, last⟩ ⟨_, after⟩ ⟨rfl, standsLast⟩
          apply (inductionHypothesis standsLast).bind
          rintro ⟨more, final⟩ ⟨_, remains⟩ ⟨rfl, standsFinal⟩
          exact .ok ⟨rfl, standsFinal⟩

theorem readString_matches {index : ℕ} {rest : CsString} (stands : At source index rest) :
    Matches (ReadAt source) (readString source index) (StrictJsonParser.readString rest) := by
  apply (require_matches stands '"').bind
  intro last after standsLast
  rw [standsLast.rounds]
  exact readCharacters_matches standsLast

/-! ## Numbers -/

theorem requireDigit_matches {index : ℕ} {rest : CsString} (stands : At source index rest) :
    Matches (At source) (requireDigit source index) (StrictJsonParser.requireDigit rest) := by
  cases rest with
  | nil =>
      unfold requireDigit
      rw [stands.stops]
      exact .error _
  | cons unit rest =>
      unfold requireDigit StrictJsonParser.requireDigit
      rw [stands.looks]
      exact .ite (fun _ => .ok stands.next) fun _ => .error _

theorem requireDigits_matches {index : ℕ} {rest : CsString} (stands : At source index rest) :
    Matches (At source) (requireDigits source index) (StrictJsonParser.requireDigits rest) := by
  apply (requireDigit_matches stands).bind
  intro last after standsLast
  obtain ⟨final, skipped, standsFinal⟩ := skipWhile_enough standsLast
  rw [skipped]
  exact .ok standsFinal

theorem integerEnd_matches {index : ℕ} {rest : CsString} (stands : At source index rest) :
    Matches (At source) (integerEnd source index) (StrictJsonParser.integerEnd rest) := by
  unfold integerEnd StrictJsonParser.integerEnd
  rcases consume_at stands '0' with ⟨after, last, isZero, consumed, standsLast⟩ | ⟨noZero, consumed⟩
  · rw [consumed, isZero]
    cases after with
    | nil =>
        change Matches _ (if atEnd source last then _ else charAt source last >>= _) _
        rw [standsLast.stops]
        exact .ok standsLast
    | cons unit after =>
        change Matches _ (if atEnd source last then _ else charAt source last >>= _) _
        rw [standsLast.looks]
        exact .ite (fun _ => .error _) fun _ => .ok standsLast
  · rw [consumed, noZero]
    exact requireDigits_matches stands

theorem fractionEnd_matches {index : ℕ} {rest : CsString} (stands : At source index rest) :
    Matches (At source) (fractionEnd source index) (StrictJsonParser.fractionEnd rest) := by
  unfold fractionEnd StrictJsonParser.fractionEnd
  rcases consume_at stands '.' with
    ⟨after, last, isPoint, consumed, standsLast⟩ | ⟨noPoint, consumed⟩
  · rw [consumed, isPoint]
    exact requireDigits_matches standsLast
  · rw [consumed, noPoint]
    exact .ok stands

theorem signEnd_at {index : ℕ} {rest : CsString} (stands : At source index rest) :
    ∃ last, signEnd source index = .ok last ∧ At source last (StrictJsonParser.signEnd rest) := by
  cases rest with
  | nil => exact ⟨index, stands.stops _ _, stands⟩
  | cons unit rest =>
      unfold signEnd StrictJsonParser.signEnd
      rw [stands.looks]
      by_cases isSign : unit = CodeUnit.ofChar '+' ∨ unit = CodeUnit.ofChar '-'
      · exact ⟨index + 1, if_pos isSign, by simpa [isSign] using stands.next⟩
      · exact ⟨index, if_neg isSign, by simpa [isSign] using stands⟩

theorem exponentEnd_matches {index : ℕ} {rest : CsString} (stands : At source index rest) :
    Matches (At source) (exponentEnd source index) (StrictJsonParser.exponentEnd rest) := by
  cases rest with
  | nil =>
      unfold exponentEnd
      rw [stands.stops]
      exact .ok stands
  | cons unit rest =>
      unfold exponentEnd StrictJsonParser.exponentEnd
      rw [stands.looks]
      refine .ite (fun _ => ?_) fun _ => .ok stands
      obtain ⟨last, signed, standsLast⟩ := signEnd_at stands.next
      rw [signed]
      exact requireDigits_matches standsLast

/-- What is known of the second outcome holds of what both return. -/
theorem matches_validated {First Second : Type} {related : First → Second → Prop}
    {holds : Second → Prop} {first : Except CsException First} {second : Except CsException Second}
    (alike : Matches related first second) (validated : Validated holds second) :
    Matches (fun value other => related value other ∧ holds other) first second := by
  cases alike with
  | ok isRelated =>
      cases validated with
      | ok isValue => exact .ok ⟨isRelated, isValue⟩
  | error error => exact .error error

theorem At.substring {first last : ℕ} {start rest : CsString} (standsFirst : At source first start)
    (standsLast : At source last rest) (shorter : rest.length ≤ start.length) :
    substring source first last = .ok (start.take (start.length - rest.length)) := by
  have lengthFirst := standsFirst.length
  have lengthLast := standsLast.length
  have insideFirst := standsFirst.inside
  have insideLast := standsLast.inside
  have same : start.length - rest.length = last - first := by omega
  unfold Parser.substring
  rw [if_pos ⟨by omega, insideLast⟩, same, standsFirst.rest]

/-- `ReadNumber` behind the sign. -/
theorem readNumber_behind {start index : ℕ} {whole rest : CsString}
    (standsWhole : At source start whole)
    (stands : At source index rest) (shorter : rest.length ≤ whole.length) :
    Matches (ReadAt source)
      (if atEnd source index then invalid "Invalid JSON number."
      else do
        let index ← integerEnd source index
        let index ← fractionEnd source index
        let index ← exponentEnd source index
        return (← substring source start index, index))
      (if rest.isEmpty then invalid "Invalid JSON number."
      else do
        let rest ← StrictJsonParser.integerEnd rest
        let rest ← StrictJsonParser.fractionEnd rest
        let rest ← StrictJsonParser.exponentEnd rest
        return (whole.take (whole.length - rest.length), rest)) := by
  cases rest with
  | nil =>
      rw [stands.ends]
      exact .error _
  | cons unit rest =>
      rw [stands.goesOn]
      apply (matches_validated (integerEnd_matches stands) (validated_integerEnd _)).bind
      rintro afterInteger _ ⟨standsInteger, shorterInteger⟩
      refine (matches_validated (fractionEnd_matches standsInteger)
        (validated_fractionEnd _)).bind ?_
      rintro afterFraction _ ⟨standsFraction, shorterFraction⟩
      refine (matches_validated (exponentEnd_matches standsFraction)
        (validated_exponentEnd _)).bind ?_
      rintro afterExponent _ ⟨standsExponent, shorterExponent⟩
      rw [standsWhole.substring standsExponent (by omega)]
      exact .ok ⟨rfl, standsExponent⟩

theorem readNumber_matches {index : ℕ} {rest : CsString} (stands : At source index rest) :
    Matches (ReadAt source) (readNumber source index) (StrictJsonParser.readNumber rest) := by
  unfold readNumber StrictJsonParser.readNumber
  rcases consume_at stands '-' with
    ⟨after, last, isMinus, consumed, standsLast⟩ | ⟨noMinus, consumed⟩
  · rw [consumed, isMinus]
    exact readNumber_behind stands standsLast (length_of_consume? isMinus).le
  · rw [consumed, noMinus]
    exact readNumber_behind stands stands le_rfl

/-! ## Values -/

section Containers

variable {readValueAt : ℕ → Except CsException (JsonValue × ℕ)}
  {readValue : CsString → Except CsException (JsonValue × CsString)}
  (inside : ∀ index rest, At source index rest →
    Matches (ReadAt source) (readValueAt index) (readValue rest))

include inside

theorem readItems_matches {rounds index : ℕ} {items : List JsonValue} {rest : CsString}
    (stands : At source index rest) :
    Matches (ReadAt source) (readItems source readValueAt rounds items index)
      (StrictJsonParser.readItems readValue rounds items rest) := by
  induction rounds generalizing items index rest with
  | zero => exact .error _
  | succ rounds inductionHypothesis =>
      apply (inside _ _ stands).bind
      rintro ⟨item, last⟩ ⟨_, after⟩ ⟨rfl, standsLast⟩
      obtain ⟨start, skipped, standsStart⟩ := skipWhitespace_at standsLast
      dsimp only
      rw [skipped]
      change Matches _ (consume source ']' start >>= _) _
      rcases consume_at standsStart ']' with
        ⟨final, behind, closes, consumed, standsBehind⟩ | ⟨goesOn, consumed⟩
      · rw [consumed, closes]
        exact .ok ⟨rfl, standsBehind⟩
      · rw [consumed, goesOn]
        apply (require_matches standsStart ',').bind
        intro next left standsNext
        exact inductionHypothesis standsNext

omit inside in
/-- A round of `ReadObject` behind the value of a member. -/
theorem readMembers_behind {rounds index : ℕ} {members : List (CsString × JsonValue)}
    {rest : CsString} (later : ∀ {index : ℕ} {rest : CsString}, At source index rest →
      Matches (ReadAt source) (readMembers source readValueAt rounds members index)
        (StrictJsonParser.readMembers readValue rounds members rest))
    (stands : At source index rest) :
    Matches (ReadAt source)
      (do
        let index ← skipWhitespace source index
        let (closed, index) ← consume source '}' index
        if closed then return (.obj members, index)
        else do
          let index ← require source ',' index
          readMembers source readValueAt rounds members index)
      (match consume? '}' (StrictJsonParser.skipWhitespace rest) with
      | some source => return (.obj members, source)
      | none => do
          let source ← StrictJsonParser.require ',' (StrictJsonParser.skipWhitespace rest)
          StrictJsonParser.readMembers readValue rounds members source) := by
  obtain ⟨start, skipped, standsStart⟩ := skipWhitespace_at stands
  rw [skipped]
  change Matches _ (consume source '}' start >>= _) _
  rcases consume_at standsStart '}' with
    ⟨final, behind, closes, consumed, standsBehind⟩ | ⟨goesOn, consumed⟩
  · rw [consumed, closes]
    exact .ok ⟨rfl, standsBehind⟩
  · rw [consumed, goesOn]
    exact (require_matches standsStart ',').bind fun next left standsNext => later standsNext

theorem readMembers_matches {rounds index : ℕ} {members : List (CsString × JsonValue)}
    {rest : CsString} (stands : At source index rest) :
    Matches (ReadAt source) (readMembers source readValueAt rounds members index)
      (StrictJsonParser.readMembers readValue rounds members rest) := by
  induction rounds generalizing members index rest with
  | zero => exact .error _
  | succ rounds inductionHypothesis =>
      obtain ⟨start, skipped, standsStart⟩ := skipWhitespace_at stands
      rw [readMembers, StrictJsonParser.readMembers, skipped]
      generalize StrictJsonParser.skipWhitespace rest = behind at standsStart
      change Matches _ (if atEnd source start then _ else charAt source start >>= _) _
      cases behind with
      | nil =>
          rw [standsStart.stops]
          exact .error _
      | cons unit after =>
          rw [standsStart.looks]
          by_cases quoted : unit = CodeUnit.ofChar '"'
          · rw [if_neg (not_not.mpr quoted)]
            dsimp only
            rw [if_neg (by simp [quoted])]
            apply (readString_matches standsStart).bind
            rintro ⟨name, last⟩ ⟨_, afterName⟩ ⟨rfl, standsLast⟩
            refine .ite (fun _ => .error _) fun _ => ?_
            obtain ⟨colon, skippedName, standsColon⟩ := skipWhitespace_at standsLast
            rw [skippedName]
            apply (require_matches standsColon ':').bind
            intro next left standsNext
            apply (inside _ _ standsNext).bind
            rintro ⟨value, final⟩ ⟨_, afterValue⟩ ⟨rfl, standsFinal⟩
            exact readMembers_behind
              (fun standsLater => inductionHypothesis standsLater) standsFinal
          · rw [if_pos quoted]
            dsimp only
            rw [if_pos (by simpa using quoted)]
            exact .error _

theorem readArray_matches {index : ℕ} {rest : CsString} (stands : At source (index + 1) rest) :
    Matches (ReadAt source) (readArray source readValueAt index)
      (StrictJsonParser.readArray readValue rest) := by
  obtain ⟨start, skipped, standsStart⟩ := skipWhitespace_at stands
  unfold readArray StrictJsonParser.readArray
  dsimp only
  rw [skipped]
  change Matches _ (consume source ']' start >>= _) _
  rcases consume_at standsStart ']' with
    ⟨final, behind, closes, consumed, standsBehind⟩ | ⟨goesOn, consumed⟩
  · rw [consumed, closes]
    exact .ok ⟨rfl, standsBehind⟩
  · rw [consumed, goesOn, stands.rounds]
    exact readItems_matches inside standsStart

theorem readObject_matches {index : ℕ} {rest : CsString} (stands : At source (index + 1) rest) :
    Matches (ReadAt source) (readObject source readValueAt index)
      (StrictJsonParser.readObject readValue rest) := by
  obtain ⟨start, skipped, standsStart⟩ := skipWhitespace_at stands
  unfold readObject StrictJsonParser.readObject
  dsimp only
  rw [skipped]
  change Matches _ (consume source '}' start >>= _) _
  rcases consume_at standsStart '}' with
    ⟨final, behind, closes, consumed, standsBehind⟩ | ⟨goesOn, consumed⟩
  · rw [consumed, closes]
    exact .ok ⟨rfl, standsBehind⟩
  · rw [consumed, goesOn, stands.rounds]
    exact readMembers_matches inside standsStart

end Containers

/-- The two readers of a value, with one more call than levels. -/
theorem readValue_matches {levels calls depth index : ℕ} {rest : CsString} (enough : levels < calls)
    (level : depth + levels = maximumDepth + 1) (stands : At source index rest) :
    Matches (ReadAt source) (readValue source calls depth index)
      (StrictJsonParser.readValue levels rest) := by
  induction levels generalizing calls depth index rest with
  | zero =>
      obtain ⟨fewer, rfl⟩ := Nat.exists_eq_succ_of_ne_zero (Nat.ne_zero_of_lt enough)
      rw [readValue, if_pos (by omega)]
      exact .error _
  | succ levels inductionHypothesis =>
      obtain ⟨fewer, rfl⟩ := Nat.exists_eq_succ_of_ne_zero (Nat.ne_zero_of_lt enough)
      have inside : ∀ index rest, At source index rest →
          Matches (ReadAt source) (readValue source fewer (depth + 1) index)
            (StrictJsonParser.readValue levels rest) :=
        fun _ _ standsInside => inductionHypothesis (by omega) (by omega) standsInside
      obtain ⟨start, skipped, standsStart⟩ := skipWhitespace_at stands
      rw [readValue, StrictJsonParser.readValue, if_neg (by omega), skipped]
      generalize StrictJsonParser.skipWhitespace rest = behind at standsStart
      change Matches _ (if atEnd source start then _ else charAt source start >>= _) _
      cases behind with
      | nil =>
          rw [standsStart.stops]
          exact .error _
      | cons unit after =>
          rw [standsStart.looks]
          refine .ite (fun _ => readObject_matches inside standsStart.next) fun _ => ?_
          refine .ite (fun _ => readArray_matches inside standsStart.next) fun _ => ?_
          refine .ite (fun _ => ?_) fun _ => ?_
          · apply (readString_matches standsStart).map
            rintro _ _ ⟨same, standsLast⟩
            exact ⟨congrArg Tree.str same, standsLast⟩
          refine .ite
            (fun _ => (readLiteral_matches standsStart).map fun _ _ last => ⟨rfl, last⟩) fun _ => ?_
          refine .ite
            (fun _ => (readLiteral_matches standsStart).map fun _ _ last => ⟨rfl, last⟩) fun _ => ?_
          refine .ite
            (fun _ => (readLiteral_matches standsStart).map fun _ _ last => ⟨rfl, last⟩) fun _ => ?_
          refine .ite (fun _ => ?_) fun _ => .error _
          apply (readNumber_matches standsStart).map
          rintro _ _ ⟨same, standsLast⟩
          exact ⟨congrArg Tree.num same, standsLast⟩

/-- With room for one call more than the levels, the reader with its index parses what the
reader over what is left does. -/
theorem parse_eq {calls : ℕ} (enough : maximumDepth + 1 < calls) (json : CsString) :
    parse json calls = StrictJsonParser.parse json := by
  apply Matches.eq
  unfold parse StrictJsonParser.parse
  cases checkLimits json with
  | error exception => exact .error _
  | ok _ =>
      apply (readValue_matches enough (Nat.zero_add _) (at_start json)).bind
      rintro ⟨value, last⟩ ⟨_, rest⟩ ⟨rfl, standsLast⟩
      obtain ⟨final, skipped, standsFinal⟩ := skipWhitespace_at standsLast
      dsimp only
      rw [skipped]
      change Matches _ (if !atEnd json final then _ else _) _
      generalize StrictJsonParser.skipWhitespace rest = behind at standsFinal
      cases behind with
      | nil =>
          rw [standsFinal.ends]
          exact .ok rfl
      | cons unit behind =>
          rw [standsFinal.goesOn]
          exact .error _

end StrictJsonParser.Parser

end ValeraControlTower.Unity
