import ValeraControlTower.Unity.StrictJsonParser

/-!
# The parser returns or refuses

Every reader that returns leaves less of the source than it was given, so that no loop
is cut off and `Parse` returns a value or throws a `WireValidationException`.
-/

namespace ValeraControlTower.Unity

open Unicode Json CsString

/-- The outcome is a value with the property, or a `WireValidationException`. -/
inductive Validated {α : Type} (holds : α → Prop) : Except CsException α → Prop where
  | ok {value : α} (isValue : holds value) : Validated holds (.ok value)
  | refused {message : CsString} : Validated holds (.error (.wireValidationException message))

namespace Validated

variable {α β : Type} {holds : α → Prop} {outcome : Except CsException α}

theorem invalid (message : String) : Validated holds (Unity.invalid message) := .refused

theorem mono {weaker : α → Prop} (validated : Validated holds outcome)
    (implies : ∀ value, holds value → weaker value) : Validated weaker outcome := by
  cases validated with
  | ok isValue => exact .ok (implies _ isValue)
  | refused => exact .refused

theorem bind {next : α → Except CsException β} {after : β → Prop}
    (validated : Validated holds outcome)
    (continues : ∀ value, holds value → Validated after (next value)) :
    Validated after (outcome >>= next) := by
  cases validated with
  | ok isValue => exact continues _ isValue
  | refused => exact .refused

theorem map {onValue : α → β} {after : β → Prop} (validated : Validated holds outcome)
    (implies : ∀ value, holds value → after (onValue value)) :
    Validated after (outcome.map onValue) := by
  cases validated with
  | ok isValue => exact .ok (implies _ isValue)
  | refused => exact .refused

end Validated

namespace StrictJsonParser

/-! ## Characters -/

theorem length_skipWhitespace_le (source : CsString) :
    (skipWhitespace source).length ≤ source.length :=
  (List.dropWhile_sublist _).length_le

theorem length_of_consume? {char : Char} {source rest : CsString}
    (consumed : consume? char source = some rest) : rest.length < source.length := by
  cases source with
  | nil => cases consumed
  | cons unit source =>
      unfold consume? at consumed
      dsimp only at consumed
      split at consumed
      · cases consumed
        exact Nat.lt_succ_self _
      · cases consumed

theorem length_of_skipped {char : Char} {source rest : CsString}
    (consumed : consume? char (skipWhitespace source) = some rest) : rest.length < source.length :=
  (length_of_consume? consumed).trans_le (length_skipWhitespace_le source)

theorem validated_require (char : Char) (source : CsString) :
    Validated (fun rest => rest.length < source.length) (require char source) := by
  unfold require
  cases consumed : consume? char (skipWhitespace source) with
  | none => exact .invalid _
  | some rest => exact .ok (length_of_skipped consumed)

theorem validated_readLiteral (literal source : CsString) :
    Validated (fun rest => rest.length + literal.length = source.length)
      (readLiteral literal source) := by
  induction literal generalizing source with
  | nil => exact .ok rfl
  | cons expected literal inductionHypothesis =>
      cases source with
      | nil => exact .invalid _
      | cons unit source =>
          unfold readLiteral
          split
          · exact (inductionHypothesis source).mono fun _ same => congrArg Nat.succ same
          · exact .invalid _

/-! ## Strings -/

/-- What is left is shorter than what was given. -/
def Shorter {α : Type} (source : CsString) (read : α × CsString) : Prop :=
  read.2.length < source.length

theorem validated_readHexCodeUnit (source : CsString) :
    Validated (Shorter source) (readHexCodeUnit source) := by
  unfold readHexCodeUnit
  split
  · split
    · refine .ok ?_
      unfold Shorter
      simp only [List.length_cons]
      omega
    · exact .invalid _
  · exact .invalid _

theorem validated_readUnicodeEscape (source : CsString) :
    Validated (Shorter source) (readUnicodeEscape source) := by
  apply (validated_readHexCodeUnit source).bind
  intro ⟨first, rest⟩ shorter
  dsimp only
  split
  · split
    · exact .invalid _
    · exact .ok shorter
  · split
    · next backslash letter after =>
        split
        · exact .invalid _
        · apply (validated_readHexCodeUnit after).bind
          intro ⟨second, last⟩ shorter'
          dsimp only
          split
          · exact .invalid _
          · refine .ok ?_
            unfold Shorter at shorter shorter' ⊢
            simp only [List.length_cons] at shorter
            dsimp only at shorter' ⊢
            omega
    · exact .invalid _

theorem validated_readEscape (source : CsString) :
    Validated (Shorter source) (readEscape source) := by
  cases source with
  | nil => exact .invalid _
  | cons escape source =>
      unfold readEscape
      dsimp only
      split
      · exact (validated_readUnicodeEscape source).mono fun _ shorter =>
          shorter.trans (Nat.lt_succ_self _)
      · split
        · exact .ok (Nat.lt_succ_self _)
        · exact .invalid _

theorem validated_readCharacter (unit : CodeUnit) (source : CsString) :
    Validated (fun read => read.2.length ≤ source.length) (readCharacter unit source) := by
  unfold readCharacter readPlain
  split
  · split
    · split
      · exact .invalid _
      · split
        · exact .invalid _
        · split
          · exact .invalid _
          · exact .ok (Nat.le_succ _)
    · exact .ok le_rfl
  · exact (validated_readEscape source).mono fun _ shorter => shorter.le

/-- As long as there are more rounds than characters the loop ends by itself. -/
theorem validated_readCharacters {rounds : ℕ} {source : CsString}
    (enough : source.length < rounds) :
    Validated (Shorter source) (readCharacters rounds source) := by
  induction rounds generalizing source with
  | zero => cases enough
  | succ rounds inductionHypothesis =>
      cases source with
      | nil => exact .invalid _
      | cons unit source =>
          unfold readCharacters
          split
          · exact .ok (Nat.lt_succ_self _)
          · split
            · exact .invalid _
            · apply (validated_readCharacter unit source).bind
              intro ⟨text, rest⟩ shorter
              dsimp only at shorter ⊢
              have enough' : rest.length < rounds :=
                shorter.trans_lt (Nat.lt_of_succ_lt_succ enough)
              apply (inductionHypothesis enough').bind
              intro ⟨others, last⟩ shorter'
              exact .ok ((Nat.lt_of_lt_of_le shorter' shorter).trans (Nat.lt_succ_self _))

theorem validated_readString (source : CsString) :
    Validated (Shorter source) (readString source) :=
  (validated_require '"' source).bind fun rest shorter =>
    (validated_readCharacters (Nat.lt_succ_self rest.length)).mono fun _ shorter' =>
      shorter'.trans shorter

/-! ## Numbers -/

theorem validated_requireDigits (source : CsString) :
    Validated (fun rest => rest.length < source.length) (requireDigits source) := by
  cases source with
  | nil => exact .invalid _
  | cons unit source =>
      unfold requireDigits requireDigit
      dsimp only
      split
      · exact .ok (Nat.lt_succ_of_le (List.dropWhile_sublist _).length_le)
      · exact .refused

theorem validated_integerEnd (source : CsString) :
    Validated (fun rest => rest.length < source.length) (integerEnd source) := by
  unfold integerEnd
  split
  · next consumed => exact .ok (length_of_consume? consumed)
  · next consumed =>
      split
      · exact .invalid _
      · exact .ok (length_of_consume? consumed)
  · exact validated_requireDigits source

theorem validated_fractionEnd (source : CsString) :
    Validated (fun rest => rest.length ≤ source.length) (fractionEnd source) := by
  unfold fractionEnd
  split
  · next rest consumed =>
      exact (validated_requireDigits rest).mono fun _ shorter =>
        (shorter.trans (length_of_consume? consumed)).le
  · exact .ok le_rfl

theorem length_signEnd_le (source : CsString) : (signEnd source).length ≤ source.length := by
  cases source with
  | nil => exact le_rfl
  | cons unit source =>
      unfold signEnd
      dsimp only
      split
      · exact Nat.le_succ _
      · exact le_rfl

theorem validated_exponentEnd (source : CsString) :
    Validated (fun rest => rest.length ≤ source.length) (exponentEnd source) := by
  cases source with
  | nil => exact .ok le_rfl
  | cons unit source =>
      unfold exponentEnd
      dsimp only
      split
      · exact (validated_requireDigits (signEnd source)).mono fun _ shorter =>
          (shorter.trans_le (length_signEnd_le source)).le.trans (Nat.le_succ _)
      · exact .ok le_rfl

theorem validated_readNumber (source : CsString) :
    Validated (Shorter source) (readNumber source) := by
  have unsigned : ((consume? '-' source).getD source).length ≤ source.length := by
    cases consumed : consume? '-' source with
    | none => exact le_rfl
    | some rest => exact (length_of_consume? consumed).le
  unfold readNumber
  dsimp only
  split
  · exact .invalid _
  · apply (validated_integerEnd _).bind
    intro first shorter
    apply (validated_fractionEnd first).bind
    intro second shorter'
    apply (validated_exponentEnd second).bind
    intro third shorter''
    exact .ok (((shorter''.trans shorter').trans_lt shorter).trans_le unsigned)

/-! ## Values -/

section Containers

variable {readValue : CsString → Except CsException (JsonValue × CsString)}
  (validated : ∀ source, Validated (Shorter source) (readValue source))

include validated

theorem validated_readMembers {rounds : ℕ} {members : List (CsString × JsonValue)}
    {source : CsString} (enough : source.length < rounds) :
    Validated (Shorter source) (readMembers readValue rounds members source) := by
  induction rounds generalizing members source with
  | zero => cases enough
  | succ rounds inductionHypothesis =>
      unfold readMembers
      dsimp only
      have skipped := length_skipWhitespace_le source
      split
      · exact .invalid _
      · apply (validated_readString _).bind
        intro ⟨name, afterName⟩ shorter
        dsimp only [Shorter] at shorter ⊢
        split
        · exact .invalid _
        · have skippedName := length_skipWhitespace_le afterName
          apply (validated_require ':' _).bind
          intro afterColon shorterColon
          apply (validated afterColon).bind
          intro ⟨value, afterValue⟩ shorterValue
          dsimp only [Shorter] at shorterValue ⊢
          cases consumed : consume? '}' (skipWhitespace afterValue) with
          | some rest =>
              have closed := length_of_skipped consumed
              have whole : rest.length < source.length := by omega
              exact .ok whole
          | none =>
              have skippedValue := length_skipWhitespace_le afterValue
              apply (validated_require ',' _).bind
              intro afterComma shorterComma
              apply (inductionHypothesis (by omega)).mono
              intro _ shorterRest
              exact Nat.lt_trans shorterRest (by omega)

theorem validated_readItems {rounds : ℕ} {items : List JsonValue} {source : CsString}
    (enough : source.length < rounds) :
    Validated (Shorter source) (readItems readValue rounds items source) := by
  induction rounds generalizing items source with
  | zero => cases enough
  | succ rounds inductionHypothesis =>
      apply (validated source).bind
      intro ⟨item, afterItem⟩ shorter
      dsimp only [Shorter] at shorter ⊢
      cases consumed : consume? ']' (skipWhitespace afterItem) with
      | some rest =>
          have closed := length_of_skipped consumed
          exact .ok (closed.trans shorter)
      | none =>
          have skipped := length_skipWhitespace_le afterItem
          apply (validated_require ',' _).bind
          intro afterComma shorterComma
          apply (inductionHypothesis (by omega)).mono
          intro _ shorterRest
          exact Nat.lt_trans shorterRest (by omega)

theorem validated_readObject (source : CsString) :
    Validated (fun read => read.2.length ≤ source.length) (readObject readValue source) := by
  have skipped := length_skipWhitespace_le source
  unfold readObject
  cases consumed : consume? '}' (skipWhitespace source) with
  | some rest => exact .ok (length_of_skipped consumed).le
  | none =>
      exact (validated_readMembers validated (Nat.lt_succ_of_le skipped)).mono fun _ shorter =>
        shorter.le.trans skipped

theorem validated_readArray (source : CsString) :
    Validated (fun read => read.2.length ≤ source.length) (readArray readValue source) := by
  have skipped := length_skipWhitespace_le source
  unfold readArray
  cases consumed : consume? ']' (skipWhitespace source) with
  | some rest => exact .ok (length_of_skipped consumed).le
  | none =>
      exact (validated_readItems validated (Nat.lt_succ_of_le skipped)).mono fun _ shorter =>
        shorter.le.trans skipped

end Containers

theorem validated_readLiteralValue (text : String) (value : JsonValue) (source : CsString)
    (nonempty : 0 < (cs text).length) :
    Validated (Shorter source) ((readLiteral (cs text) source).map (value, ·)) :=
  (validated_readLiteral (cs text) source).map fun rest same => by
    unfold Shorter
    dsimp only
    omega

/-- A value is read with what is left shorter, or refused. -/
theorem validated_readValue (levels : ℕ) (source : CsString) :
    Validated (Shorter source) (readValue levels source) := by
  induction levels generalizing source with
  | zero => exact .invalid _
  | succ levels inductionHypothesis =>
      have skipped := length_skipWhitespace_le source
      unfold readValue
      split
      · exact .invalid _
      · next unit rest same =>
          rw [same, List.length_cons] at skipped
          have inside (read : JsonValue × CsString) (shorter : read.2.length ≤ rest.length) :
              Shorter source read := Nat.lt_of_le_of_lt shorter skipped
          have whole {α : Type} (read : α × CsString) (shorter : Shorter (unit :: rest) read) :
              read.2.length < source.length := Nat.lt_of_lt_of_le shorter skipped
          split
          · exact (validated_readObject inductionHypothesis rest).mono inside
          split
          · exact (validated_readArray inductionHypothesis rest).mono inside
          split
          · exact (validated_readString _).map whole
          split
          · exact (validated_readLiteralValue _ _ _ (by decide)).mono whole
          split
          · exact (validated_readLiteralValue _ _ _ (by decide)).mono whole
          split
          · exact (validated_readLiteralValue _ _ _ (by decide)).mono whole
          split
          · exact (validated_readNumber _).map whole
          · exact .invalid _

theorem validated_checkLimits (json : CsString) : Validated (fun _ => True) (checkLimits json) := by
  unfold checkLimits
  split
  · exact .invalid _
  · split
    · exact .invalid _
    · split
      · exact .invalid _
      · exact .ok trivial

/-- `Parse` returns a value or throws a `WireValidationException`. -/
theorem validated_parse (json : CsString) : Validated (fun _ => True) (parse json) := by
  apply (validated_checkLimits json).bind
  intro _ _
  apply (validated_readValue _ json).bind
  intro ⟨value, rest⟩ _
  dsimp only
  split
  · exact .invalid _
  · exact .ok trivial

end StrictJsonParser

end ValeraControlTower.Unity
