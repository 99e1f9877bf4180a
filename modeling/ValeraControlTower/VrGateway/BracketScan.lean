import ValeraControlTower.VrGateway.Wire

/-!
# The bracket scan of `_parse_json`

On a text of the grammar the scan leaves every string as it entered it and comes back
to the depth it started from, so it raises exactly when containers nest too deep.
-/

namespace ValeraControlTower

open Unicode Json

namespace Wire

/-- A character the scan does not react to outside strings. -/
def neutral (char : Char) : Bool :=
  char ≠ '\\' && char ≠ '"' && char ≠ '{' && char ≠ '[' && char ≠ '}' && char ≠ ']'

/-- From any depth that is still allowed, the scan passes over the text, having seen it
go `deep` levels down, or raises. -/
def Passes (source : List Char) (deep : ℕ) : Prop :=
  ∀ depth maxDepth : ℕ, depth ≤ maxDepth → maxDepth ≤ maxJsonDepth →
    (ofChars source).foldlM BracketScan.next { depth := depth, maxDepth := maxDepth } =
      if depth + deep ≤ maxJsonDepth then
        .ok { depth := depth, maxDepth := (max maxDepth (depth + deep) : ℕ) }
      else .error (.wireError "JSON nesting depth exceeds 16")

theorem Passes.nil : Passes [] 0 := by
  intro depth maxDepth below bounded
  rw [if_pos (by omega), ofChars_nil, List.foldlM_nil, Nat.add_zero, max_eq_left below]
  rfl

theorem Passes.append {first second : List Char} {deep deep' : ℕ} (left : Passes first deep)
    (right : Passes second deep') : Passes (first ++ second) (max deep deep') := by
  intro depth maxDepth below bounded
  rw [ofChars_append, List.foldlM_append, left depth maxDepth below bounded]
  by_cases allowed : depth + deep ≤ maxJsonDepth
  · rw [if_pos allowed]
    change (ofChars second).foldlM BracketScan.next _ = _
    rw [right depth (max maxDepth (depth + deep)) (by omega) (by omega)]
    by_cases allowed' : depth + deep' ≤ maxJsonDepth
    · rw [if_pos allowed', if_pos (by omega)]
      have same : max (max maxDepth (depth + deep)) (depth + deep') =
          max maxDepth (depth + max deep deep') := by omega
      rw [same]
    · rw [if_neg allowed', if_neg (by omega)]
  · rw [if_neg allowed, if_neg (by omega)]
    rfl

theorem foldlM_next {scan later : BracketScan} {point : CodePoint}
    (step : scan.next point = .ok later) (rest : PyStr) :
    (point :: rest).foldlM BracketScan.next scan = rest.foldlM BracketScan.next later := by
  rw [List.foldlM_cons, step]
  rfl

theorem next_neutral {char : Char} (plain : neutral char = true) (depth maxDepth : ℤ) :
    BracketScan.next { depth, maxDepth } (CodePoint.ofChar char) = .ok { depth, maxDepth } := by
  simp only [neutral, Bool.and_eq_true, decide_eq_true_eq] at plain
  obtain ⟨⟨⟨⟨⟨notSlash, notQuote⟩, notBrace⟩, notBracket⟩, notBraceEnd⟩, notBracketEnd⟩ := plain
  simp [BracketScan.next, notSlash, notQuote, notBrace, notBracket, notBraceEnd, notBracketEnd]

theorem Passes.char {char : Char} (plain : neutral char = true) : Passes [char] 0 := by
  intro depth maxDepth below bounded
  rw [if_pos (by omega), Nat.add_zero, max_eq_left below]
  exact foldlM_next (next_neutral plain depth maxDepth) []

theorem Passes.neutral {source : List Char} (plain : ∀ char ∈ source, neutral char = true) :
    Passes source 0 := by
  induction source with
  | nil => exact .nil
  | cons char source inductionHypothesis =>
      have first := Passes.char (plain char (by simp))
      have rest := inductionHypothesis fun other membership => plain other (by simp [membership])
      exact first.append rest

theorem next_opening {char : Char} (opens : char = '{' ∨ char = '[') (depth maxDepth : ℕ) :
    BracketScan.next { depth := depth, maxDepth := maxDepth } (CodePoint.ofChar char) =
      if depth + 1 ≤ maxJsonDepth ∧ maxDepth ≤ maxJsonDepth then
        .ok { depth := (depth + 1 : ℕ), maxDepth := (max maxDepth (depth + 1) : ℕ) }
      else .error (.wireError "JSON nesting depth exceeds 16") := by
  have notSlash : char ≠ '\\' := by rintro rfl; simp at opens
  have notQuote : char ≠ '"' := by rintro rfl; simp at opens
  unfold BracketScan.next
  simp only [Bool.false_eq_true, if_false, CodePoint.ofChar_inj, notSlash, notQuote, opens, if_true]
  by_cases allowed : depth + 1 ≤ maxJsonDepth ∧ maxDepth ≤ maxJsonDepth
  · rw [if_pos allowed, if_neg (by omega)]
    simp
  · rw [if_neg allowed, if_pos (by omega)]

theorem next_closing {char : Char} (closes : char = '}' ∨ char = ']') (depth maxDepth : ℕ) :
    BracketScan.next { depth := (depth + 1 : ℕ), maxDepth := maxDepth }
        (CodePoint.ofChar char) = .ok { depth := depth, maxDepth := maxDepth } := by
  have notSlash : char ≠ '\\' := by rintro rfl; simp at closes
  have notQuote : char ≠ '"' := by rintro rfl; simp at closes
  have notOpening : ¬(char = '{' ∨ char = '[') := by
    rintro (rfl | rfl)
    · simp at closes
    · simp at closes
  unfold BracketScan.next
  simp only [Bool.false_eq_true, if_false, CodePoint.ofChar_inj, notSlash, notQuote, notOpening,
    closes, if_true]
  rw [if_neg (by omega)]
  simp

/-- A container is one level deeper than what is in it. -/
theorem Passes.container {source : List Char} {deep : ℕ} (inside : Passes source deep)
    {opening closing : Char} (opens : opening = '{' ∨ opening = '[')
    (closes : closing = '}' ∨ closing = ']') :
    Passes (opening :: (source ++ [closing])) (1 + deep) := by
  intro depth maxDepth below bounded
  rw [ofChars_cons, List.foldlM_cons, next_opening opens]
  by_cases deeper : depth + 1 ≤ maxJsonDepth
  · rw [if_pos ⟨deeper, bounded⟩]
    change (ofChars (source ++ [closing])).foldlM BracketScan.next _ = _
    rw [ofChars_append, List.foldlM_append,
      inside (depth + 1) (max maxDepth (depth + 1)) (by omega) (by omega)]
    by_cases allowed : depth + 1 + deep ≤ maxJsonDepth
    · rw [if_pos allowed, if_pos (by omega)]
      have same : max (max maxDepth (depth + 1)) (depth + 1 + deep) =
          max maxDepth (depth + (1 + deep)) := by omega
      rw [same]
      exact foldlM_next (next_closing closes depth (max maxDepth (depth + (1 + deep)))) []
    · rw [if_neg allowed, if_neg (by omega)]
      rfl
  · rw [if_neg (by omega), if_neg (by omega)]
    rfl

/-! ## Strings -/

/-- Inside a string the scan passes over what is neither a quote nor a backslash. -/
theorem next_inside {point : CodePoint} (notQuote : point ≠ CodePoint.ofChar '"')
    (notBackslash : point ≠ CodePoint.ofChar '\\') (depth maxDepth : ℤ) :
    BracketScan.next { depth, maxDepth, inString := true } point =
      .ok { depth, maxDepth, inString := true } := by
  simp only [BracketScan.next, Bool.false_eq_true, if_false, notBackslash, notQuote, if_true]

theorem next_inString {char : Char} (notQuote : char ≠ '"') (notBackslash : char ≠ '\\')
    (depth maxDepth : ℤ) :
    BracketScan.next { depth, maxDepth, inString := true } (CodePoint.ofChar char) =
      .ok { depth, maxDepth, inString := true } :=
  next_inside (fun same => notQuote (CodePoint.ofChar_inj.mp same))
    (fun same => notBackslash (CodePoint.ofChar_inj.mp same)) depth maxDepth

theorem next_hexDigit {char : Char} {digit : Fin 16} (hex : hexDigit? char.toNat = some digit)
    (depth maxDepth : ℤ) :
    BracketScan.next { depth, maxDepth, inString := true } (CodePoint.ofChar char) =
      .ok { depth, maxDepth, inString := true } := by
  apply next_inString
  · rintro rfl
    simp [hexDigit?] at hex
  · rintro rfl
    simp [hexDigit?] at hex

/-- Inside a string the scan stays where it is. -/
theorem foldlM_body {body : List Char} {units : List CodeUnit} (derived : StringBody body units)
    (depth maxDepth : ℤ) :
    (ofChars body).foldlM BracketScan.next { depth, maxDepth, inString := true } =
      .ok { depth, maxDepth, inString := true } := by
  induction derived with
  | nil => rfl
  | unescaped _ notQuote notBackslash _ inductionHypothesis =>
      exact (foldlM_next (next_inString notQuote notBackslash _ _) _).trans inductionHypothesis
  | escaped _ _ inductionHypothesis =>
      exact (foldlM_next rfl _).trans ((foldlM_next rfl _).trans inductionHypothesis)
  | unicode hex _ inductionHypothesis =>
      obtain ⟨_, _, _, _, isFirst, isSecond, isThird, isFourth, _⟩ := hexUnit?_eq_some hex
      exact (foldlM_next rfl _).trans ((foldlM_next rfl _).trans
        ((foldlM_next (next_hexDigit isFirst _ _) _).trans
          ((foldlM_next (next_hexDigit isSecond _ _) _).trans
            ((foldlM_next (next_hexDigit isThird _ _) _).trans
              ((foldlM_next (next_hexDigit isFourth _ _) _).trans inductionHypothesis)))))

theorem Passes.string {body : List Char} {units : List CodeUnit}
    (derived : StringBody body units) : Passes ('"' :: (body ++ ['"'])) 0 := by
  intro depth maxDepth below bounded
  rw [if_pos (by omega), Nat.add_zero, max_eq_left below, ofChars_cons, List.foldlM_cons]
  have opened : BracketScan.next { depth := depth, maxDepth := maxDepth } (CodePoint.ofChar '"') =
      .ok { depth := depth, maxDepth := maxDepth, inString := true } := rfl
  rw [opened]
  change (ofChars (body ++ ['"'])).foldlM BracketScan.next _ = _
  rw [ofChars_append, List.foldlM_append, foldlM_body derived]
  rfl

/-! ## Texts -/

/-- The number of containers on the longest path into a part. -/
def partNesting : Part → ℕ
  | .value tree => tree.nesting
  | .items items => Tree.nestingItems items
  | .members members => Tree.nestingMembers members

theorem neutral_digit (digit : Digit) : neutral digit.char = true := by
  revert digit
  decide

theorem neutral_numeral (numeral : Numeral) : ∀ char ∈ numeral.text, neutral char = true :=
  numeral.forall_text neutral_digit (List.all_eq_true.mp rfl)

theorem Passes.blank {blank : List Char} (isBlank : Blank blank) : Passes blank 0 := by
  apply Passes.neutral
  intro char membership
  have shown := isBlank char membership
  simp only [blankChar, Bool.or_eq_true, decide_eq_true_eq] at shown
  rcases shown with ((rfl | rfl) | rfl) | rfl <;> decide

/-- The scan sees the nesting of what the text denotes. -/
theorem Passes.of_derives {text : List Char} {part : Part} (derived : Derives text part) :
    Passes text (partNesting part) := by
  induction derived with
  | null | true | false => exact Passes.neutral (List.all_eq_true.mp rfl)
  | number _ => exact Passes.neutral (neutral_numeral _)
  | string body => exact .string body
  | emptyArray isBlank => exact (Passes.blank isBlank).container (.inr rfl) (.inr rfl)
  | array _ inductionHypothesis => exact inductionHypothesis.container (.inr rfl) (.inr rfl)
  | emptyObject isBlank => exact (Passes.blank isBlank).container (.inl rfl) (.inl rfl)
  | object _ inductionHypothesis => exact inductionHypothesis.container (.inl rfl) (.inl rfl)
  | lastItem isBefore _ isAfter inductionHypothesis =>
      have passes := (Passes.blank isBefore).append
        (inductionHypothesis.append (Passes.blank isAfter))
      rwa [Nat.zero_max] at passes
  | item isBefore _ isAfter _ inductionHypothesis laterHypothesis =>
      have comma : Passes [','] 0 := .char (by decide)
      have passes := (Passes.blank isBefore).append (inductionHypothesis.append
        ((Passes.blank isAfter).append (comma.append laterHypothesis)))
      simp only [Nat.zero_max] at passes
      exact passes
  | lastMember isBefore isName isBeforeColon isAfterColon _ isAfter inductionHypothesis =>
      have colon : Passes [':'] 0 := .char (by decide)
      have passes := (Passes.blank isBefore).append ((Passes.string isName).append
        ((Passes.blank isBeforeColon).append (colon.append ((Passes.blank isAfterColon).append
          (inductionHypothesis.append (Passes.blank isAfter))))))
      simp only [Nat.zero_max] at passes
      simpa [partNesting, Tree.nestingMembers] using passes
  | member isBefore isName isBeforeColon isAfterColon _ isAfter _ inductionHypothesis
      laterHypothesis =>
      have colon : Passes [':'] 0 := .char (by decide)
      have comma : Passes [','] 0 := .char (by decide)
      have passes := (Passes.blank isBefore).append ((Passes.string isName).append
        ((Passes.blank isBeforeColon).append (colon.append ((Passes.blank isAfterColon).append
          (inductionHypothesis.append
            ((Passes.blank isAfter).append (comma.append laterHypothesis)))))))
      simp only [Nat.zero_max] at passes
      simpa [partNesting, Tree.nestingMembers] using passes

theorem checkNestingDepth_of_passes {source : List Char} {deep : ℕ} (passes : Passes source deep) :
    checkNestingDepth (ofChars source) =
      if deep ≤ maxJsonDepth then .ok ()
      else .error (.wireError "JSON nesting depth exceeds 16") := by
  have scanned := passes 0 0 (Nat.le_refl 0) (Nat.zero_le _)
  rw [Nat.zero_add] at scanned
  change (do
    let _ ← (ofChars source).foldlM BracketScan.next { depth := (0 : ℕ), maxDepth := (0 : ℕ) }) = _
  rw [scanned]
  split <;> rfl

end Wire

end ValeraControlTower
