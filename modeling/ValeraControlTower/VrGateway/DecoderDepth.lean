import ValeraControlTower.VrGateway.BracketScan
import ValeraControlTower.VrGateway.DecoderGrammar

/-!
# How many containers the standard decoder has open

The bracket scan goes along with the decoder: behind every token both read, the scan is
outside strings, at the number of containers the decoder has open.  So on a text over
which the scan passes, well-formed or not, the decoder never has more than sixteen open.
-/

namespace ValeraControlTower

open Unicode Json

variable {K : Type}

namespace JsonDecoder

/-! ## Open containers -/

mutual

/-- The most containers `scanOnce` has open at one time, until it returns or raises. -/
def mostOpen (hooks : DecoderHooks K) : ℕ → PyStr → ℕ
  | 0, _ => 0
  | calls + 1, text =>
      match consume? '"' text with
      | some _ => 0
      | none =>
      match consume? '{' text with
      | some text =>
          match consume? '}' (skipWhitespace text) with
          | some _ => 1
          | none => 1 + mostOpenMembers hooks calls (skipWhitespace text)
      | none =>
      match consume? '[' text with
      | some text =>
          match consume? ']' (skipWhitespace text) with
          | some _ => 1
          | none => 1 + mostOpenItems hooks calls (skipWhitespace text)
      | none => 0

/-- The most containers `scanMembers` has open inside the object. -/
def mostOpenMembers (hooks : DecoderHooks K) : ℕ → PyStr → ℕ
  | 0, _ => 0
  | calls + 1, text =>
      match consume? '"' text with
      | none => 0
      | some text =>
      match scanString text with
      | .error _ => 0
      | .ok (_, text) =>
      match consume? ':' (skipWhitespace text) with
      | none => 0
      | some text =>
          max (mostOpen hooks calls (skipWhitespace text))
            (match scanOnce hooks calls (skipWhitespace text) with
            | .error _ => 0
            | .ok (_, text) =>
                match consume? '}' (skipWhitespace text) with
                | some _ => 0
                | none =>
                match consume? ',' (skipWhitespace text) with
                | none => 0
                | some text => mostOpenMembers hooks calls (skipWhitespace text))

/-- The most containers `scanItems` has open inside the array. -/
def mostOpenItems (hooks : DecoderHooks K) : ℕ → PyStr → ℕ
  | 0, _ => 0
  | calls + 1, text =>
      max (mostOpen hooks calls text)
        (match scanOnce hooks calls text with
        | .error _ => 0
        | .ok (_, text) =>
            match consume? ']' (skipWhitespace text) with
            | some _ => 0
            | none =>
            match consume? ',' (skipWhitespace text) with
            | none => 0
            | some text => mostOpenItems hooks calls (skipWhitespace text))

end

/-! ## Tokens -/

theorem consume?_eq_some {char : Char} {text rest : PyStr} (read : consume? char text = some rest) :
    text = CodePoint.ofChar char :: rest := by
  cases text with
  | nil => cases read
  | cons point text =>
      unfold consume? at read
      dsimp only at read
      by_cases same : point = CodePoint.ofChar char
      · rw [if_pos same] at read
        cases read
        rw [same]
      · rw [if_neg same] at read
        cases read

theorem consumeAll?_eq_some {literal : List Char} {text rest : PyStr}
    (read : consumeAll? literal text = some rest) : text = ofChars literal ++ rest := by
  induction literal generalizing text with
  | nil =>
      cases read
      rfl
  | cons char literal inductionHypothesis =>
      obtain ⟨behind, first, later⟩ := Option.bind_eq_some_iff.mp read
      rw [consume?_eq_some first, inductionHypothesis later]
      rfl

/-- The constants `scan_once` knows. -/
def constantTexts : List (List Char) :=
  ["null".toList, "true".toList, "false".toList, "NaN".toList, "Infinity".toList,
    "-Infinity".toList]

theorem neutral_constant {literal : List Char} (known : literal ∈ constantTexts) :
    ∀ char ∈ literal, Wire.neutral char = true := by
  have plain : constantTexts.all (·.all Wire.neutral) = true := rfl
  exact List.all_eq_true.mp (List.all_eq_true.mp plain literal known)

theorem constant_text {hooks : DecoderHooks K} {text rest : PyStr} {value : PyJson K}
    (returned : constant hooks text = .ok (value, rest)) :
    ∃ literal ∈ constantTexts, text = ofChars literal ++ rest := by
  unfold constant at returned
  split at returned
  · next read =>
      cases returned
      exact ⟨_, by simp [constantTexts], consumeAll?_eq_some read⟩
  · split at returned
    · next read =>
        cases returned
        exact ⟨_, by simp [constantTexts], consumeAll?_eq_some read⟩
    · split at returned
      · next read =>
          cases returned
          exact ⟨_, by simp [constantTexts], consumeAll?_eq_some read⟩
      · split at returned
        · next read =>
            obtain ⟨_, _, same⟩ := map_eq_ok_iff.mp returned
            cases same
            exact ⟨_, by simp [constantTexts], consumeAll?_eq_some read⟩
        · split at returned
          · next read =>
              obtain ⟨_, _, same⟩ := map_eq_ok_iff.mp returned
              cases same
              exact ⟨_, by simp [constantTexts], consumeAll?_eq_some read⟩
          · split at returned
            · next read =>
                obtain ⟨_, _, same⟩ := map_eq_ok_iff.mp returned
                cases same
                exact ⟨_, by simp [constantTexts], consumeAll?_eq_some read⟩
            · cases returned

/-- A number or a constant has no character the scan reacts to. -/
theorem scanAtom_text {hooks : DecoderHooks K} {text rest : PyStr} {value : PyJson K}
    (returned : scanAtom hooks text = .ok (value, rest)) :
    ∃ atom, (∀ char ∈ atom, Wire.neutral char = true) ∧ atom ≠ [] ∧
      text = ofChars atom ++ rest := by
  cases read : Numeral.scan text with
  | none =>
      unfold scanAtom at returned
      rw [read] at returned
      obtain ⟨literal, known, written⟩ := constant_text returned
      refine ⟨literal, neutral_constant known, ?_, written⟩
      rintro rfl
      simp [constantTexts] at known
  | some pair =>
      obtain ⟨numeral, behind⟩ := pair
      rw [scanAtom_numeral hooks read] at returned
      obtain ⟨_, _, same⟩ := map_eq_ok_iff.mp returned
      cases same
      obtain ⟨written, wellFormed⟩ := Numeral.scan_sound read
      rw [← Numeral.ofChars_eq_encode] at written
      refine ⟨numeral.text, Wire.neutral_numeral numeral, ?_, written⟩
      obtain ⟨char, after, same, _⟩ := numeral_head wellFormed
      rw [same]
      exact List.cons_ne_nil char after

/-! ## The scan goes along -/

open Wire

/-- The scan passes over the text from a state of it. -/
def Passable (scan : BracketScan) (text : PyStr) : Prop :=
  ∃ later, text.foldlM BracketScan.next scan = .ok later

/-- Outside strings, at a depth that is still allowed, the scan passes over the text. -/
def Survives (depth : ℕ) (text : PyStr) : Prop :=
  ∃ maxDepth : ℕ, depth ≤ maxDepth ∧ maxDepth ≤ maxJsonDepth ∧
    Passable { depth := depth, maxDepth := maxDepth } text

theorem Passable.next {scan : BracketScan} {point : CodePoint} {text : PyStr}
    (passable : Passable scan (point :: text)) :
    ∃ later, scan.next point = .ok later ∧ Passable later text := by
  obtain ⟨final, passed⟩ := passable
  rw [List.foldlM_cons] at passed
  obtain ⟨later, stepped, passed⟩ := bind_eq_ok passed
  exact ⟨later, stepped, final, passed⟩

theorem Passable.step {scan later : BracketScan} {point : CodePoint} {text : PyStr}
    (passable : Passable scan (point :: text)) (step : scan.next point = .ok later) :
    Passable later text := by
  obtain ⟨other, stepped, passable⟩ := passable.next
  cases step.symm.trans stepped
  exact passable

variable {depth : ℕ} {text rest : PyStr}

/-- What the scan passes over at no depth of its own can be left out in front. -/
theorem Survives.behind {source : List Char} (passes : Passes source 0)
    (survives : Survives depth (ofChars source ++ rest)) : Survives depth rest := by
  obtain ⟨maxDepth, below, bounded, final, passed⟩ := survives
  rw [List.foldlM_append, passes depth maxDepth below bounded, if_pos (by omega), Nat.add_zero,
    max_eq_left below] at passed
  exact ⟨maxDepth, below, bounded, final, passed⟩

theorem Survives.char {char : Char} (plain : neutral char = true)
    (survives : Survives depth (CodePoint.ofChar char :: rest)) : Survives depth rest :=
  Survives.behind (Passes.char plain) survives

theorem Survives.opening {char : Char} (opens : char = '{' ∨ char = '[')
    (survives : Survives depth (CodePoint.ofChar char :: rest)) :
    depth + 1 ≤ maxJsonDepth ∧ Survives (depth + 1) rest := by
  obtain ⟨maxDepth, below, bounded, passable⟩ := survives
  obtain ⟨later, stepped, passable⟩ := passable.next
  rw [next_opening opens] at stepped
  by_cases allowed : depth + 1 ≤ maxJsonDepth ∧ maxDepth ≤ maxJsonDepth
  · rw [if_pos allowed] at stepped
    cases stepped
    exact ⟨allowed.1, max maxDepth (depth + 1), by omega, by omega, passable⟩
  · rw [if_neg allowed] at stepped
    cases stepped

theorem Survives.closing {char : Char} (closes : char = '}' ∨ char = ']')
    (survives : Survives (depth + 1) (CodePoint.ofChar char :: rest)) : Survives depth rest := by
  obtain ⟨maxDepth, below, bounded, passable⟩ := survives
  exact ⟨maxDepth, by omega, bounded, passable.step (next_closing closes depth maxDepth)⟩

theorem Survives.skipWhitespace (survives : Survives depth text) :
    Survives depth (skipWhitespace text) := by
  unfold JsonDecoder.skipWhitespace
  induction text with
  | nil => exact survives
  | cons point text inductionHypothesis =>
      by_cases blank : isWhitespace point = true
      · rw [List.dropWhile_cons_of_pos blank]
        apply inductionHypothesis
        simp only [isWhitespace, Bool.or_eq_true, decide_eq_true_eq] at blank
        rcases blank with ((rfl | rfl) | rfl) | rfl
        · exact survives.char (by decide)
        · exact survives.char (by decide)
        · exact survives.char (by decide)
        · exact survives.char (by decide)
      · rw [List.dropWhile_cons_of_neg blank]
        exact survives

/-- What `scanstring` reads in front of the closing quote. -/
inductive Quoted : PyStr → Prop where
  | nil : Quoted []
  | point {point : CodePoint} {text : PyStr} (notQuote : point ≠ CodePoint.ofChar '"')
      (notBackslash : point ≠ CodePoint.ofChar '\\') (quoted : Quoted text) :
      Quoted (point :: text)
  | escape (letter : CodePoint) {text : PyStr} (quoted : Quoted text) :
      Quoted (CodePoint.ofChar '\\' :: letter :: text)

/-- What `scanstring` does with a text. -/
inductive ScansString (text : PyStr) : Except PyException (List CodeUnit × PyStr) → Prop where
  | raises (message : String) : ScansString text (.error (.jsonDecodeError message))
  | returns {body : PyStr} (units : List CodeUnit) (rest : PyStr) (quoted : Quoted body)
      (written : text = body ++ CodePoint.ofChar '"' :: rest) :
      ScansString text (.ok (units, rest))

/-- Behind something quoted, `scanstring` goes on as on the rest. -/
theorem ScansString.map {text : PyStr} {outcome : Except PyException (List CodeUnit × PyStr)}
    (scans : ScansString text outcome) (front : PyStr)
    (grow : ∀ {body}, Quoted body → Quoted (front ++ body)) (units : List CodeUnit) :
    ScansString (front ++ text) (outcome.map fun read => (units ++ read.1, read.2)) := by
  cases scans with
  | raises message => exact .raises message
  | returns read rest quoted written =>
      exact .returns _ rest (grow quoted) (by rw [written, List.append_assoc])

theorem Quoted.hexDigit {digit : CodePoint} {value : Fin 16} {text : PyStr}
    (hex : hexDigit? digit.val = some value) (quoted : Quoted text) : Quoted (digit :: text) := by
  apply Quoted.point _ _ quoted
  · rintro rfl
    cases hex
  · rintro rfl
    cases hex

theorem scanString_scans (text : PyStr) : ScansString text (scanString text) := by
  induction text using scanString.induct with
  | case1 => exact .raises _
  | case2 behind =>
      rw [scanString_quote]
      exact .returns [] behind .nil rfl
  | case3 _ => exact .raises _
  | case4 first second third fourth text unit hex _ inductionHypothesis =>
      rw [scanString_unicode hex]
      obtain ⟨_, _, _, _, isFirst, isSecond, isThird, isFourth, _⟩ := hexUnit?_eq_some hex
      apply inductionHypothesis.map [_, _, first, second, third, fourth] _ [unit]
      intro body quoted
      exact .escape _ (.hexDigit isFirst (.hexDigit isSecond (.hexDigit isThird
        (.hexDigit isFourth quoted))))
  | case5 first second third fourth text malformed =>
      rw [scanString.eq_def]
      dsimp only
      rw [if_neg (by decide), if_pos rfl, if_pos rfl, malformed]
      exact .raises _
  | case6 text tooShort _ =>
      rw [scanString.eq_def]
      dsimp only
      rw [if_neg (by decide), if_pos rfl, if_pos rfl]
      split
      · exact absurd rfl (tooShort _ _ _ _ _)
      · exact .raises _
  | case7 letter text notU unit known _ inductionHypothesis =>
      rw [scanString_escape notU known]
      exact inductionHypothesis.map [_, letter] (.escape letter) [unit]
  | case8 letter text notU unknown _ =>
      rw [scanString.eq_def]
      dsimp only
      rw [if_neg (by decide), if_pos rfl, if_neg notU, unknown]
      exact .raises _
  | case9 point text notQuote notBackslash control =>
      rw [scanString.eq_def]
      dsimp only
      rw [if_neg notQuote, if_neg notBackslash, if_pos control]
      exact .raises _
  | case10 point text notQuote notBackslash printable inductionHypothesis =>
      rw [scanString_printable notQuote notBackslash (Nat.le_of_not_lt printable)]
      exact inductionHypothesis.map [point] (.point notQuote notBackslash) point.units

/-- Inside a string the scan passes over what the decoder reads. -/
theorem Passable.quoted {depth maxDepth : ℤ} {body : PyStr} (quoted : Quoted body)
    (passable : Passable { depth, maxDepth, inString := true } (body ++ rest)) :
    Passable { depth, maxDepth, inString := true } rest := by
  induction quoted with
  | nil => exact passable
  | point notQuote notBackslash _ inductionHypothesis =>
      exact inductionHypothesis (passable.step (next_inside notQuote notBackslash depth maxDepth))
  | escape letter _ inductionHypothesis =>
      exact inductionHypothesis ((passable.step rfl).step rfl)

theorem Survives.string {body : PyStr} (quoted : Quoted body)
    (survives : Survives depth (CodePoint.ofChar '"' :: (body ++ CodePoint.ofChar '"' :: rest))) :
    Survives depth rest := by
  obtain ⟨maxDepth, below, bounded, passable⟩ := survives
  exact ⟨maxDepth, below, bounded, ((passable.step rfl).quoted quoted).step rfl⟩

theorem Survives.atom {hooks : DecoderHooks K} {value : PyJson K}
    (read : scanAtom hooks text = .ok (value, rest)) (survives : Survives depth text) :
    Survives depth rest := by
  obtain ⟨atom, plain, _, rfl⟩ := scanAtom_text read
  exact survives.behind (Passes.neutral plain)

theorem Survives.allowed (survives : Survives depth text) : depth ≤ maxJsonDepth := by
  obtain ⟨maxDepth, below, bounded, _⟩ := survives
  exact below.trans bounded

/-! ## The decoder stays within the scan -/

/-- Hooks that return the object of the pairs or raise a `WireError`, know no constants and
do not run out of stack. -/
structure Plain (hooks : DecoderHooks K) : Prop where
  pairs : ∀ pairs, hooks.objectPairsHook pairs = .ok (.obj pairs) ∨
    ∃ message, hooks.objectPairsHook pairs = .error (.wireError message)
  constants : ∀ text, ∃ message, hooks.parseConstant text = .error (.wireError message)
  integers : ∀ numeral, hooks.parseInt numeral ≠ .error .recursionError

/-- From the depth on, reading the text opens no more containers than are still allowed,
and the scan has come to the depth `after` behind what is read.  With plain hooks, what is
returned nests no deeper than what was open, and calls that are enough do not run out. -/
structure Within {α : Type} (hooks : DecoderHooks K) (nesting : α → ℕ) (depth after opened : ℕ)
    (text : PyStr) (enough : Prop) (outcome : Except PyException (α × PyStr)) : Prop where
  allowed : depth + opened ≤ maxJsonDepth
  survives : ∀ value rest, outcome = .ok (value, rest) → Survives after rest
  shorter : ∀ value rest, outcome = .ok (value, rest) → rest.length < text.length
  nested : Plain hooks → ∀ value rest, outcome = .ok (value, rest) → nesting value ≤ opened
  lasts : Plain hooks → enough → outcome ≠ .error .recursionError

/-- The three scanners, behind a text the scan passes over. -/
structure ScansWithin (hooks : DecoderHooks K) (calls : ℕ) : Prop where
  value : ∀ {depth text}, Survives depth text →
    Within hooks Tree.nesting depth depth (mostOpen hooks calls text) text
      (2 * text.length + 1 ≤ calls) (scanOnce hooks calls text)
  members : ∀ {depth text}, Survives (depth + 1) text →
    Within hooks Tree.nestingMembers (depth + 1) depth (mostOpenMembers hooks calls text) text
      (2 * text.length + 1 ≤ calls) (scanMembers hooks calls text)
  items : ∀ {depth text}, Survives (depth + 1) text →
    Within hooks Tree.nestingItems (depth + 1) depth (mostOpenItems hooks calls text) text
      (2 * text.length + 2 ≤ calls) (scanItems hooks calls text)

section Within

variable {α : Type} {hooks : DecoderHooks K} {nesting : α → ℕ} {after opened : ℕ} {enough : Prop}

theorem Within.raises {exception : PyException} (allowed : depth + opened ≤ maxJsonDepth)
    (other : Plain hooks → enough → exception ≠ .recursionError) :
    Within hooks nesting depth after opened text enough (.error exception) where
  allowed
  survives := nofun
  shorter := nofun
  nested := nofun
  lasts := fun plain many same => other plain many (Except.error.inj same)

theorem Within.raisesDecodeError {message : String} (allowed : depth + opened ≤ maxJsonDepth) :
    Within hooks nesting depth after opened text enough (.error (.jsonDecodeError message)) :=
  .raises allowed fun _ _ => nofun

theorem Within.returns {value : α} (allowed : depth + opened ≤ maxJsonDepth)
    (survives : Survives after rest) (shorter : rest.length < text.length)
    (nested : nesting value ≤ opened) :
    Within hooks nesting depth after opened text enough (.ok (value, rest)) where
  allowed
  survives := by
    rintro _ _ ⟨⟩
    exact survives
  shorter := by
    rintro _ _ ⟨⟩
    exact shorter
  nested := by
    rintro _ _ _ ⟨⟩
    exact nested
  lasts := nofun

variable {β : Type} {nesting' : β → ℕ} {depth' after' opened' : ℕ} {text' : PyStr} {enough' : Prop}
  {outcome : Except PyException (β × PyStr)}

/-- What was read goes through a hook. -/
theorem Within.hook {finish : β → Except PyException α}
    (within : Within hooks nesting' depth' after opened' text' enough' outcome)
    (allowed : depth + opened ≤ maxJsonDepth) (shorter : text'.length ≤ text.length)
    (covers : enough → enough')
    (nested : Plain hooks → ∀ value result, finish value = .ok result →
      nesting' value ≤ opened' → nesting result ≤ opened)
    (lasts : Plain hooks → ∀ value, finish value ≠ .error .recursionError) :
    Within hooks nesting depth after opened text enough
      (outcome >>= fun read => (finish read.1).map (·, read.2)) := by
  cases outcome with
  | error exception =>
      apply Within.raises allowed
      rintro plain many rfl
      exact within.lasts plain (covers many) rfl
  | ok read =>
      change Within _ _ _ _ _ _ _ ((finish read.1).map (·, read.2))
      cases finished : finish read.1 with
      | error exception =>
          apply Within.raises allowed
          rintro plain _ rfl
          exact lasts plain read.1 finished
      | ok result =>
          refine ⟨allowed, ?_, ?_, ?_, nofun⟩
          · rintro _ _ ⟨⟩
            exact within.survives read.1 read.2 rfl
          · rintro _ _ ⟨⟩
            exact (within.shorter read.1 read.2 rfl).trans_le shorter
          · rintro plain _ _ ⟨⟩
            exact nested plain read.1 result finished (within.nested plain read.1 read.2 rfl)

/-- What was read is wrapped up. -/
theorem Within.map {wrap : β → α}
    (within : Within hooks nesting' depth' after opened' text' enough' outcome)
    (allowed : depth + opened ≤ maxJsonDepth) (shorter : text'.length ≤ text.length)
    (covers : enough → enough')
    (nested : Plain hooks → ∀ value, nesting' value ≤ opened' → nesting (wrap value) ≤ opened) :
    Within hooks nesting depth after opened text enough
      (outcome.map fun read => (wrap read.1, read.2)) := by
  cases outcome with
  | error exception =>
      apply Within.raises allowed
      rintro plain many rfl
      exact within.lasts plain (covers many) rfl
  | ok read =>
      refine ⟨allowed, ?_, ?_, ?_, nofun⟩
      · rintro _ _ ⟨⟩
        exact within.survives read.1 read.2 rfl
      · rintro _ _ ⟨⟩
        exact (within.shorter read.1 read.2 rfl).trans_le shorter
      · rintro plain _ _ ⟨⟩
        exact nested plain read.1 (within.nested plain read.1 read.2 rfl)

end Within

theorem length_skipWhitespace (text : PyStr) :
    (JsonDecoder.skipWhitespace text).length ≤ text.length :=
  List.length_dropWhile_le _ _

theorem length_consume? {char : Char}
    (read : consume? char (JsonDecoder.skipWhitespace text) = some rest) :
    rest.length < text.length := by
  have shorter := length_skipWhitespace text
  rw [consume?_eq_some read, List.length_cons] at shorter
  exact shorter

section Scanners

variable {hooks : DecoderHooks K} {calls : ℕ} {enough : Prop}

theorem Plain.pairs_nesting (plain : Plain hooks) {pairs : PyPairs K} {value : PyJson K}
    (returned : hooks.objectPairsHook pairs = .ok value) :
    value.nesting = 1 + Tree.nestingMembers pairs := by
  rcases plain.pairs pairs with same | ⟨message, raised⟩
  · cases returned.symm.trans same
    rfl
  · cases returned.symm.trans raised

theorem Plain.pairs_ne (plain : Plain hooks) (pairs : PyPairs K) :
    hooks.objectPairsHook pairs ≠ .error .recursionError := by
  rcases plain.pairs pairs with same | ⟨message, raised⟩
  · rw [same]
    exact nofun
  · rw [raised]
    exact nofun

theorem scanOnce_object_within (inside : ScansWithin hooks calls)
    (survives : Survives depth (CodePoint.ofChar '{' :: text)) :
    Within hooks Tree.nesting depth depth
      (mostOpen hooks (calls + 1) (CodePoint.ofChar '{' :: text)) (CodePoint.ofChar '{' :: text)
      (2 * (CodePoint.ofChar '{' :: text).length + 1 ≤ calls + 1)
      (scanOnce hooks (calls + 1) (CodePoint.ofChar '{' :: text)) := by
  obtain ⟨allowed, survives⟩ := survives.opening (.inl rfl)
  have survives := survives.skipWhitespace
  have shorter := length_skipWhitespace text
  cases ends : consume? '}' (skipWhitespace text) with
  | some rest =>
      rw [scanOnce_emptyObject _ _ ends, mostOpen, consume?_other (by decide), consume?_same]
      dsimp only
      rw [ends]
      rw [consume?_eq_some ends] at survives
      have behind := length_consume? ends
      cases finished : hooks.objectPairsHook [] with
      | error exception =>
          apply Within.raises allowed
          rintro plain _ rfl
          exact plain.pairs_ne [] finished
      | ok value =>
          refine ⟨allowed, ?_, ?_, ?_, nofun⟩
          · rintro _ _ ⟨⟩
            exact survives.closing (.inl rfl)
          · rintro _ _ ⟨⟩
            rw [List.length_cons]
            omega
          · rintro plain _ _ ⟨⟩
            exact (plain.pairs_nesting finished).le
  | none =>
      rw [scanOnce_object _ _ ends, mostOpen, consume?_other (by decide), consume?_same]
      dsimp only
      rw [ends]
      have within := inside.members survives
      have opened := within.allowed
      apply within.hook (by dsimp only; omega) (by rw [List.length_cons]; omega)
      · rw [List.length_cons]
        omega
      · intro plain pairs value returned nested
        rw [plain.pairs_nesting returned]
        exact Nat.add_le_add_left nested 1
      · exact fun plain pairs => plain.pairs_ne pairs

theorem scanOnce_array_within (inside : ScansWithin hooks calls)
    (survives : Survives depth (CodePoint.ofChar '[' :: text)) :
    Within hooks Tree.nesting depth depth
      (mostOpen hooks (calls + 1) (CodePoint.ofChar '[' :: text)) (CodePoint.ofChar '[' :: text)
      (2 * (CodePoint.ofChar '[' :: text).length + 1 ≤ calls + 1)
      (scanOnce hooks (calls + 1) (CodePoint.ofChar '[' :: text)) := by
  obtain ⟨allowed, survives⟩ := survives.opening (.inr rfl)
  have survives := survives.skipWhitespace
  have shorter := length_skipWhitespace text
  cases ends : consume? ']' (skipWhitespace text) with
  | some rest =>
      rw [scanOnce_emptyArray _ _ ends, mostOpen, consume?_other (by decide),
        consume?_other (by decide), consume?_same]
      dsimp only
      rw [ends]
      rw [consume?_eq_some ends] at survives
      have behind := length_consume? ends
      exact .returns allowed (survives.closing (.inr rfl)) (by rw [List.length_cons]; omega)
        (Nat.le_refl 1)
  | none =>
      rw [scanOnce_array _ _ ends, mostOpen, consume?_other (by decide),
        consume?_other (by decide), consume?_same]
      dsimp only
      rw [ends]
      have within := inside.items survives
      have opened := within.allowed
      apply within.map (by dsimp only; omega) (by rw [List.length_cons]; omega)
      · rw [List.length_cons]
        omega
      · exact fun _ items nested => Nat.add_le_add_left nested 1

theorem constant_plain (plain : Plain hooks) (text : PyStr) :
    (∃ exception, constant hooks text = .error exception ∧ exception ≠ .recursionError) ∨
      ∃ value rest, constant hooks text = .ok (value, rest) ∧ value.nesting = 0 := by
  unfold constant
  split
  · exact .inr ⟨_, _, rfl, rfl⟩
  · split
    · exact .inr ⟨_, _, rfl, rfl⟩
    · split
      · exact .inr ⟨_, _, rfl, rfl⟩
      · split
        · obtain ⟨message, raised⟩ := plain.constants "NaN"
          rw [raised]
          exact .inl ⟨_, rfl, nofun⟩
        · split
          · obtain ⟨message, raised⟩ := plain.constants "Infinity"
            rw [raised]
            exact .inl ⟨_, rfl, nofun⟩
          · split
            · obtain ⟨message, raised⟩ := plain.constants "-Infinity"
              rw [raised]
              exact .inl ⟨_, rfl, nofun⟩
            · exact .inl ⟨_, rfl, nofun⟩

theorem scanAtom_plain (plain : Plain hooks) (text : PyStr) :
    (∃ exception, scanAtom hooks text = .error exception ∧ exception ≠ .recursionError) ∨
      ∃ value rest, scanAtom hooks text = .ok (value, rest) ∧ value.nesting = 0 := by
  cases read : Numeral.scan text with
  | none =>
      unfold scanAtom
      rw [read]
      exact constant_plain plain text
  | some pair =>
      rw [scanAtom_numeral hooks read]
      unfold number
      split
      · cases parsed : hooks.parseInt pair.1 with
        | error exception =>
            refine .inl ⟨exception, rfl, ?_⟩
            rintro rfl
            exact plain.integers pair.1 parsed
        | ok value => exact .inr ⟨_, _, rfl, rfl⟩
      · exact .inr ⟨_, _, rfl, rfl⟩

theorem scanAtom_within (survives : Survives depth text) :
    Within hooks Tree.nesting depth depth 0 text enough (scanAtom hooks text) where
  allowed := survives.allowed
  survives := fun _ _ returned => survives.atom returned
  shorter := by
    intro value rest returned
    obtain ⟨atom, _, nonempty, rfl⟩ := scanAtom_text returned
    have present := List.length_pos_of_ne_nil nonempty
    rw [List.length_append, ofChars, List.length_map]
    omega
  nested := by
    intro plain value rest returned
    rcases scanAtom_plain plain text with ⟨_, raised, _⟩ | ⟨_, _, same, nesting⟩
    · cases raised.symm.trans returned
    · cases same.symm.trans returned
      exact nesting.le
  lasts := by
    intro plain _ exhausted
    rcases scanAtom_plain plain text with ⟨_, raised, other⟩ | ⟨_, _, same, _⟩
    · cases raised.symm.trans exhausted
      exact other rfl
    · cases same.symm.trans exhausted

theorem scanOnce_within (inside : ScansWithin hooks calls) (survives : Survives depth text) :
    Within hooks Tree.nesting depth depth (mostOpen hooks (calls + 1) text) text
      (2 * text.length + 1 ≤ calls + 1) (scanOnce hooks (calls + 1) text) := by
  cases isString : consume? '"' text with
  | some behind =>
      obtain rfl := consume?_eq_some isString
      rw [scanOnce_string, mostOpen, isString]
      have scans := scanString_scans behind
      generalize scanString behind = outcome at scans
      cases scans with
      | raises message => exact .raisesDecodeError survives.allowed
      | returns units rest quoted written =>
          rw [written] at survives
          refine .returns survives.allowed (survives.string quoted) ?_ (Nat.le_refl 0)
          rw [written, List.length_cons, List.length_append, List.length_cons]
          change rest.length < _
          omega
  | none =>
      cases isObject : consume? '{' text with
      | some behind =>
          obtain rfl := consume?_eq_some isObject
          exact scanOnce_object_within inside survives
      | none =>
          cases isArray : consume? '[' text with
          | some behind =>
              obtain rfl := consume?_eq_some isArray
              exact scanOnce_array_within inside survives
          | none =>
              rw [scanOnce_atom _ _ isString isObject isArray, mostOpen, isString,
                isObject, isArray]
              exact scanAtom_within survives

/-- What follows a member whose value nests no deeper than what was open in it. -/
theorem afterMember_within (inside : ScansWithin hooks calls) (name : List CodeUnit)
    {first : PyJson K × PyStr} {openFirst : ℕ} (survives : Survives (depth + 1) first.2)
    (allowed : depth + 1 + openFirst ≤ maxJsonDepth) (shorter : first.2.length + 2 ≤ text.length)
    (nested : Plain hooks → first.1.nesting ≤ openFirst) :
    Within hooks Tree.nestingMembers (depth + 1) depth
      (max openFirst
        (match consume? '}' (skipWhitespace first.2) with
        | some _ => 0
        | none =>
        match consume? ',' (skipWhitespace first.2) with
        | none => 0
        | some text => mostOpenMembers hooks calls (skipWhitespace text))) text
      (2 * text.length + 1 ≤ calls + 1) (afterMember hooks calls name first) := by
  have survives := survives.skipWhitespace
  unfold afterMember
  cases ends : consume? '}' (skipWhitespace first.2) with
  | some rest =>
      rw [consume?_eq_some ends] at survives
      have behind := length_consume? ends
      dsimp only
      rw [Nat.max_zero]
      refine ⟨allowed, ?_, ?_, ?_, nofun⟩
      · rintro _ _ ⟨⟩
        exact survives.closing (.inl rfl)
      · rintro _ _ ⟨⟩
        omega
      · rintro plain _ _ ⟨⟩
        exact max_le (nested plain) (Nat.zero_le _)
  | none =>
      dsimp only
      cases comma : consume? ',' (skipWhitespace first.2) with
      | none =>
          dsimp only
          rw [Nat.max_zero]
          exact .raisesDecodeError allowed
      | some behind =>
          rw [consume?_eq_some comma] at survives
          have within := inside.members (survives.char (by decide)).skipWhitespace
          have opened := within.allowed
          have later := length_consume? comma
          have skipped := length_skipWhitespace behind
          dsimp only
          apply within.map (by omega) (by omega) (by omega)
          exact fun plain others nestedOthers => max_le_max (nested plain) nestedOthers

theorem scanMembers_within (inside : ScansWithin hooks calls)
    (survives : Survives (depth + 1) text) :
    Within hooks Tree.nestingMembers (depth + 1) depth (mostOpenMembers hooks (calls + 1) text) text
      (2 * text.length + 1 ≤ calls + 1) (scanMembers hooks (calls + 1) text) := by
  have allowed := survives.allowed
  cases isString : consume? '"' text with
  | none =>
      rw [scanMembers, mostOpenMembers, isString]
      exact .raisesDecodeError allowed
  | some behind =>
      obtain rfl := consume?_eq_some isString
      rw [scanMembers_step, mostOpenMembers, isString]
      dsimp only
      have scans := scanString_scans behind
      generalize scanString behind = outcome at scans
      cases scans with
      | raises message => exact .raisesDecodeError allowed
      | returns units rest quoted written =>
          rw [written] at survives
          have survives := (survives.string quoted).skipWhitespace
          have size := congrArg List.length written
          rw [List.length_append, List.length_cons] at size
          change Within _ _ _ _ _ _ _ (afterName hooks calls (units, rest))
          unfold afterName
          dsimp only
          cases colon : consume? ':' (skipWhitespace rest) with
          | none => exact .raisesDecodeError allowed
          | some text =>
              rw [consume?_eq_some colon] at survives
              have within := inside.value (survives.char (by decide)).skipWhitespace
              have opened := within.allowed
              have behindColon := length_consume? colon
              have skipped := length_skipWhitespace text
              dsimp only
              cases read : scanOnce hooks calls (skipWhitespace text) with
              | error exception =>
                  dsimp only
                  rw [Nat.max_zero]
                  apply Within.raises opened
                  rintro plain many rfl
                  apply within.lasts plain _ read
                  rw [List.length_cons] at many
                  omega
              | ok first =>
                  have shorter := within.shorter first.1 first.2 read
                  apply afterMember_within inside units
                    (within.survives first.1 first.2 read) opened
                  · rw [List.length_cons]
                    omega
                  · exact fun plain => within.nested plain first.1 first.2 read

/-- What follows an item that nests no deeper than what was open in it. -/
theorem afterItem_within (inside : ScansWithin hooks calls)
    {first : PyJson K × PyStr} {openFirst : ℕ} (survives : Survives (depth + 1) first.2)
    (allowed : depth + 1 + openFirst ≤ maxJsonDepth) (shorter : first.2.length + 1 ≤ text.length)
    (nested : Plain hooks → first.1.nesting ≤ openFirst) :
    Within hooks Tree.nestingItems (depth + 1) depth
      (max openFirst
        (match consume? ']' (skipWhitespace first.2) with
        | some _ => 0
        | none =>
        match consume? ',' (skipWhitespace first.2) with
        | none => 0
        | some text => mostOpenItems hooks calls (skipWhitespace text))) text
      (2 * text.length + 2 ≤ calls + 1) (afterItem hooks calls first) := by
  have survives := survives.skipWhitespace
  unfold afterItem
  cases ends : consume? ']' (skipWhitespace first.2) with
  | some rest =>
      rw [consume?_eq_some ends] at survives
      have behind := length_consume? ends
      dsimp only
      rw [Nat.max_zero]
      refine ⟨allowed, ?_, ?_, ?_, nofun⟩
      · rintro _ _ ⟨⟩
        exact survives.closing (.inr rfl)
      · rintro _ _ ⟨⟩
        omega
      · rintro plain _ _ ⟨⟩
        exact max_le (nested plain) (Nat.zero_le _)
  | none =>
      dsimp only
      cases comma : consume? ',' (skipWhitespace first.2) with
      | none =>
          dsimp only
          rw [Nat.max_zero]
          exact .raisesDecodeError allowed
      | some behind =>
          rw [consume?_eq_some comma] at survives
          have within := inside.items (survives.char (by decide)).skipWhitespace
          have opened := within.allowed
          have later := length_consume? comma
          have skipped := length_skipWhitespace behind
          dsimp only
          apply within.map (by omega) (by omega) (by omega)
          exact fun plain others nestedOthers => max_le_max (nested plain) nestedOthers

theorem scanItems_within (inside : ScansWithin hooks calls)
    (survives : Survives (depth + 1) text) :
    Within hooks Tree.nestingItems (depth + 1) depth (mostOpenItems hooks (calls + 1) text) text
      (2 * text.length + 2 ≤ calls + 1) (scanItems hooks (calls + 1) text) := by
  rw [scanItems_step, mostOpenItems]
  have within := inside.value survives
  have opened := within.allowed
  cases read : scanOnce hooks calls text with
  | error exception =>
      dsimp only
      rw [Nat.max_zero]
      apply Within.raises opened
      rintro plain many rfl
      exact within.lasts plain (by omega) read
  | ok first =>
      have shorter := within.shorter first.1 first.2 read
      exact afterItem_within inside (within.survives first.1 first.2 read) opened shorter
        fun plain => within.nested plain first.1 first.2 read

end Scanners

theorem scansWithin (hooks : DecoderHooks K) (calls : ℕ) : ScansWithin hooks calls := by
  induction calls with
  | zero =>
      refine ⟨fun survives => ?_, fun survives => ?_, fun survives => ?_⟩
      · rw [scanOnce]
        exact .raises survives.allowed fun _ many => absurd many (by omega)
      · rw [scanMembers]
        exact .raises survives.allowed fun _ many => absurd many (by omega)
      · rw [scanItems]
        exact .raises survives.allowed fun _ many => absurd many (by omega)
  | succ calls inductionHypothesis =>
      exact ⟨scanOnce_within inductionHypothesis, scanMembers_within inductionHypothesis,
        scanItems_within inductionHypothesis⟩

theorem survives_of_checkNestingDepth (passes : checkNestingDepth text = .ok ()) :
    Survives 0 (skipWhitespace text) := by
  obtain ⟨later, passed, _⟩ := bind_eq_ok passes
  have survives : Survives 0 text := ⟨0, Nat.le_refl 0, Nat.zero_le _, later, passed⟩
  exact survives.skipWhitespace

theorem plain_decoderHooks (M : FloatMath K) : Plain (decoderHooks M parseInt) where
  pairs := by
    intro pairs
    change rejectDuplicateKeys pairs = _ ∨ ∃ message, rejectDuplicateKeys pairs = _
    rw [rejectDuplicateKeys_eq]
    split
    · exact .inl rfl
    · exact .inr ⟨_, rfl⟩
  constants := fun text => ⟨_, rfl⟩
  integers := by
    intro numeral
    change parseInt numeral ≠ _
    unfold parseInt
    split <;> nofun

end JsonDecoder

end ValeraControlTower
