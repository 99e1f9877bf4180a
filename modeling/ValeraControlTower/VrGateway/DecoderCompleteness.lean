import ValeraControlTower.VrGateway.DecoderGrammar

/-!
# What the standard decoder reads

With the hooks of `_parse_json`, every value of the grammar whose objects have distinct
keys is read back.  A text that reaches an overlong integer literal ends in the
`ValueError` of `int`.
-/

namespace ValeraControlTower

open Unicode Json

variable {K : Type} {M : FloatMath K}

namespace JsonDecoder

theorem skipWhitespace_value {text : List Char} {tree : Document}
    (derived : Derives text (.value tree)) (rest : PyStr) :
    skipWhitespace (ofChars text ++ rest) = ofChars text ++ rest := by
  obtain ⟨char, after, rfl, solid⟩ := derived.value_head
  simp only [separator, Bool.or_eq_false_iff] at solid
  exact skipWhitespace_solid solid.1.1.1.1 _

theorem skipWhitespace_blank_value {before text : List Char} {tree : Document}
    (isBefore : Blank before) (derived : Derives text (.value tree)) (rest : PyStr) :
    skipWhitespace (ofChars before ++ (ofChars text ++ rest)) = ofChars text ++ rest := by
  rw [skipWhitespace_blank isBefore, skipWhitespace_value derived]

/-- Blanks in front of a character that is none. -/
theorem skipWhitespace_blank_char {blank : List Char} (isBlank : Blank blank) {char : Char}
    (solid : blankChar char = false) (rest : PyStr) :
    skipWhitespace (ofChars blank ++ CodePoint.ofChar char :: rest) =
      CodePoint.ofChar char :: rest := by
  rw [skipWhitespace_blank isBlank, skipWhitespace_solid solid]

theorem closed_ofChar {char : Char} (ends : separator char = true) (rest : PyStr) :
    Numeral.Closed (CodePoint.ofChar char :: rest) := by
  have code : CodePoint.ofChar char = Fin.ofNat 0x110000 char.toNat :=
    Numeral.eq_ofNat (CodePoint.ofChar_val char)
  rw [code]
  exact closed_separator (by decide) ends rest

/-- What follows a value inside a container. -/
theorem closed_blank {after : List Char} (isAfter : Blank after) {char : Char}
    (ends : separator char = true) (rest : PyStr) :
    Numeral.Closed (ofChars after ++ CodePoint.ofChar char :: rest) := by
  cases after with
  | nil => exact closed_ofChar ends rest
  | cons blank after =>
      apply closed_ofChar
      simp only [separator, isAfter blank (by simp), Bool.true_or]

theorem afterItem_last (hooks : DecoderHooks K) (calls : ℕ) (item : PyJson K) {after : List Char}
    (isAfter : Blank after) (rest : PyStr) :
    afterItem hooks calls (item, ofChars after ++ CodePoint.ofChar ']' :: rest) =
      .ok ([item], rest) := by
  unfold afterItem
  dsimp only
  rw [skipWhitespace_blank_char isAfter (by decide), consume?_same]

theorem afterItem_comma (hooks : DecoderHooks K) (calls : ℕ) (item : PyJson K)
    {after : List Char} (isAfter : Blank after) (rest : PyStr) :
    afterItem hooks calls (item, ofChars after ++ CodePoint.ofChar ',' :: rest) =
      (scanItems hooks calls (skipWhitespace rest)).map fun others =>
        (item :: others.1, others.2) := by
  unfold afterItem
  dsimp only
  rw [skipWhitespace_blank_char isAfter (by decide), consume?_other (by decide)]
  dsimp only
  rw [consume?_same]

theorem afterMember_last (hooks : DecoderHooks K) (calls : ℕ) (name : List CodeUnit)
    (value : PyJson K) {after : List Char} (isAfter : Blank after) (rest : PyStr) :
    afterMember hooks calls name (value, ofChars after ++ CodePoint.ofChar '}' :: rest) =
      .ok ([(codePoints name, value)], rest) := by
  unfold afterMember
  dsimp only
  rw [skipWhitespace_blank_char isAfter (by decide), consume?_same]

theorem afterMember_comma (hooks : DecoderHooks K) (calls : ℕ) (name : List CodeUnit)
    (value : PyJson K) {after : List Char} (isAfter : Blank after) (rest : PyStr) :
    afterMember hooks calls name (value, ofChars after ++ CodePoint.ofChar ',' :: rest) =
      (scanMembers hooks calls (skipWhitespace rest)).map fun others =>
        ((codePoints name, value) :: others.1, others.2) := by
  unfold afterMember
  dsimp only
  rw [skipWhitespace_blank_char isAfter (by decide), consume?_other (by decide)]
  dsimp only
  rw [consume?_same]

/-- The name of a member and its colon. -/
theorem scanMembers_name (hooks : DecoderHooks K) (calls : ℕ)
    {before key beforeColon afterColon : List Char} {name : List CodeUnit}
    (isBefore : Blank before) (isName : StringBody key name) (isBeforeColon : Blank beforeColon)
    (isAfterColon : Blank afterColon) (rest : PyStr) :
    scanMembers hooks (calls + 1) (skipWhitespace (ofChars before ++
        CodePoint.ofChar '"' :: (ofChars key ++ CodePoint.ofChar '"' ::
          (ofChars beforeColon ++ CodePoint.ofChar ':' :: (ofChars afterColon ++ rest))))) =
      scanOnce hooks calls (skipWhitespace rest) >>= afterMember hooks calls name := by
  rw [skipWhitespace_blank_char isBefore (by decide), scanMembers_step, scanString_body isName]
  change afterName hooks calls _ = _
  unfold afterName
  dsimp only
  rw [skipWhitespace_blank_char isBeforeColon (by decide), consume?_same]
  dsimp only
  rw [skipWhitespace_blank isAfterColon]

/-- A part of the grammar is read back, if its objects have distinct keys; the bounds on
the calls allow for every character twice. -/
def ReadsBack (M : FloatMath K) (text : List Char) : Part → Prop
  | .value tree => tree.DistinctKeys → ∀ calls rest, 2 * text.length < calls →
      Numeral.Closed rest →
      Returns (scanOnce (Wire.decoderHooks M parseInt) calls (ofChars text ++ rest))
        (pyDocument M tree, rest) (ShortIntegers tree)
  | .items items => Tree.DistinctKeysItems items → ∀ calls rest, 2 * text.length + 1 < calls →
      Returns (scanItems (Wire.decoderHooks M parseInt) calls
          (skipWhitespace (ofChars text ++ CodePoint.ofChar ']' :: rest)))
        (pyItems M items, rest) (Tree.NumbersItems (¬Overlong ·) items)
  | .members members => Tree.DistinctKeysMembers members → ∀ calls rest,
      2 * text.length + 1 < calls →
      Returns (scanMembers (Wire.decoderHooks M parseInt) calls
          (skipWhitespace (ofChars text ++ CodePoint.ofChar '}' :: rest)))
        (pyMembers M members, rest) (Tree.NumbersMembers (¬Overlong ·) members)

theorem exists_pred {bound calls : ℕ} (enough : bound < calls) : ∃ fewer, calls = fewer + 1 :=
  Nat.exists_eq_succ_of_ne_zero (by omega)

theorem readsBack_object {text : List Char} {members : List (List CodeUnit × Document)}
    (derived : Derives text (.members members)) (inside : ReadsBack M text (.members members)) :
    ReadsBack M ('{' :: (text ++ ['}'])) (.value (.obj members)) := by
  intro distinct calls rest enough _
  simp only [List.length_cons, List.length_append, List.length_nil] at enough
  obtain ⟨calls, rfl⟩ := exists_pred enough
  obtain ⟨before, after, rfl, isBefore⟩ := derived.members_opens
  have more : consume? '}' (skipWhitespace
      (ofChars (before ++ '"' :: after) ++ CodePoint.ofChar '}' :: rest)) = none := by
    rw [ofChars_append, ofChars_cons, List.append_assoc, List.cons_append,
      skipWhitespace_blank_char isBefore (by decide)]
    exact consume?_other (by decide) _
  rw [ofChars_cons, ofChars_append, List.cons_append, List.append_assoc]
  change Returns (scanOnce _ _ (_ :: (_ ++ CodePoint.ofChar '}' :: rest))) _ _
  rw [scanOnce_object _ _ more]
  rw [← and_true (ShortIntegers (.obj members))]
  refine (inside distinct.2 calls rest (by omega)).bind (Returns.of_ok ?_)
  change (Wire.rejectDuplicateKeys (pyMembers M members)).map _ = _
  rw [rejectDuplicateKeys_eq, if_pos ((nodup_pyMembers M members).mpr distinct.1)]
  rfl

theorem readsBack_array {text : List Char} {items : List Document}
    (derived : Derives text (.items items)) (inside : ReadsBack M text (.items items)) :
    ReadsBack M ('[' :: (text ++ [']'])) (.value (.arr items)) := by
  intro distinct calls rest enough _
  simp only [List.length_cons, List.length_append, List.length_nil] at enough
  obtain ⟨calls, rfl⟩ := exists_pred enough
  obtain ⟨before, char, after, rfl, isBefore, solid⟩ := derived.items_opens
  have more : consume? ']' (skipWhitespace
      (ofChars (before ++ char :: after) ++ CodePoint.ofChar ']' :: rest)) = none := by
    rw [ofChars_append, ofChars_cons, List.append_assoc, List.cons_append,
      skipWhitespace_blank_char isBefore]
    · apply consume?_other
      rintro rfl
      exact absurd solid (by decide)
    · simp only [separator, Bool.or_eq_false_iff] at solid
      exact solid.1.1.1.1
  rw [ofChars_cons, ofChars_append, List.cons_append, List.append_assoc]
  change Returns (scanOnce _ _ (_ :: (_ ++ CodePoint.ofChar ']' :: rest))) _ _
  rw [scanOnce_array _ _ more]
  exact (inside distinct calls rest (by omega)).map fun read => (Tree.arr read.1, read.2)

theorem scanOnce_literal (hooks : DecoderHooks K) (calls : ℕ) {numeral : Numeral}
    (wellFormed : numeral.WellFormed) (rest : PyStr) :
    scanOnce hooks (calls + 1) (ofChars numeral.text ++ rest) =
      scanAtom hooks (ofChars numeral.text ++ rest) := by
  obtain ⟨char, after, same, start⟩ := numeral_head wellFormed
  have other : char ≠ '"' ∧ char ≠ '{' ∧ char ≠ '[' := by
    rcases start with rfl | ⟨digit, rfl⟩
    · decide
    · clear same
      revert digit
      decide
  rw [same, ofChars_cons, List.cons_append]
  exact scanOnce_atom _ _ (consume?_other other.1 _) (consume?_other other.2.1 _)
    (consume?_other other.2.2 _)

theorem readsBack (M : FloatMath K) {text : List Char} {part : Part}
    (derived : Derives text part) : ReadsBack M text part := by
  induction derived with
  | null =>
      intro _ calls rest enough _
      obtain ⟨calls, rfl⟩ := exists_pred enough
      exact .inl ⟨trivial, rfl⟩
  | true =>
      intro _ calls rest enough _
      obtain ⟨calls, rfl⟩ := exists_pred enough
      exact .inl ⟨trivial, rfl⟩
  | false =>
      intro _ calls rest enough _
      obtain ⟨calls, rfl⟩ := exists_pred enough
      exact .inl ⟨trivial, rfl⟩
  | number wellFormed =>
      intro _ calls rest enough closed
      obtain ⟨calls, rfl⟩ := exists_pred enough
      rw [scanOnce_literal _ _ wellFormed]
      exact scanAtom_number wellFormed closed
  | string body =>
      intro _ calls rest enough _
      obtain ⟨calls, rfl⟩ := exists_pred enough
      rw [ofChars_cons, ofChars_append, List.cons_append, List.append_assoc]
      change Returns (scanOnce _ _ (_ :: (_ ++ CodePoint.ofChar '"' :: rest))) _ _
      rw [scanOnce_string, scanString_body body]
      exact .inl ⟨trivial, rfl⟩
  | emptyArray isBlank =>
      intro _ calls rest enough _
      obtain ⟨calls, rfl⟩ := exists_pred enough
      rw [ofChars_cons, ofChars_append, List.cons_append, List.append_assoc]
      change Returns (scanOnce _ _ (_ :: (_ ++ CodePoint.ofChar ']' :: rest))) _ _
      refine .inl ⟨trivial, scanOnce_emptyArray _ _ ?_⟩
      rw [skipWhitespace_blank_char isBlank (by decide), consume?_same]
  | array inside inductionHypothesis => exact readsBack_array inside inductionHypothesis
  | emptyObject isBlank =>
      intro _ calls rest enough _
      obtain ⟨calls, rfl⟩ := exists_pred enough
      rw [ofChars_cons, ofChars_append, List.cons_append, List.append_assoc]
      change Returns (scanOnce _ _ (_ :: (_ ++ CodePoint.ofChar '}' :: rest))) _ _
      refine .inl ⟨trivial, ?_⟩
      rw [scanOnce_emptyObject]
      · rfl
      · rw [skipWhitespace_blank_char isBlank (by decide), consume?_same]
  | object inside inductionHypothesis => exact readsBack_object inside inductionHypothesis
  | lastItem isBefore isItem isAfter inductionHypothesis =>
      intro distinct calls rest enough
      simp only [List.length_append] at enough
      obtain ⟨calls, rfl⟩ := exists_pred enough
      simp only [ofChars_append, List.append_assoc]
      rw [skipWhitespace_blank_value isBefore isItem, scanItems_step]
      refine (inductionHypothesis distinct.1 calls _ (by omega)
        (closed_blank isAfter (by decide) rest)).bind (Returns.of_ok ?_)
      exact afterItem_last _ _ _ isAfter rest
  | item isBefore isItem isAfter others inductionHypothesis laterHypothesis =>
      intro distinct calls rest enough
      simp only [List.length_append, List.length_cons] at enough
      obtain ⟨calls, rfl⟩ := exists_pred enough
      simp only [ofChars_append, ofChars_cons, List.append_assoc, List.cons_append]
      rw [skipWhitespace_blank_value isBefore isItem, scanItems_step]
      refine (inductionHypothesis distinct.1 calls _ (by omega)
        (closed_blank isAfter (by decide) _)).bind ?_
      rw [afterItem_comma _ _ _ isAfter]
      exact (laterHypothesis distinct.2 calls rest (by omega)).map _
  | lastMember isBefore isName isBeforeColon isAfterColon isValue isAfter inductionHypothesis =>
      intro distinct calls rest enough
      simp only [List.length_append, List.length_cons] at enough
      obtain ⟨calls, rfl⟩ := exists_pred enough
      simp only [ofChars_append, ofChars_cons, List.append_assoc, List.cons_append]
      rw [scanMembers_name _ _ isBefore isName isBeforeColon isAfterColon,
        skipWhitespace_value isValue]
      refine (inductionHypothesis distinct.1 calls _ (by omega)
        (closed_blank isAfter (by decide) rest)).bind (Returns.of_ok ?_)
      exact afterMember_last _ _ _ _ isAfter rest
  | member isBefore isName isBeforeColon isAfterColon isValue isAfter others inductionHypothesis
      laterHypothesis =>
      intro distinct calls rest enough
      simp only [List.length_append, List.length_cons] at enough
      obtain ⟨calls, rfl⟩ := exists_pred enough
      simp only [ofChars_append, ofChars_cons, List.append_assoc, List.cons_append]
      rw [scanMembers_name _ _ isBefore isName isBeforeColon isAfterColon,
        skipWhitespace_value isValue]
      refine (inductionHypothesis distinct.1 calls _ (by omega)
        (closed_blank isAfter (by decide) _)).bind ?_
      rw [afterMember_comma _ _ _ _ isAfter]
      exact (laterHypothesis distinct.2 calls rest (by omega)).map _

/-! ## Overlong integers -/

theorem Returns.error_bind {α β : Type} {outcome : Except PyException α} {value : α}
    {next : α → Except PyException β} {short : Prop} (first : Returns outcome value short)
    (second : next value = .error .valueError) : outcome >>= next = .error .valueError := by
  rcases first with ⟨_, rfl⟩ | ⟨_, rfl⟩
  · exact second
  · rfl

/-- The numeral a text starts with. -/
theorem numeral_of_scan {source rest : List Char} {numeral : Numeral}
    (read : Numeral.scan (ofChars source) = some (numeral, ofChars rest)) :
    source = numeral.text ++ rest ∧ numeral.WellFormed := by
  obtain ⟨written, wellFormed⟩ := Numeral.scan_sound read
  rw [← Numeral.ofChars_eq_encode, ← ofChars_append] at written
  exact ⟨List.map_injective_iff.mpr (fun _ _ => CodePoint.ofChar_inj.mp) written, wellFormed⟩

end JsonDecoder

open JsonDecoder

theorem ReachesOverlong.value_head {source : List Char}
    (reaches : ReachesOverlong source .value) :
    ∃ char after, source = char :: after ∧ separator char = false := by
  cases reaches with
  | literal read overlong =>
      obtain ⟨rfl, wellFormed⟩ := numeral_of_scan read
      obtain ⟨char, after, same, solid⟩ := (Derives.number wellFormed).value_head
      exact ⟨char, after ++ _, by rw [same]; rfl, solid⟩
  | array _ => exact ⟨_, _, rfl, by decide⟩
  | object _ => exact ⟨_, _, rfl, by decide⟩

theorem ReachesOverlong.items_opens {source : List Char}
    (reaches : ReachesOverlong source .items) : Opens source := by
  cases reaches with
  | firstItem isBefore inside =>
      obtain ⟨char, after, rfl, solid⟩ := inside.value_head
      exact ⟨_, char, after, rfl, isBefore, solid⟩
  | laterItem isBefore isItem _ _ _ => exact (isItem.value_opens.append _).blank isBefore

theorem ReachesOverlong.members_opens {source : List Char}
    (reaches : ReachesOverlong source .members) :
    ∃ before after, source = before ++ '"' :: after ∧ Blank before := by
  cases reaches with
  | firstMember isBefore _ _ _ _ => exact ⟨_, _, rfl, isBefore⟩
  | laterMember isBefore _ _ _ _ _ _ _ => exact ⟨_, _, rfl, isBefore⟩

namespace JsonDecoder

/-- Reading the text at that place ends in the `ValueError` of `int`. -/
def Stops (M : FloatMath K) (source : List Char) : Place → Prop
  | .value => ∀ calls, 2 * source.length < calls →
      scanOnce (Wire.decoderHooks M parseInt) calls (ofChars source) = .error .valueError
  | .items => ∀ calls, 2 * source.length + 1 < calls →
      scanItems (Wire.decoderHooks M parseInt) calls (skipWhitespace (ofChars source)) =
        .error .valueError
  | .members => ∀ calls, 2 * source.length + 1 < calls →
      scanMembers (Wire.decoderHooks M parseInt) calls (skipWhitespace (ofChars source)) =
        .error .valueError

theorem stops_literal (M : FloatMath K) {source rest : List Char} {numeral : Numeral}
    (read : Numeral.scan (ofChars source) = some (numeral, ofChars rest))
    (overlong : Overlong numeral) : Stops M source .value := by
  intro calls enough
  obtain ⟨calls, rfl⟩ := exists_pred enough
  obtain ⟨rfl, wellFormed⟩ := numeral_of_scan read
  rw [ofChars_append, scanOnce_literal _ _ wellFormed, ← ofChars_append, scanAtom_numeral _ read]
  rcases number_returns M numeral with ⟨short, _⟩ | ⟨_, same⟩
  · exact absurd overlong short
  · rw [same]
    rfl

theorem stops_array {source : List Char} (reaches : ReachesOverlong source .items)
    (inside : Stops M source .items) : Stops M ('[' :: source) .value := by
  intro calls enough
  simp only [List.length_cons] at enough
  obtain ⟨calls, rfl⟩ := exists_pred enough
  have stopped := inside calls (by omega)
  obtain ⟨before, char, after, rfl, isBefore, solid⟩ := reaches.items_opens
  rw [ofChars_cons, scanOnce_array, stopped]
  · rfl
  · rw [ofChars_append, ofChars_cons, skipWhitespace_blank_char isBefore]
    · apply consume?_other
      rintro rfl
      exact absurd solid (by decide)
    · simp only [separator, Bool.or_eq_false_iff] at solid
      exact solid.1.1.1.1

theorem stops_object {source : List Char} (reaches : ReachesOverlong source .members)
    (inside : Stops M source .members) : Stops M ('{' :: source) .value := by
  intro calls enough
  simp only [List.length_cons] at enough
  obtain ⟨calls, rfl⟩ := exists_pred enough
  have stopped := inside calls (by omega)
  obtain ⟨before, after, rfl, isBefore⟩ := reaches.members_opens
  rw [ofChars_cons, scanOnce_object, stopped]
  · rfl
  · rw [ofChars_append, ofChars_cons, skipWhitespace_blank_char isBefore (by decide)]
    exact consume?_other (by decide) _

theorem skipWhitespace_reaches {source : List Char} (reaches : ReachesOverlong source .value) :
    skipWhitespace (ofChars source) = ofChars source := by
  obtain ⟨char, after, rfl, solid⟩ := reaches.value_head
  simp only [separator, Bool.or_eq_false_iff] at solid
  exact skipWhitespace_solid solid.1.1.1.1 _

end JsonDecoder

theorem ReachesOverlong.stops (M : FloatMath K) {source : List Char} {place : Place}
    (reaches : ReachesOverlong source place) : Stops M source place := by
  induction reaches with
  | literal read overlong => exact stops_literal M read overlong
  | array inside inductionHypothesis => exact stops_array inside inductionHypothesis
  | object inside inductionHypothesis => exact stops_object inside inductionHypothesis
  | firstItem isBefore inside inductionHypothesis =>
      intro calls enough
      simp only [List.length_append] at enough
      obtain ⟨calls, rfl⟩ := exists_pred enough
      rw [ofChars_append, skipWhitespace_blank isBefore, skipWhitespace_reaches inside,
        scanItems_step, inductionHypothesis calls (by omega)]
      rfl
  | laterItem isBefore isItem distinct isAfter inside inductionHypothesis =>
      intro calls enough
      simp only [List.length_append, List.length_cons] at enough
      obtain ⟨calls, rfl⟩ := exists_pred enough
      simp only [ofChars_append, ofChars_cons]
      rw [skipWhitespace_blank_value isBefore isItem, scanItems_step]
      refine (readsBack M isItem distinct calls _ (by omega)
        (closed_blank isAfter (by decide) _)).error_bind ?_
      rw [afterItem_comma _ _ _ isAfter, inductionHypothesis calls (by omega)]
      rfl
  | firstMember isBefore isName isBeforeColon isAfterColon inside inductionHypothesis =>
      intro calls enough
      simp only [List.length_append, List.length_cons] at enough
      obtain ⟨calls, rfl⟩ := exists_pred enough
      simp only [ofChars_append, ofChars_cons]
      rw [scanMembers_name _ _ isBefore isName isBeforeColon isAfterColon,
        skipWhitespace_reaches inside, inductionHypothesis calls (by omega)]
      rfl
  | laterMember isBefore isName isBeforeColon isAfterColon isValue distinct isAfter inside
      inductionHypothesis =>
      intro calls enough
      simp only [List.length_append, List.length_cons] at enough
      obtain ⟨calls, rfl⟩ := exists_pred enough
      simp only [ofChars_append, ofChars_cons]
      rw [scanMembers_name _ _ isBefore isName isBeforeColon isAfterColon,
        skipWhitespace_value isValue]
      refine (readsBack M isValue distinct calls _ (by omega)
        (closed_blank isAfter (by decide) _)).error_bind ?_
      rw [afterMember_comma _ _ _ _ isAfter, inductionHypothesis calls (by omega)]
      rfl

end ValeraControlTower
