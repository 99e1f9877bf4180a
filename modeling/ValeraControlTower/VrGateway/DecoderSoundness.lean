import ValeraControlTower.VrGateway.DecoderGrammar

/-!
# What the standard decoder accepts

With the hooks of `_parse_json`, a value the decoder returns is derived by the grammar
from the text it consumed, with distinct keys in every object.  What it raises is
caught by `_parse_json`, or is the `ValueError` of an integer literal the text reaches.
-/

namespace ValeraControlTower

open Unicode Json

variable {K : Type} {M : FloatMath K}

namespace JsonDecoder

/-- What reading the inside of an object, behind the opening brace, returns. -/
def ReadsMembers (M : FloatMath K) (source : List Char) (pairs : PyPairs K) (after : List Char) :
    Prop :=
  ∃ text members, source = text ++ '}' :: after ∧ Derives text (.members members) ∧
    Tree.DistinctKeysMembers members ∧ Tree.NumbersMembers (¬Overlong ·) members ∧
    pairs = pyMembers M members

/-- What reading the inside of an array, behind the opening bracket, returns. -/
def ReadsItems (M : FloatMath K) (source : List Char) (values : List (PyJson K))
    (after : List Char) : Prop :=
  ∃ text items, source = text ++ ']' :: after ∧ Derives text (.items items) ∧
    Tree.DistinctKeysItems items ∧ Tree.NumbersItems (¬Overlong ·) items ∧
    values = pyItems M items

/-- The three scanners, with the hooks of `_parse_json` and a bound on the calls. -/
structure ScannersExplain (M : FloatMath K) (calls : ℕ) : Prop where
  value : ∀ source, Explains (ReadsValue M source) (Raises source .value)
    (scanOnce (Wire.decoderHooks M parseInt) calls (ofChars source))
  members : ∀ source, Explains (ReadsMembers M source) (Raises source .members)
    (scanMembers (Wire.decoderHooks M parseInt) calls (ofChars source))
  items : ∀ source, Explains (ReadsItems M source) (Raises source .items)
    (scanItems (Wire.decoderHooks M parseInt) calls (ofChars source))

theorem Refusal.raises {exception : PyException} (refusal : Refusal exception)
    (source : List Char) (place : Place) : Raises source place exception :=
  .inl refusal

section Explained

variable {calls : ℕ}

theorem scanOnce_object_explains (inside : ScannersExplain M calls) (source : List Char) :
    Explains (ReadsValue M ('{' :: source)) (Raises ('{' :: source) .value)
      (scanOnce (Wire.decoderHooks M parseInt) (calls + 1) (ofChars ('{' :: source))) := by
  obtain ⟨blank, text, rfl, isBlank, skipped⟩ := skipWhitespace_sound source
  rw [ofChars_cons]
  cases ends : consume? '}' (skipWhitespace (ofChars (blank ++ text))) with
  | some rest =>
      rw [scanOnce_emptyObject _ _ ends]
      rw [skipped] at ends
      obtain ⟨after, rfl, rfl⟩ := consume?_sound ends
      exact ⟨after, rfl, '{' :: (blank ++ ['}']), .obj [], by simp, .emptyObject isBlank,
        ⟨List.nodup_nil, trivial⟩, trivial, rfl⟩
  | none =>
      rw [scanOnce_object _ _ ends, skipped]
      refine (inside.members text).bind
        (Raises.inside fun reaches => .object (reaches.blank_members isBlank)) ?_
      rintro pairs after ⟨inner, members, rfl, derived, distinct, short, rfl⟩
      change Explains _ _ ((Wire.rejectDuplicateKeys (pyMembers M members)).map _)
      rw [rejectDuplicateKeys_eq]
      by_cases nodup : ((pyMembers M members).map Prod.fst).Nodup
      · rw [if_pos nodup]
        exact ⟨after, rfl, '{' :: ((blank ++ inner) ++ ['}']), .obj members, by simp,
          .object (derived.blank_members isBlank), ⟨(nodup_pyMembers M members).mp nodup, distinct⟩,
          short, rfl⟩
      · rw [if_neg nodup]
        exact .inl (.wireError _)

theorem scanOnce_array_explains (inside : ScannersExplain M calls) (source : List Char) :
    Explains (ReadsValue M ('[' :: source)) (Raises ('[' :: source) .value)
      (scanOnce (Wire.decoderHooks M parseInt) (calls + 1) (ofChars ('[' :: source))) := by
  obtain ⟨blank, text, rfl, isBlank, skipped⟩ := skipWhitespace_sound source
  rw [ofChars_cons]
  cases ends : consume? ']' (skipWhitespace (ofChars (blank ++ text))) with
  | some rest =>
      rw [scanOnce_emptyArray _ _ ends]
      rw [skipped] at ends
      obtain ⟨after, rfl, rfl⟩ := consume?_sound ends
      exact ⟨after, rfl, '[' :: (blank ++ [']']), .arr [], by simp, .emptyArray isBlank,
        trivial, trivial, rfl⟩
  | none =>
      rw [scanOnce_array _ _ ends, skipped]
      refine (inside.items text).bind
        (Raises.inside fun reaches => .array (reaches.blank_items isBlank)) ?_
      rintro values after ⟨inner, items, rfl, derived, distinct, short, rfl⟩
      exact ⟨after, rfl, '[' :: ((blank ++ inner) ++ [']']), .arr items, by simp,
        .array (derived.blank_items isBlank), distinct, short, rfl⟩

theorem scanOnce_explains (inside : ScannersExplain M calls) (source : List Char) :
    Explains (ReadsValue M source) (Raises source .value)
      (scanOnce (Wire.decoderHooks M parseInt) (calls + 1) (ofChars source)) := by
  cases isString : consume? '"' (ofChars source) with
  | some rest =>
      obtain ⟨after, rfl, rfl⟩ := consume?_sound isString
      rw [ofChars_cons, scanOnce_string]
      refine (scanString_explains after).bind
        (fun exception refusal => refusal.raises _ _) ?_
      rintro units after ⟨text, rfl, derived⟩
      exact ⟨after, rfl, '"' :: (text ++ ['"']), .str units, by simp, .string derived,
        trivial, trivial, rfl⟩
  | none =>
      cases isObject : consume? '{' (ofChars source) with
      | some rest =>
          obtain ⟨after, rfl, rfl⟩ := consume?_sound isObject
          exact scanOnce_object_explains inside after
      | none =>
          cases isArray : consume? '[' (ofChars source) with
          | some rest =>
              obtain ⟨after, rfl, rfl⟩ := consume?_sound isArray
              exact scanOnce_array_explains inside after
          | none =>
              rw [scanOnce_atom _ _ isString isObject isArray]
              exact scanAtom_explains M source

theorem scanMembers_explains (inside : ScannersExplain M calls) (source : List Char) :
    Explains (ReadsMembers M source) (Raises source .members)
      (scanMembers (Wire.decoderHooks M parseInt) (calls + 1) (ofChars source)) := by
  cases isString : consume? '"' (ofChars source) with
  | none =>
      rw [scanMembers, isString]
      exact .inl (.jsonDecodeError _)
  | some rest =>
      obtain ⟨after, rfl, rfl⟩ := consume?_sound isString
      rw [ofChars_cons, scanMembers_step]
      apply (scanString_explains after).bind (fun exception refusal => refusal.raises _ _)
      rintro name after ⟨key, rfl, isName⟩
      obtain ⟨beforeColon, text, rfl, isBeforeColon, skipped⟩ := skipWhitespace_sound after
      unfold afterName
      dsimp only
      rw [skipped]
      cases colon : consume? ':' (ofChars text) with
      | none => exact .inl (.jsonDecodeError _)
      | some rest =>
          obtain ⟨after, rfl, rfl⟩ := consume?_sound colon
          obtain ⟨afterColon, text, rfl, isAfterColon, skipped⟩ := skipWhitespace_sound after
          dsimp only
          rw [skipped]
          refine (inside.value text).bind
            (Raises.inside fun reaches =>
              .firstMember Blank.nil isName isBeforeColon isAfterColon reaches) ?_
          rintro document after ⟨text, value, rfl, isValue, distinct, short, rfl⟩
          obtain ⟨blank, rest, rfl, isAfter, skipped⟩ := skipWhitespace_sound after
          unfold afterMember
          dsimp only
          rw [skipped]
          cases ends : consume? '}' (ofChars rest) with
          | some rest =>
              obtain ⟨after, rfl, rfl⟩ := consume?_sound ends
              refine ⟨after, rfl, _, [(name, value)], ?_, .lastMember Blank.nil isName
                isBeforeColon isAfterColon isValue isAfter, ⟨distinct, trivial⟩,
                ⟨short, trivial⟩, rfl⟩
              simp
          | none =>
              cases comma : consume? ',' (ofChars rest) with
              | none => exact .inl (.jsonDecodeError _)
              | some rest =>
                  obtain ⟨after, rfl, rfl⟩ := consume?_sound comma
                  obtain ⟨gap, text', rfl, isGap, skipped⟩ := skipWhitespace_sound after
                  dsimp only
                  rw [skipped]
                  refine (inside.members text').bind
                    (Raises.inside fun reaches => .laterMember Blank.nil isName isBeforeColon
                      isAfterColon isValue distinct isAfter (reaches.blank_members isGap)) ?_
                  rintro pairs after ⟨others, members, rfl, derived, distinct', short', rfl⟩
                  refine ⟨after, rfl, _, (name, value) :: members, ?_, .member Blank.nil isName
                    isBeforeColon isAfterColon isValue isAfter (derived.blank_members isGap),
                    ⟨distinct, distinct'⟩, ⟨short, short'⟩, rfl⟩
                  simp

theorem scanItems_explains (inside : ScannersExplain M calls) (source : List Char) :
    Explains (ReadsItems M source) (Raises source .items)
      (scanItems (Wire.decoderHooks M parseInt) (calls + 1) (ofChars source)) := by
  rw [scanItems_step]
  refine (inside.value source).bind
    (Raises.inside fun reaches => .firstItem Blank.nil reaches) ?_
  rintro document after ⟨text, item, rfl, isItem, distinct, short, rfl⟩
  obtain ⟨blank, rest, rfl, isAfter, skipped⟩ := skipWhitespace_sound after
  unfold afterItem
  dsimp only
  rw [skipped]
  cases ends : consume? ']' (ofChars rest) with
  | some rest =>
      obtain ⟨after, rfl, rfl⟩ := consume?_sound ends
      refine ⟨after, rfl, _, [item], ?_, .lastItem Blank.nil isItem isAfter,
        ⟨distinct, trivial⟩, ⟨short, trivial⟩, rfl⟩
      simp
  | none =>
      cases comma : consume? ',' (ofChars rest) with
      | none => exact .inl (.jsonDecodeError _)
      | some rest =>
          obtain ⟨after, rfl, rfl⟩ := consume?_sound comma
          obtain ⟨gap, text', rfl, isGap, skipped⟩ := skipWhitespace_sound after
          dsimp only
          rw [skipped]
          refine (inside.items text').bind
            (Raises.inside fun reaches =>
              .laterItem Blank.nil isItem distinct isAfter (reaches.blank_items isGap)) ?_
          rintro values after ⟨others, items, rfl, derived, distinct', short', rfl⟩
          refine ⟨after, rfl, _, item :: items, ?_, .item Blank.nil isItem isAfter
            (derived.blank_items isGap), ⟨distinct, distinct'⟩, ⟨short, short'⟩, rfl⟩
          simp

end Explained

/-- The scanners return what the grammar says, or raise what the text gives cause for. -/
theorem scannersExplain (M : FloatMath K) (calls : ℕ) : ScannersExplain M calls := by
  induction calls with
  | zero =>
      refine ⟨fun source => ?_, fun source => ?_, fun source => ?_⟩
      · rw [scanOnce]
        exact .inl .recursionError
      · rw [scanMembers]
        exact .inl .recursionError
      · rw [scanItems]
        exact .inl .recursionError
  | succ calls inductionHypothesis =>
      exact ⟨scanOnce_explains inductionHypothesis, scanMembers_explains inductionHypothesis,
        scanItems_explains inductionHypothesis⟩

end JsonDecoder

end ValeraControlTower
