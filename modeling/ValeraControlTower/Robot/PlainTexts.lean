import ValeraControlTower.Library.Intercalate
import ValeraControlTower.Robot.EventDict

/-!
# Texts without surrogates

The fixed texts of the sources, their numbers and their times are texts of characters.
-/

namespace ValeraControlTower

open Unicode LexicalPath

namespace Robot

/-- A text of characters. -/
def PlainText (text : PyStr) : Prop := ∃ chars, text = ofChars chars

@[simp]
theorem PlainText.ofChars (chars : List Char) : PlainText (Unicode.ofChars chars) := ⟨chars, rfl⟩

@[simp]
theorem PlainText.py (text : String) : PlainText (ValeraControlTower.py text) := ⟨text.toList, rfl⟩

@[simp]
theorem PlainText.nil : PlainText [] := ⟨[], rfl⟩

@[simp]
theorem plainText_append {first second : PyStr} :
    PlainText (first ++ second) ↔ PlainText first ∧ PlainText second := by
  constructor
  · intro ⟨chars, isText⟩
    obtain ⟨before, after, rfl, isFirst, isSecond⟩ := List.map_eq_append_iff.mp isText.symm
    exact ⟨⟨before, isFirst.symm⟩, after, isSecond.symm⟩
  · intro ⟨⟨chars, isFirst⟩, others, isSecond⟩
    rw [isFirst, isSecond]
    exact ⟨chars ++ others, (ofChars_append chars others).symm⟩

@[simp]
theorem plainText_ite {condition : Prop} [Decidable condition] {first second : PyStr} :
    PlainText (if condition then first else second) ↔
      (condition → PlainText first) ∧ (¬condition → PlainText second) := by
  by_cases holds : condition <;> simp [holds]

/-! ## Texts of an event -/

@[simp]
theorem EventType.plain_value (eventType : EventType) : PlainText eventType.value := by
  cases eventType <;> exact .py _

@[simp]
theorem Zone.plain_value (zone : Zone) : PlainText zone.value := by
  cases zone <;> exact .py _

@[simp]
theorem ExecutionMode.plain_value (mode : ExecutionMode) : PlainText mode.value := by
  cases mode <;> exact .py _

@[simp]
theorem FailureCode.plain_value (code : FailureCode) : PlainText code.value := by
  cases code <;> exact .py _

theorem plain_paddedNumber {number : ℤ} {text : PyStr} (isText : paddedNumber number = .ok text) :
    PlainText text := by
  unfold paddedNumber at isText
  dsimp only at isText
  split at isText
  · cases isText
  · cases isText
    exact .ofChars _

@[simp]
theorem plain_zeroPadded (width number : ℕ) : PlainText (zeroPadded width number) := .ofChars _

@[simp]
theorem plain_formatOffset (offset : ℤ) : PlainText (formatOffset offset) := by
  simp [formatOffset]

@[simp]
theorem DateTime.plain_isoformat (value : DateTime) : PlainText value.isoformat := by
  unfold isoformat
  cases value.tzinfo with
  | none => simp
  | some zone => simp

/-! ## Paths -/

theorem plainText_iff {text : PyStr} : PlainText text ↔
    ∀ point ∈ text, point.isSurrogate = false := by
  constructor
  · intro ⟨chars, isText⟩ point inside
    rw [isText] at inside
    obtain ⟨char, _, rfl⟩ := List.mem_map.mp inside
    exact CodePoint.ofChar_not_surrogate char
  · intro proper
    apply exists_ofChars
    simpa using proper

theorem plain_join {path other : PyStr} (plain : PlainText path) (plainOther : PlainText other) :
    PlainText (join posix path other) := by
  have separator : PlainText [posix.separator] := .ofChars ['/']
  have behind : PlainText ([posix.separator] ++ other) :=
    plainText_append.mpr ⟨separator, plainOther⟩
  unfold join
  rw [plainText_ite, plainText_ite, plainText_append, plainText_append]
  exact ⟨fun _ => plainOther, fun _ => ⟨fun _ => ⟨plain, plainOther⟩, fun _ => ⟨plain, behind⟩⟩⟩

/-- A path of plain text is written as plain text. -/
theorem plain_str_parse {path : PyStr} (plain : PlainText path) :
    PlainText ((parse posix path).str posix) := by
  have separator : PlainText [posix.separator] := .ofChars ['/']
  have root : PlainText (splitRoot posix path) := by
    rcases @splitRoot_cases _ _ posix path with isRoot | isRoot | isRoot
    · rw [isRoot]
      exact .nil
    · rw [isRoot]
      exact separator
    · rw [isRoot]
      exact .ofChars ['/', '/']
  unfold Path.str
  rw [plainText_ite, plainText_append]
  refine ⟨fun _ => .ofChars ['.'], fun _ => ⟨root, ?_⟩⟩
  rw [plainText_iff] at plain separator ⊢
  intro point inside
  rcases Intercalate.mem_cases inside with isSeparator | ⟨segment, isSegment, inSegment⟩
  · exact separator point isSeparator
  · have inSplit := (List.mem_filter.mp isSegment).1
    have isPart : segment <:+: [posix.separator].intercalate _ := Intercalate.part_infix inSplit
    rw [List.intercalate_splitOn] at isPart
    exact plain point (isPart.subset inSegment)

theorem plain_evidencePath {taskId evidenceId variant : PyStr} (task : PlainText taskId)
    (evidence : PlainText evidenceId) (plain : PlainText variant) :
    PlainText (evidencePath taskId evidenceId variant) := by
  have file : PlainText (evidenceFile evidenceId variant) := by simp [evidenceFile, evidence, plain]
  exact plain_str_parse (plain_join (plain_join (.py _) task) file)

end Robot

end ValeraControlTower
