import ValeraControlTower.Library.Json

/-!
# Objects written without blanks

Members stand one after the other, joined by commas.  What is written so is derived by
the grammar as soon as every key and every value is.
-/

namespace Json

open Unicode

/-- A member: what stands between the quotes of its key, and its value. -/
def memberText (key value : List Char) : List Char := '"' :: (key ++ '"' :: ':' :: value)

/-- An object. -/
def objectText (members : List (List Char)) : List Char :=
  '{' :: (List.intercalate [','] members ++ ['}'])

/-- The text of a member, and what it denotes. -/
inductive WritesMember : List Char → List CodeUnit × Document → Prop where
  | member {key value : List Char} {name : List CodeUnit} {tree : Document}
      (isName : StringBody key name) (isValue : Derives value (.value tree)) :
      WritesMember (memberText key value) (name, tree)

theorem intercalate_cons {text : List Char} {texts : List (List Char)} (more : texts ≠ []) :
    List.intercalate [','] (text :: texts) = text ++ ',' :: List.intercalate [','] texts := by
  cases texts with
  | nil => exact absurd rfl more
  | cons second texts => rfl

/-- The inside of an object. -/
theorem derives_members {texts : List (List Char)} {members : List (List CodeUnit × Document)}
    (written : List.Forall₂ WritesMember texts members) (present : texts ≠ []) :
    Derives (List.intercalate [','] texts) (.members members) := by
  induction written with
  | nil => exact absurd rfl present
  | @cons text member texts members isMember others inductionHypothesis =>
      obtain @⟨key, value, name, tree, isName, isValue⟩ := isMember
      cases others with
      | nil =>
          have last := Derives.lastMember Blank.nil isName Blank.nil Blank.nil isValue Blank.nil
          convert last using 1
          simp [memberText]
      | cons isSecond others =>
          rw [intercalate_cons (List.cons_ne_nil _ _)]
          have first := Derives.member Blank.nil isName Blank.nil Blank.nil isValue Blank.nil
            (inductionHypothesis (List.cons_ne_nil _ _))
          convert first using 1
          simp [memberText]

/-- What is written member by member denotes the object of these members. -/
theorem derives_objectText {texts : List (List Char)} {members : List (List CodeUnit × Document)}
    (written : List.Forall₂ WritesMember texts members) :
    Derives (objectText texts) (.value (.obj members)) := by
  cases texts with
  | nil =>
      cases written
      exact .emptyObject Blank.nil
  | cons text texts => exact .object (derives_members written (List.cons_ne_nil _ _))

/-- A text of characters that stand for themselves. -/
def Plain (text : List Char) : Prop :=
  ∀ char ∈ text, 0x20 ≤ char.toNat ∧ char ≠ '"' ∧ char ≠ '\\'

instance (text : List Char) : Decidable (Plain text) := List.decidableBAll _ _

theorem stringBody_plain {text : List Char} (plain : Plain text) :
    StringBody text (utf16 text) := by
  induction text with
  | nil => exact .nil
  | cons char text inductionHypothesis =>
      obtain ⟨printable, notQuote, notBackslash⟩ := plain char (by simp)
      exact .unescaped printable notQuote notBackslash
        (inductionHypothesis fun other membership =>
          plain other (List.mem_cons_of_mem _ membership))

theorem isText_of_derives {text : List Char} {tree : Document}
    (derived : Derives text (.value tree)) :
    IsText text tree :=
  ⟨[], text, [], by simp, Blank.nil, derived, Blank.nil⟩

end Json
