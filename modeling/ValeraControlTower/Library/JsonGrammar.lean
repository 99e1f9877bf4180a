import ValeraControlTower.Library.Json

/-!
# The grammar with numbers of a program's own

`DerivesBy` is the grammar of RFC 8259 but for its numbers: what a stretch of text denotes
as a number is a parameter, so that a reader which takes more or fewer numbers than the
standard can be compared with it.
-/

namespace Json

open Unicode

section Grammar

variable {Num : Type}

/-- A tree with numbers of this type, or the inside of a nonempty array or object. -/
inductive PartOf (Num : Type) where
  | value (tree : Tree (List CodeUnit) Num)
  | items (items : List (Tree (List CodeUnit) Num))
  | members (members : List (List CodeUnit × Tree (List CodeUnit) Num))

/-- The grammar, where `number` says which texts are numbers and what they denote. -/
inductive DerivesBy (number : List Char → Num → Prop) : List Char → PartOf Num → Prop
  | null : DerivesBy number ['n', 'u', 'l', 'l'] (.value .null)
  | true : DerivesBy number ['t', 'r', 'u', 'e'] (.value (.bool true))
  | false : DerivesBy number ['f', 'a', 'l', 's', 'e'] (.value (.bool false))
  | number {text : List Char} {denoted : Num} (isNumber : number text denoted) :
      DerivesBy number text (.value (.num denoted))
  | string {text : List Char} {units : List CodeUnit} (body : StringBody text units) :
      DerivesBy number ('"' :: (text ++ ['"'])) (.value (.str units))
  | emptyArray {blank : List Char} (isBlank : Blank blank) :
      DerivesBy number ('[' :: (blank ++ [']'])) (.value (.arr []))
  | array {text : List Char} {items : List (Tree (List CodeUnit) Num)}
      (inside : DerivesBy number text (.items items)) :
      DerivesBy number ('[' :: (text ++ [']'])) (.value (.arr items))
  | emptyObject {blank : List Char} (isBlank : Blank blank) :
      DerivesBy number ('{' :: (blank ++ ['}'])) (.value (.obj []))
  | object {text : List Char} {members : List (List CodeUnit × Tree (List CodeUnit) Num)}
      (inside : DerivesBy number text (.members members)) :
      DerivesBy number ('{' :: (text ++ ['}'])) (.value (.obj members))
  | lastItem {before text after : List Char} {item : Tree (List CodeUnit) Num}
      (isBefore : Blank before) (isItem : DerivesBy number text (.value item))
      (isAfter : Blank after) :
      DerivesBy number (before ++ (text ++ after)) (.items [item])
  | item {before text after rest : List Char} {item : Tree (List CodeUnit) Num}
      {items : List (Tree (List CodeUnit) Num)}
      (isBefore : Blank before) (isItem : DerivesBy number text (.value item))
      (isAfter : Blank after) (others : DerivesBy number rest (.items items)) :
      DerivesBy number (before ++ (text ++ (after ++ ',' :: rest))) (.items (item :: items))
  | lastMember {before key beforeColon afterColon text after : List Char}
      {name : List CodeUnit} {value : Tree (List CodeUnit) Num}
      (isBefore : Blank before) (isName : StringBody key name)
      (isBeforeColon : Blank beforeColon) (isAfterColon : Blank afterColon)
      (isValue : DerivesBy number text (.value value)) (isAfter : Blank after) :
      DerivesBy number (before ++ '"' :: (key ++ '"' ::
        (beforeColon ++ ':' :: (afterColon ++ (text ++ after))))) (.members [(name, value)])
  | member {before key beforeColon afterColon text after rest : List Char}
      {name : List CodeUnit} {value : Tree (List CodeUnit) Num}
      {members : List (List CodeUnit × Tree (List CodeUnit) Num)}
      (isBefore : Blank before) (isName : StringBody key name)
      (isBeforeColon : Blank beforeColon) (isAfterColon : Blank afterColon)
      (isValue : DerivesBy number text (.value value)) (isAfter : Blank after)
      (others : DerivesBy number rest (.members members)) :
      DerivesBy number (before ++ '"' :: (key ++ '"' ::
        (beforeColon ++ ':' :: (afterColon ++ (text ++ (after ++ ',' :: rest))))))
        (.members ((name, value) :: members))

/-- One value with blanks around it. -/
def IsTextBy (number : List Char → Num → Prop) (source : List Char)
    (tree : Tree (List CodeUnit) Num) : Prop :=
  ∃ before text after, source = before ++ (text ++ after) ∧ Blank before ∧
    DerivesBy number text (.value tree) ∧ Blank after

/-- What every number of a part satisfies. -/
def PartOf.Numbers (holds : Num → Prop) : PartOf Num → Prop
  | value tree => tree.Numbers holds
  | items values => Tree.NumbersItems holds values
  | members pairs => Tree.NumbersMembers holds pairs

end Grammar

/-! ## Beginnings -/

section Opens

variable {Num : Type} {number : List Char → Num → Prop}

/-- No number starts with a separator. -/
def Solid (number : List Char → Num → Prop) : Prop :=
  ∀ text denoted, number text denoted → ∃ char after, text = char :: after ∧ separator char = false

theorem DerivesBy.value_opens (solid : Solid number) {text : List Char}
    {tree : Tree (List CodeUnit) Num} (derived : DerivesBy number text (.value tree)) :
    Opens text := by
  have head : ∃ char after, text = char :: after ∧ separator char = Bool.false := by
    cases derived with
    | null | true | false | string | emptyArray | array | emptyObject | object =>
        exact ⟨_, _, rfl, by decide⟩
    | number isNumber => exact solid _ _ isNumber
  obtain ⟨char, after, rfl, isSolid⟩ := head
  exact ⟨[], char, after, rfl, Blank.nil, isSolid⟩

theorem DerivesBy.items_opens (solid : Solid number) {text : List Char}
    {items : List (Tree (List CodeUnit) Num)} (derived : DerivesBy number text (.items items)) :
    Opens text := by
  cases derived with
  | lastItem isBefore isItem _ => exact ((isItem.value_opens solid).append _).blank isBefore
  | item isBefore isItem _ _ => exact ((isItem.value_opens solid).append _).blank isBefore

theorem DerivesBy.members_opens {text : List Char}
    {members : List (List CodeUnit × Tree (List CodeUnit) Num)}
    (derived : DerivesBy number text (.members members)) :
    ∃ before after, text = before ++ '"' :: after ∧ Blank before := by
  cases derived with
  | lastMember isBefore _ _ _ _ _ => exact ⟨_, _, rfl, isBefore⟩
  | member isBefore _ _ _ _ _ _ => exact ⟨_, _, rfl, isBefore⟩

end Opens

/-! ## The grammar of the standard -/

section Standard

variable {Num : Type} {number : List Char → Num → Prop} (onNum : Numeral → Num)

/-- A part with its literals replaced by what they denote. -/
def Part.mapNumbers : Part → PartOf Num
  | value tree => .value (tree.map id onNum)
  | items values => .items (Tree.mapItems id onNum values)
  | members pairs => .members (Tree.mapMembers id onNum pairs)

/-- A text of the standard, where its literals are numbers. -/
theorem Derives.derivesBy (literals : ∀ numeral : Numeral, numeral.WellFormed →
      number numeral.text (onNum numeral)) {text : List Char} {part : Part}
    (derived : Derives text part) : DerivesBy number text (part.mapNumbers onNum) := by
  induction derived with
  | null => exact .null
  | true => exact .true
  | false => exact .false
  | number wellFormed => exact .number (literals _ wellFormed)
  | string body => exact .string body
  | emptyArray isBlank => exact .emptyArray isBlank
  | array _ inside => exact .array inside
  | emptyObject isBlank => exact .emptyObject isBlank
  | object _ inside => exact .object inside
  | lastItem isBefore _ isAfter isItem => exact .lastItem isBefore isItem isAfter
  | item isBefore _ isAfter _ isItem others => exact .item isBefore isItem isAfter others
  | lastMember isBefore isName isBeforeColon isAfterColon _ isAfter isValue =>
      exact .lastMember isBefore isName isBeforeColon isAfterColon isValue isAfter
  | member isBefore isName isBeforeColon isAfterColon _ isAfter _ isValue others =>
      exact .member isBefore isName isBeforeColon isAfterColon isValue isAfter others

theorem IsText.isTextBy (literals : ∀ numeral : Numeral, numeral.WellFormed →
      number numeral.text (onNum numeral)) {source : List Char} {tree : Document}
    (isText : IsText source tree) : IsTextBy number source (tree.map id onNum) := by
  obtain ⟨before, text, after, same, isBefore, derived, isAfter⟩ := isText
  exact ⟨before, text, after, same, isBefore, derived.derivesBy onNum literals, isAfter⟩

variable {onNum} {holds : Num → Prop}

/-- A text all of whose numbers are literals is one of the standard. -/
theorem DerivesBy.exists_derives
    (literal : ∀ text denoted, number text denoted → holds denoted →
      ∃ numeral : Numeral, numeral.WellFormed ∧ numeral.text = text ∧ onNum numeral = denoted)
    {text : List Char} {part : PartOf Num} (derived : DerivesBy number text part)
    (numbers : part.Numbers holds) :
    ∃ strict : Part, Derives text strict ∧ strict.mapNumbers onNum = part := by
  induction derived with
  | null => exact ⟨.value .null, .null, rfl⟩
  | true => exact ⟨.value (.bool Bool.true), .true, rfl⟩
  | false => exact ⟨.value (.bool Bool.false), .false, rfl⟩
  | number isNumber =>
      obtain ⟨numeral, wellFormed, rfl, rfl⟩ := literal _ _ isNumber numbers
      exact ⟨.value (.num numeral), .number wellFormed, rfl⟩
  | string body => exact ⟨.value (.str _), .string body, rfl⟩
  | emptyArray isBlank => exact ⟨.value (.arr []), .emptyArray isBlank, rfl⟩
  | emptyObject isBlank => exact ⟨.value (.obj []), .emptyObject isBlank, rfl⟩
  | array _ inductionHypothesis =>
      obtain ⟨strict, inside, same⟩ := inductionHypothesis numbers
      cases strict with
      | items items =>
          cases same
          exact ⟨.value (.arr items), .array inside, rfl⟩
      | value _ | members _ => cases same
  | object _ inductionHypothesis =>
      obtain ⟨strict, inside, same⟩ := inductionHypothesis numbers
      cases strict with
      | members members =>
          cases same
          exact ⟨.value (.obj members), .object inside, rfl⟩
      | value _ | items _ => cases same
  | lastItem isBefore _ isAfter inductionHypothesis =>
      obtain ⟨strict, isItem, same⟩ := inductionHypothesis numbers.1
      cases strict with
      | value item =>
          cases same
          exact ⟨.items [item], .lastItem isBefore isItem isAfter, rfl⟩
      | items _ | members _ => cases same
  | item isBefore _ isAfter _ inductionHypothesis laterHypothesis =>
      obtain ⟨strict, isItem, same⟩ := inductionHypothesis numbers.1
      obtain ⟨later, others, sameLater⟩ := laterHypothesis numbers.2
      cases strict with
      | value item =>
          cases later with
          | items items =>
              cases same
              cases sameLater
              exact ⟨.items (item :: items), .item isBefore isItem isAfter others, rfl⟩
          | value _ | members _ => cases sameLater
      | items _ | members _ => cases same
  | @lastMember _ _ _ _ _ _ name _ isBefore isName isBeforeColon isAfterColon _ isAfter
      inductionHypothesis =>
      obtain ⟨strict, isValue, same⟩ := inductionHypothesis numbers.1
      cases strict with
      | value value =>
          cases same
          exact ⟨.members [(name, value)],
            .lastMember isBefore isName isBeforeColon isAfterColon isValue isAfter, rfl⟩
      | items _ | members _ => cases same
  | @member _ _ _ _ _ _ _ name _ _ isBefore isName isBeforeColon isAfterColon _ isAfter _
      inductionHypothesis laterHypothesis =>
      obtain ⟨strict, isValue, same⟩ := inductionHypothesis numbers.1
      obtain ⟨later, others, sameLater⟩ := laterHypothesis numbers.2
      cases strict with
      | value value =>
          cases later with
          | members members =>
              cases same
              cases sameLater
              exact ⟨.members ((name, value) :: members),
                .member isBefore isName isBeforeColon isAfterColon isValue isAfter others, rfl⟩
          | value _ | items _ => cases sameLater
      | items _ | members _ => cases same

theorem IsTextBy.exists_isText
    (literal : ∀ text denoted, number text denoted → holds denoted →
      ∃ numeral : Numeral, numeral.WellFormed ∧ numeral.text = text ∧ onNum numeral = denoted)
    {source : List Char} {tree : Tree (List CodeUnit) Num} (isText : IsTextBy number source tree)
    (numbers : tree.Numbers holds) :
    ∃ strict : Document, IsText source strict ∧ strict.map id onNum = tree := by
  obtain ⟨before, text, after, same, isBefore, derived, isAfter⟩ := isText
  obtain ⟨part, strictly, mapped⟩ := derived.exists_derives literal numbers
  cases part with
  | value strict =>
      cases mapped
      exact ⟨strict, ⟨before, text, after, same, isBefore, strictly, isAfter⟩, rfl⟩
  | items _ | members _ => cases mapped

end Standard

end Json
