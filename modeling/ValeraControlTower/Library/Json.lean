import ValeraControlTower.Library.Numeral

/-!
# JSON trees and their texts

A tree is generic in its strings and numbers, so that a text, a decoded document and a
document held by either program are trees of different types.  `Derives` is the
grammar of RFC 8259: strings denote UTF-16 code units, numbers stay literals.
-/

namespace Json

open Unicode

/-- A JSON value with strings in `Str` and numbers in `Num`. -/
inductive Tree (Str Num : Type) where
  | null
  | bool (value : Bool)
  | num (number : Num)
  | str (text : Str)
  | arr (items : List (Tree Str Num))
  | obj (members : List (Str × Tree Str Num))

namespace Tree

variable {Str Num OtherStr OtherNum : Type}

mutual

/-- The tree with its strings, keys included, and its numbers replaced. -/
def map (onStr : Str → OtherStr) (onNum : Num → OtherNum) : Tree Str Num → Tree OtherStr OtherNum
  | null => null
  | bool value => bool value
  | num number => num (onNum number)
  | str text => str (onStr text)
  | arr items => arr (mapItems onStr onNum items)
  | obj members => obj (mapMembers onStr onNum members)

def mapItems (onStr : Str → OtherStr) (onNum : Num → OtherNum) :
    List (Tree Str Num) → List (Tree OtherStr OtherNum)
  | [] => []
  | item :: items => map onStr onNum item :: mapItems onStr onNum items

def mapMembers (onStr : Str → OtherStr) (onNum : Num → OtherNum) :
    List (Str × Tree Str Num) → List (OtherStr × Tree OtherStr OtherNum)
  | [] => []
  | (key, value) :: members =>
      (onStr key, map onStr onNum value) :: mapMembers onStr onNum members

end

mutual

/-- The number of values on the longest path from the root to a leaf. -/
def depth : Tree Str Num → ℕ
  | null | bool _ | num _ | str _ => 1
  | arr items => 1 + depthItems items
  | obj members => 1 + depthMembers members

def depthItems : List (Tree Str Num) → ℕ
  | [] => 0
  | item :: items => max (depth item) (depthItems items)

def depthMembers : List (Str × Tree Str Num) → ℕ
  | [] => 0
  | (_, value) :: members => max (depth value) (depthMembers members)

end

theorem depth_pos (tree : Tree Str Num) : 0 < tree.depth := by
  cases tree with
  | null | bool _ | num _ | str _ => exact Nat.one_pos
  | arr _ | obj _ => exact Nat.add_pos_left Nat.one_pos _

mutual

/-- The number of containers on the longest path from the root. -/
def nesting : Tree Str Num → ℕ
  | null | bool _ | num _ | str _ => 0
  | arr items => 1 + nestingItems items
  | obj members => 1 + nestingMembers members

def nestingItems : List (Tree Str Num) → ℕ
  | [] => 0
  | item :: items => max (nesting item) (nestingItems items)

def nestingMembers : List (Str × Tree Str Num) → ℕ
  | [] => 0
  | (_, value) :: members => max (nesting value) (nestingMembers members)

end

mutual

/-- No object has two members of one name. -/
def DistinctKeys : Tree Str Num → Prop
  | null | bool _ | num _ | str _ => True
  | arr items => DistinctKeysItems items
  | obj members => (members.map Prod.fst).Nodup ∧ DistinctKeysMembers members

def DistinctKeysItems : List (Tree Str Num) → Prop
  | [] => True
  | item :: items => DistinctKeys item ∧ DistinctKeysItems items

def DistinctKeysMembers : List (Str × Tree Str Num) → Prop
  | [] => True
  | (_, value) :: members => DistinctKeys value ∧ DistinctKeysMembers members

end

mutual

/-- What every number of the tree satisfies. -/
def Numbers (holds : Num → Prop) : Tree Str Num → Prop
  | null | bool _ | str _ => True
  | num number => holds number
  | arr items => NumbersItems holds items
  | obj members => NumbersMembers holds members

def NumbersItems (holds : Num → Prop) : List (Tree Str Num) → Prop
  | [] => True
  | item :: items => Numbers holds item ∧ NumbersItems holds items

def NumbersMembers (holds : Num → Prop) : List (Str × Tree Str Num) → Prop
  | [] => True
  | (_, value) :: members => Numbers holds value ∧ NumbersMembers holds members

end

mutual

theorem numbers_of_forall {holds : Num → Prop} (always : ∀ number, holds number)
    (tree : Tree Str Num) : tree.Numbers holds := by
  cases tree with
  | null | bool _ | str _ => trivial
  | num number => exact always number
  | arr items => exact numbersItems_of_forall always items
  | obj members => exact numbersMembers_of_forall always members

theorem numbersItems_of_forall {holds : Num → Prop} (always : ∀ number, holds number)
    (items : List (Tree Str Num)) : NumbersItems holds items := by
  cases items with
  | nil => trivial
  | cons item items =>
      exact ⟨numbers_of_forall always item, numbersItems_of_forall always items⟩

theorem numbersMembers_of_forall {holds : Num → Prop} (always : ∀ number, holds number)
    (members : List (Str × Tree Str Num)) : NumbersMembers holds members := by
  cases members with
  | nil => trivial
  | cons member members =>
      exact ⟨numbers_of_forall always member.2, numbersMembers_of_forall always members⟩

end

mutual

/-- What every string of the tree satisfies, keys included. -/
def Strings (holds : Str → Prop) : Tree Str Num → Prop
  | null | bool _ | num _ => True
  | str text => holds text
  | arr items => StringsItems holds items
  | obj members => StringsMembers holds members

def StringsItems (holds : Str → Prop) : List (Tree Str Num) → Prop
  | [] => True
  | item :: items => Strings holds item ∧ StringsItems holds items

def StringsMembers (holds : Str → Prop) : List (Str × Tree Str Num) → Prop
  | [] => True
  | (key, value) :: members => holds key ∧ Strings holds value ∧ StringsMembers holds members

end

mutual

theorem nesting_le_depth (tree : Tree Str Num) : tree.nesting ≤ tree.depth := by
  cases tree with
  | null | bool _ | num _ | str _ => exact Nat.zero_le _
  | arr items => exact Nat.add_le_add_left (nestingItems_le_depthItems items) 1
  | obj members => exact Nat.add_le_add_left (nestingMembers_le_depthMembers members) 1

theorem nestingItems_le_depthItems (items : List (Tree Str Num)) :
    nestingItems items ≤ depthItems items := by
  cases items with
  | nil => exact Nat.le_refl 0
  | cons item items =>
      exact max_le_max (nesting_le_depth item) (nestingItems_le_depthItems items)

theorem nestingMembers_le_depthMembers (members : List (Str × Tree Str Num)) :
    nestingMembers members ≤ depthMembers members := by
  cases members with
  | nil => exact Nat.le_refl 0
  | cons member members =>
      exact max_le_max (nesting_le_depth member.2) (nestingMembers_le_depthMembers members)

end

theorem depthMembers_le {members : List (Str × Tree Str Num)} {bound : ℕ}
    (below : ∀ member ∈ members, depth member.2 ≤ bound) : depthMembers members ≤ bound := by
  induction members with
  | nil => exact Nat.zero_le bound
  | cons member members inductionHypothesis =>
      exact max_le (below member List.mem_cons_self)
        (inductionHypothesis fun other membership =>
          below other (List.mem_cons_of_mem _ membership))

theorem distinctKeysMembers_of_forall {members : List (Str × Tree Str Num)}
    (distinct : ∀ member ∈ members, DistinctKeys member.2) : DistinctKeysMembers members := by
  induction members with
  | nil => trivial
  | cons member members inductionHypothesis =>
      exact ⟨distinct member List.mem_cons_self, inductionHypothesis fun other membership =>
        distinct other (List.mem_cons_of_mem _ membership)⟩

section Map

variable (onStr : Str → OtherStr) (onNum : Num → OtherNum)

theorem map_fst_mapMembers (members : List (Str × Tree Str Num)) :
    (mapMembers onStr onNum members).map Prod.fst = (members.map Prod.fst).map onStr := by
  induction members with
  | nil => rfl
  | cons member members inductionHypothesis =>
      simp only [mapMembers, List.map_cons, inductionHypothesis]

theorem mapMembers_eq_map (members : List (Str × Tree Str Num)) :
    mapMembers onStr onNum members =
      members.map fun member => (onStr member.1, member.2.map onStr onNum) := by
  induction members with
  | nil => rfl
  | cons member members inductionHypothesis =>
      rw [mapMembers, List.map_cons, inductionHypothesis]

theorem lookup_mapMembers [BEq Str] [LawfulBEq Str] [BEq OtherStr] [LawfulBEq OtherStr]
    (injective : Function.Injective onStr) (members : List (Str × Tree Str Num)) (name : Str) :
    (mapMembers onStr onNum members).lookup (onStr name) =
      (members.lookup name).map (map onStr onNum) := by
  induction members with
  | nil => rfl
  | cons member members inductionHypothesis =>
      by_cases same : name = member.1
      · simp [mapMembers, List.lookup, same]
      · have different : onStr name ≠ onStr member.1 := fun equal => same (injective equal)
        rw [mapMembers, List.lookup_cons, List.lookup_cons, beq_false_of_ne same,
          beq_false_of_ne different, inductionHypothesis]

mutual

@[simp]
theorem depth_map (tree : Tree Str Num) : (tree.map onStr onNum).depth = tree.depth := by
  cases tree with
  | null | bool _ | num _ | str _ => rfl
  | arr items => exact congrArg (1 + ·) (depthItems_mapItems items)
  | obj members => exact congrArg (1 + ·) (depthMembers_mapMembers members)

theorem depthItems_mapItems (items : List (Tree Str Num)) :
    depthItems (mapItems onStr onNum items) = depthItems items := by
  cases items with
  | nil => rfl
  | cons item items => simp only [mapItems, depthItems, depth_map item, depthItems_mapItems items]

theorem depthMembers_mapMembers (members : List (Str × Tree Str Num)) :
    depthMembers (mapMembers onStr onNum members) = depthMembers members := by
  cases members with
  | nil => rfl
  | cons member members =>
      simp only [mapMembers, depthMembers, depth_map member.2, depthMembers_mapMembers members]

end

mutual

theorem strings_map {holds : OtherStr → Prop} (always : ∀ text, holds (onStr text))
    (tree : Tree Str Num) : (tree.map onStr onNum).Strings holds := by
  cases tree with
  | null | bool _ | num _ => trivial
  | str text => exact always text
  | arr items => exact stringsItems_mapItems always items
  | obj members => exact stringsMembers_mapMembers always members

theorem stringsItems_mapItems {holds : OtherStr → Prop} (always : ∀ text, holds (onStr text))
    (items : List (Tree Str Num)) : StringsItems holds (mapItems onStr onNum items) := by
  cases items with
  | nil => trivial
  | cons item items => exact ⟨strings_map always item, stringsItems_mapItems always items⟩

theorem stringsMembers_mapMembers {holds : OtherStr → Prop} (always : ∀ text, holds (onStr text))
    (members : List (Str × Tree Str Num)) :
    StringsMembers holds (mapMembers onStr onNum members) := by
  cases members with
  | nil => trivial
  | cons member members =>
      exact ⟨always member.1, strings_map always member.2, stringsMembers_mapMembers always members⟩

end

mutual

theorem strings_map_iff {holds : OtherStr → Prop} (tree : Tree Str Num) :
    (tree.map onStr onNum).Strings holds ↔ tree.Strings fun text => holds (onStr text) := by
  cases tree with
  | null | bool _ | num _ | str _ => rfl
  | arr items => exact stringsItems_mapItems_iff items
  | obj members => exact stringsMembers_mapMembers_iff members

theorem stringsItems_mapItems_iff {holds : OtherStr → Prop} (items : List (Tree Str Num)) :
    StringsItems holds (mapItems onStr onNum items) ↔
      StringsItems (fun text => holds (onStr text)) items := by
  cases items with
  | nil => rfl
  | cons item items =>
      exact and_congr (strings_map_iff item) (stringsItems_mapItems_iff items)

theorem stringsMembers_mapMembers_iff {holds : OtherStr → Prop}
    (members : List (Str × Tree Str Num)) :
    StringsMembers holds (mapMembers onStr onNum members) ↔
      StringsMembers (fun text => holds (onStr text)) members := by
  cases members with
  | nil => rfl
  | cons member members =>
      exact and_congr Iff.rfl
        (and_congr (strings_map_iff member.2) (stringsMembers_mapMembers_iff members))

end

mutual

theorem numbers_map {holds : OtherNum → Prop} (tree : Tree Str Num)
    (numbers : tree.Numbers fun number => holds (onNum number)) :
    (tree.map onStr onNum).Numbers holds := by
  cases tree with
  | null | bool _ | str _ => trivial
  | num number => exact numbers
  | arr items => exact numbersItems_mapItems items numbers
  | obj members => exact numbersMembers_mapMembers members numbers

theorem numbersItems_mapItems {holds : OtherNum → Prop} (items : List (Tree Str Num))
    (numbers : NumbersItems (fun number => holds (onNum number)) items) :
    NumbersItems holds (mapItems onStr onNum items) := by
  cases items with
  | nil => trivial
  | cons item items =>
      exact ⟨numbers_map item numbers.1, numbersItems_mapItems items numbers.2⟩

theorem numbersMembers_mapMembers {holds : OtherNum → Prop}
    (members : List (Str × Tree Str Num))
    (numbers : NumbersMembers (fun number => holds (onNum number)) members) :
    NumbersMembers holds (mapMembers onStr onNum members) := by
  cases members with
  | nil => trivial
  | cons member members =>
      exact ⟨numbers_map member.2 numbers.1, numbersMembers_mapMembers members numbers.2⟩

end

mutual

theorem distinctKeys_map (injective : Function.Injective onStr) (tree : Tree Str Num)
    (distinct : tree.DistinctKeys) : (tree.map onStr onNum).DistinctKeys := by
  cases tree with
  | null | bool _ | num _ | str _ => trivial
  | arr items => exact distinctKeysItems_mapItems injective items distinct
  | obj members =>
      refine ⟨?_, distinctKeysMembers_mapMembers injective members distinct.2⟩
      rw [map_fst_mapMembers]
      exact distinct.1.map injective

theorem distinctKeysItems_mapItems (injective : Function.Injective onStr)
    (items : List (Tree Str Num)) (distinct : DistinctKeysItems items) :
    DistinctKeysItems (mapItems onStr onNum items) := by
  cases items with
  | nil => trivial
  | cons item items =>
      exact ⟨distinctKeys_map injective item distinct.1,
        distinctKeysItems_mapItems injective items distinct.2⟩

theorem distinctKeysMembers_mapMembers (injective : Function.Injective onStr)
    (members : List (Str × Tree Str Num)) (distinct : DistinctKeysMembers members) :
    DistinctKeysMembers (mapMembers onStr onNum members) := by
  cases members with
  | nil => trivial
  | cons member members =>
      exact ⟨distinctKeys_map injective member.2 distinct.1,
        distinctKeysMembers_mapMembers injective members distinct.2⟩

end

mutual

theorem distinctKeys_of_map (tree : Tree Str Num)
    (distinct : (tree.map onStr onNum).DistinctKeys) : tree.DistinctKeys := by
  cases tree with
  | null | bool _ | num _ | str _ => trivial
  | arr items => exact distinctKeysItems_of_mapItems items distinct
  | obj members =>
      have keys := distinct.1
      rw [map_fst_mapMembers] at keys
      exact ⟨keys.of_map, distinctKeysMembers_of_mapMembers members distinct.2⟩

theorem distinctKeysItems_of_mapItems (items : List (Tree Str Num))
    (distinct : DistinctKeysItems (mapItems onStr onNum items)) : DistinctKeysItems items := by
  cases items with
  | nil => trivial
  | cons item items =>
      exact ⟨distinctKeys_of_map item distinct.1, distinctKeysItems_of_mapItems items distinct.2⟩

theorem distinctKeysMembers_of_mapMembers (members : List (Str × Tree Str Num))
    (distinct : DistinctKeysMembers (mapMembers onStr onNum members)) :
    DistinctKeysMembers members := by
  cases members with
  | nil => trivial
  | cons member members =>
      exact ⟨distinctKeys_of_map member.2 distinct.1,
        distinctKeysMembers_of_mapMembers members distinct.2⟩

end

section Preimage

variable {onStr : Str → OtherStr} {onNum : Num → OtherNum} {ofStr : OtherStr → Prop}
  {ofNum : OtherNum → Prop}

mutual

/-- A tree all of whose strings and numbers are replacements is a replacement. -/
theorem exists_map (findStr : ∀ text, ofStr text → ∃ source, onStr source = text)
    (findNum : ∀ number, ofNum number → ∃ source, onNum source = number)
    (tree : Tree OtherStr OtherNum) (strings : tree.Strings ofStr)
    (numbers : tree.Numbers ofNum) :
    ∃ source : Tree Str Num, source.map onStr onNum = tree := by
  cases tree with
  | null => exact ⟨null, rfl⟩
  | bool value => exact ⟨bool value, rfl⟩
  | num number =>
      obtain ⟨source, rfl⟩ := findNum number numbers
      exact ⟨num source, rfl⟩
  | str text =>
      obtain ⟨source, rfl⟩ := findStr text strings
      exact ⟨str source, rfl⟩
  | arr items =>
      obtain ⟨source, rfl⟩ := exists_mapItems findStr findNum items strings numbers
      exact ⟨arr source, rfl⟩
  | obj members =>
      obtain ⟨source, rfl⟩ := exists_mapMembers findStr findNum members strings numbers
      exact ⟨obj source, rfl⟩

theorem exists_mapItems (findStr : ∀ text, ofStr text → ∃ source, onStr source = text)
    (findNum : ∀ number, ofNum number → ∃ source, onNum source = number)
    (items : List (Tree OtherStr OtherNum))
    (strings : StringsItems ofStr items) (numbers : NumbersItems ofNum items) :
    ∃ source : List (Tree Str Num), mapItems onStr onNum source = items := by
  cases items with
  | nil => exact ⟨[], rfl⟩
  | cons item items =>
      obtain ⟨first, rfl⟩ := exists_map findStr findNum item strings.1 numbers.1
      obtain ⟨later, rfl⟩ := exists_mapItems findStr findNum items strings.2 numbers.2
      exact ⟨first :: later, rfl⟩

theorem exists_mapMembers (findStr : ∀ text, ofStr text → ∃ source, onStr source = text)
    (findNum : ∀ number, ofNum number → ∃ source, onNum source = number)
    (members : List (OtherStr × Tree OtherStr OtherNum))
    (strings : StringsMembers ofStr members) (numbers : NumbersMembers ofNum members) :
    ∃ source : List (Str × Tree Str Num), mapMembers onStr onNum source = members := by
  cases members with
  | nil => exact ⟨[], rfl⟩
  | cons member members =>
      obtain ⟨key, value⟩ := member
      obtain ⟨inKey, inValue, inOthers⟩ := strings
      obtain ⟨name, rfl⟩ := findStr key inKey
      obtain ⟨first, rfl⟩ := exists_map findStr findNum value inValue numbers.1
      obtain ⟨later, rfl⟩ := exists_mapMembers findStr findNum members inOthers numbers.2
      exact ⟨(name, first) :: later, rfl⟩

end

end Preimage

section Compose

variable {LastStr LastNum : Type} (onOtherStr : OtherStr → LastStr)
  (onOtherNum : OtherNum → LastNum)

mutual

/-- Replacing twice is replacing once. -/
theorem map_map (tree : Tree Str Num) :
    (tree.map onStr onNum).map onOtherStr onOtherNum =
      tree.map (fun text => onOtherStr (onStr text)) (fun number => onOtherNum (onNum number)) := by
  cases tree with
  | null | bool _ | num _ | str _ => rfl
  | arr items => exact congrArg arr (mapItems_mapItems items)
  | obj members => exact congrArg obj (mapMembers_mapMembers members)

theorem mapItems_mapItems (items : List (Tree Str Num)) :
    mapItems onOtherStr onOtherNum (mapItems onStr onNum items) =
      mapItems (fun text => onOtherStr (onStr text)) (fun number => onOtherNum (onNum number))
        items := by
  cases items with
  | nil => rfl
  | cons item items =>
      simp only [mapItems, map_map item, mapItems_mapItems items]

theorem mapMembers_mapMembers (members : List (Str × Tree Str Num)) :
    mapMembers onOtherStr onOtherNum (mapMembers onStr onNum members) =
      mapMembers (fun text => onOtherStr (onStr text)) (fun number => onOtherNum (onNum number))
        members := by
  cases members with
  | nil => rfl
  | cons member members =>
      simp only [mapMembers, map_map member.2, mapMembers_mapMembers members]

end

end Compose

end Map

end Tree

/-! ## Texts -/

/-- Space, tab, line feed or carriage return. -/
def blankChar (char : Char) : Bool :=
  char = ' ' || char = '\t' || char = '\n' || char = '\r'

def Blank (text : List Char) : Prop := ∀ char ∈ text, blankChar char = true

/-- The code unit a one-letter escape stands for, by the code of its letter. -/
def escape? (code : ℕ) : Option CodeUnit :=
  if code = '"'.toNat then some 0x22
  else if code = '\\'.toNat then some 0x5C
  else if code = '/'.toNat then some 0x2F
  else if code = 'b'.toNat then some 0x08
  else if code = 'f'.toNat then some 0x0C
  else if code = 'n'.toNat then some 0x0A
  else if code = 'r'.toNat then some 0x0D
  else if code = 't'.toNat then some 0x09
  else none

/-- The value of a hexadecimal digit, by its code. -/
def hexDigit? (code : ℕ) : Option (Fin 16) :=
  if '0'.toNat ≤ code ∧ code ≤ '9'.toNat then some (Fin.ofNat 16 (code - '0'.toNat))
  else if 'a'.toNat ≤ code ∧ code ≤ 'f'.toNat then some (Fin.ofNat 16 (code - 'a'.toNat + 10))
  else if 'A'.toNat ≤ code ∧ code ≤ 'F'.toNat then some (Fin.ofNat 16 (code - 'A'.toNat + 10))
  else none

/-- The code unit of four hexadecimal digits. -/
def hexUnit (first second third fourth : Fin 16) : CodeUnit :=
  Fin.ofNat 0x10000 (((first.val * 16 + second.val) * 16 + third.val) * 16 + fourth.val)

/-- The code unit of four codes, if all are hexadecimal digits. -/
def hexUnit? (first second third fourth : ℕ) : Option CodeUnit :=
  match hexDigit? first, hexDigit? second, hexDigit? third, hexDigit? fourth with
  | some first, some second, some third, some fourth => some (hexUnit first second third fourth)
  | _, _, _, _ => none

/-- The four digits of a code unit. -/
theorem hexUnit?_eq_some {first second third fourth : ℕ} {unit : CodeUnit}
    (read : hexUnit? first second third fourth = some unit) :
    ∃ a b c d, hexDigit? first = some a ∧ hexDigit? second = some b ∧ hexDigit? third = some c ∧
      hexDigit? fourth = some d ∧ unit = hexUnit a b c d := by
  unfold hexUnit? at read
  split at read
  · next a b c d isFirst isSecond isThird isFourth =>
      cases read
      exact ⟨a, b, c, d, isFirst, isSecond, isThird, isFourth, rfl⟩
  · cases read

/-- What stands between the quotes of a string, and the code units it denotes. -/
inductive StringBody : List Char → List CodeUnit → Prop where
  | nil : StringBody [] []
  | unescaped {char : Char} {text : List Char} {units : List CodeUnit}
      (printable : 0x20 ≤ char.toNat) (notQuote : char ≠ '"') (notBackslash : char ≠ '\\')
      (body : StringBody text units) :
      StringBody (char :: text) ((CodePoint.ofChar char).units ++ units)
  | escaped {char : Char} {unit : CodeUnit} {text : List Char} {units : List CodeUnit}
      (known : escape? char.toNat = some unit) (body : StringBody text units) :
      StringBody ('\\' :: char :: text) (unit :: units)
  | unicode {first second third fourth : Char} {unit : CodeUnit} {text : List Char}
      {units : List CodeUnit}
      (hex : hexUnit? first.toNat second.toNat third.toNat fourth.toNat = some unit)
      (body : StringBody text units) :
      StringBody ('\\' :: 'u' :: first :: second :: third :: fourth :: text) (unit :: units)

/-- A document as a text denotes it. -/
abbrev Document := Tree (List CodeUnit) Numeral

/-- What a stretch of text denotes: a value, or the inside of a nonempty array or object. -/
inductive Part where
  | value (tree : Document)
  | items (items : List Document)
  | members (members : List (List CodeUnit × Document))

/-- The grammar.  The text of a value starts and ends with it; the inside of a container
includes the blanks around its values. -/
inductive Derives : List Char → Part → Prop where
  | null : Derives ['n', 'u', 'l', 'l'] (.value .null)
  | true : Derives ['t', 'r', 'u', 'e'] (.value (.bool true))
  | false : Derives ['f', 'a', 'l', 's', 'e'] (.value (.bool false))
  | number {numeral : Numeral} (wellFormed : numeral.WellFormed) :
      Derives numeral.text (.value (.num numeral))
  | string {text : List Char} {units : List CodeUnit} (body : StringBody text units) :
      Derives ('"' :: (text ++ ['"'])) (.value (.str units))
  | emptyArray {blank : List Char} (isBlank : Blank blank) :
      Derives ('[' :: (blank ++ [']'])) (.value (.arr []))
  | array {text : List Char} {items : List Document} (inside : Derives text (.items items)) :
      Derives ('[' :: (text ++ [']'])) (.value (.arr items))
  | emptyObject {blank : List Char} (isBlank : Blank blank) :
      Derives ('{' :: (blank ++ ['}'])) (.value (.obj []))
  | object {text : List Char} {members : List (List CodeUnit × Document)}
      (inside : Derives text (.members members)) :
      Derives ('{' :: (text ++ ['}'])) (.value (.obj members))
  | lastItem {before text after : List Char} {item : Document}
      (isBefore : Blank before) (isItem : Derives text (.value item)) (isAfter : Blank after) :
      Derives (before ++ (text ++ after)) (.items [item])
  | item {before text after rest : List Char} {item : Document} {items : List Document}
      (isBefore : Blank before) (isItem : Derives text (.value item)) (isAfter : Blank after)
      (others : Derives rest (.items items)) :
      Derives (before ++ (text ++ (after ++ ',' :: rest))) (.items (item :: items))
  | lastMember {before key beforeColon afterColon text after : List Char}
      {name : List CodeUnit} {value : Document}
      (isBefore : Blank before) (isName : StringBody key name)
      (isBeforeColon : Blank beforeColon) (isAfterColon : Blank afterColon)
      (isValue : Derives text (.value value)) (isAfter : Blank after) :
      Derives (before ++ '"' :: (key ++ '"' ::
        (beforeColon ++ ':' :: (afterColon ++ (text ++ after))))) (.members [(name, value)])
  | member {before key beforeColon afterColon text after rest : List Char}
      {name : List CodeUnit} {value : Document} {members : List (List CodeUnit × Document)}
      (isBefore : Blank before) (isName : StringBody key name)
      (isBeforeColon : Blank beforeColon) (isAfterColon : Blank afterColon)
      (isValue : Derives text (.value value)) (isAfter : Blank after)
      (others : Derives rest (.members members)) :
      Derives (before ++ '"' :: (key ++ '"' ::
        (beforeColon ++ ':' :: (afterColon ++ (text ++ (after ++ ',' :: rest))))))
        (.members ((name, value) :: members))

/-- What every literal of a part satisfies. -/
def Part.Numbers (holds : Numeral → Prop) : Part → Prop
  | value tree => tree.Numbers holds
  | items values => Tree.NumbersItems holds values
  | members pairs => Tree.NumbersMembers holds pairs

/-- The literals of a text are well formed. -/
theorem Derives.numbers {text : List Char} {part : Part} (derived : Derives text part) :
    part.Numbers Numeral.WellFormed := by
  induction derived with
  | null | true | false | string _ | emptyArray _ | emptyObject _ => trivial
  | number wellFormed => exact wellFormed
  | array _ inside => exact inside
  | object _ inside => exact inside
  | lastItem _ _ _ value => exact ⟨value, trivial⟩
  | item _ _ _ _ value others => exact ⟨value, others⟩
  | lastMember _ _ _ _ _ _ value => exact ⟨value, trivial⟩
  | member _ _ _ _ _ _ _ value others => exact ⟨value, others⟩

/-! ## How parts begin and end -/

/-- A blank or a delimiter: no value starts with it, and it ends every value. -/
def separator (char : Char) : Bool :=
  blankChar char || char = ',' || char = ':' || char = ']' || char = '}'

theorem separator_digit (digit : Digit) : separator digit.char = false := by
  revert digit
  decide

/-- No literal goes on past a separator. -/
theorem closed_separator {n : ℕ} [NeZero n] (large : 128 ≤ n) {char : Char}
    (ends : separator char = true) (rest : List (Fin n)) :
    Numeral.Closed (Fin.ofNat n char.toNat :: rest) := by
  intro code head
  cases head
  simp only [separator, blankChar, Bool.or_eq_true, decide_eq_true_eq] at ends
  rcases ends with ((((((rfl | rfl) | rfl) | rfl) | rfl) | rfl) | rfl) | rfl <;>
    (rw [Numeral.ofNat_val large (by decide)]; decide)

/-- The text starts with blanks and a character that is no separator. -/
def Opens (text : List Char) : Prop :=
  ∃ before char after, text = before ++ char :: after ∧ Blank before ∧ separator char = false

theorem Blank.nil : Blank [] := by simp [Blank]

theorem Blank.append {first second : List Char} (left : Blank first) (right : Blank second) :
    Blank (first ++ second) := by
  intro char membership
  rcases List.mem_append.mp membership with inFirst | inSecond
  · exact left char inFirst
  · exact right char inSecond

theorem Opens.blank {before text : List Char} (isBlank : Blank before) (opens : Opens text) :
    Opens (before ++ text) := by
  obtain ⟨blank, char, after, rfl, isBlank', solid⟩ := opens
  exact ⟨before ++ blank, char, after, by simp, isBlank.append isBlank', solid⟩

theorem Opens.append {text : List Char} (opens : Opens text) (rest : List Char) :
    Opens (text ++ rest) := by
  obtain ⟨blank, char, after, rfl, isBlank, solid⟩ := opens
  exact ⟨blank, char, after ++ rest, by simp, isBlank, solid⟩

/-- The first character of a literal. -/
theorem numeral_head {numeral : Numeral} (wellFormed : numeral.WellFormed) :
    ∃ char after, numeral.text = char :: after ∧
      (char = '-' ∨ ∃ digit : Digit, char = digit.char) := by
  obtain ⟨negative, integer, fraction, exponent⟩ := numeral
  cases negative with
  | true => exact ⟨'-', _, rfl, .inl rfl⟩
  | false =>
      cases integer with
      | nil => exact absurd rfl wellFormed.integer
      | cons digit digits => exact ⟨digit.char, _, rfl, .inr ⟨digit, rfl⟩⟩

/-- A value starts with its text. -/
theorem Derives.value_head {text : List Char} {tree : Document}
    (derived : Derives text (.value tree)) :
    ∃ char after, text = char :: after ∧ separator char = Bool.false := by
  cases derived with
  | null | true | false | string | emptyArray | array | emptyObject | object =>
      exact ⟨_, _, rfl, by decide⟩
  | number wellFormed =>
      obtain ⟨char, after, same, start⟩ := numeral_head wellFormed
      refine ⟨char, after, same, ?_⟩
      rcases start with rfl | ⟨digit, rfl⟩
      · decide
      · exact separator_digit digit

theorem Derives.value_opens {text : List Char} {tree : Document}
    (derived : Derives text (.value tree)) : Opens text := by
  obtain ⟨char, after, rfl, solid⟩ := derived.value_head
  exact ⟨[], char, after, rfl, Blank.nil, solid⟩

theorem Derives.items_opens {text : List Char} {items : List Document}
    (derived : Derives text (.items items)) : Opens text := by
  cases derived with
  | lastItem isBefore isItem _ => exact (isItem.value_opens.append _).blank isBefore
  | item isBefore isItem _ _ => exact (isItem.value_opens.append _).blank isBefore

theorem Derives.members_opens {text : List Char} {members : List (List CodeUnit × Document)}
    (derived : Derives text (.members members)) :
    ∃ before after, text = before ++ '"' :: after ∧ Blank before := by
  cases derived with
  | lastMember isBefore _ _ _ _ _ => exact ⟨_, _, rfl, isBefore⟩
  | member isBefore _ _ _ _ _ _ => exact ⟨_, _, rfl, isBefore⟩

/-- More blanks in front of the inside of an array. -/
theorem Derives.blank_items {before text : List Char} {items : List Document}
    (isBlank : Blank before) (derived : Derives text (.items items)) :
    Derives (before ++ text) (.items items) := by
  cases derived with
  | lastItem isBefore isItem isAfter =>
      rw [← List.append_assoc]
      exact .lastItem (isBlank.append isBefore) isItem isAfter
  | item isBefore isItem isAfter others =>
      rw [← List.append_assoc]
      exact .item (isBlank.append isBefore) isItem isAfter others

/-- More blanks in front of the inside of an object. -/
theorem Derives.blank_members {before text : List Char}
    {members : List (List CodeUnit × Document)}
    (isBlank : Blank before) (derived : Derives text (.members members)) :
    Derives (before ++ text) (.members members) := by
  cases derived with
  | lastMember isBefore isName isBeforeColon isAfterColon isValue isAfter =>
      rw [← List.append_assoc]
      exact .lastMember (isBlank.append isBefore) isName isBeforeColon isAfterColon isValue isAfter
  | member isBefore isName isBeforeColon isAfterColon isValue isAfter others =>
      rw [← List.append_assoc]
      exact .member (isBlank.append isBefore) isName isBeforeColon isAfterColon isValue isAfter
        others

/-- A JSON text: one value with blanks around it. -/
def IsText (source : List Char) (tree : Document) : Prop :=
  ∃ before text after, source = before ++ (text ++ after) ∧ Blank before ∧
    Derives text (.value tree) ∧ Blank after

end Json
