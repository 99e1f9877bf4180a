import ValeraControlTower.Library.Json

/-!
# Trees that differ in their texts only

A tree is filled by putting one text in the place of every text in it; the keys stay.
-/

namespace Json.Tree

variable {Str Num : Type}

mutual

/-- The tree with one text in the place of all. -/
def fill (text : Str) : Tree Str Num → Tree Str Num
  | null => null
  | bool value => bool value
  | num value => num value
  | str _ => str text
  | arr items => arr (fillItems text items)
  | obj members => obj (fillMembers text members)

def fillItems (text : Str) : List (Tree Str Num) → List (Tree Str Num)
  | [] => []
  | item :: items => item.fill text :: fillItems text items

def fillMembers (text : Str) : List (Str × Tree Str Num) → List (Str × Tree Str Num)
  | [] => []
  | member :: members => (member.1, member.2.fill text) :: fillMembers text members

end

theorem fillItems_eq_map (text : Str) (items : List (Tree Str Num)) :
    fillItems text items = items.map (fill text) := by
  induction items with
  | nil => rfl
  | cons item items inductionHypothesis => rw [fillItems, inductionHypothesis, List.map_cons]

theorem lookup_fillMembers [BEq Str] (text key : Str) (members : List (Str × Tree Str Num)) :
    (fillMembers text members).lookup key = (members.lookup key).map (fill text) := by
  induction members with
  | nil => rfl
  | cons member members inductionHypothesis =>
      obtain ⟨name, value⟩ := member
      rw [fillMembers, List.lookup_cons, List.lookup_cons, inductionHypothesis]
      cases key == name with
      | true => rfl
      | false => rfl

variable [Inhabited Str]

/-- The trees are the same but for their texts. -/
def SameShape (first second : Tree Str Num) : Prop := first.fill default = second.fill default

/-- What trees of one shape are. -/
inductive ShapeView : Tree Str Num → Tree Str Num → Prop where
  | null : ShapeView null null
  | bool (value : Bool) : ShapeView (bool value) (bool value)
  | num (value : Num) : ShapeView (num value) (num value)
  | str (text text' : Str) : ShapeView (str text) (str text')
  | arr {items items' : List (Tree Str Num)} (same : List.Forall₂ SameShape items items') :
      ShapeView (arr items) (arr items')
  | obj {members members' : List (Str × Tree Str Num)}
      (same : SameShape (obj members) (obj members')) : ShapeView (obj members) (obj members')

theorem forall₂_sameShape {items items' : List (Tree Str Num)} :
    List.Forall₂ SameShape items items' ↔ SameShape (arr items) (arr items') := by
  have filled : SameShape (arr items) (arr items') ↔
      items.map (fill default) = items'.map (fill default) := by
    rw [← fillItems_eq_map, ← fillItems_eq_map]
    exact ⟨fun same => Tree.arr.inj same, fun same => congrArg Tree.arr same⟩
  rw [filled, ← List.forall₂_eq_eq_eq, List.forall₂_map_left_iff, List.forall₂_map_right_iff]
  rfl

theorem SameShape.view {first second : Tree Str Num} (same : SameShape first second) :
    ShapeView first second := by
  cases first with
  | null =>
      cases second with
      | null => exact .null
      | bool _ | num _ | str _ | arr _ | obj _ => cases same
  | bool value =>
      cases second with
      | bool _ =>
          cases same
          exact .bool value
      | null | num _ | str _ | arr _ | obj _ => cases same
  | num value =>
      cases second with
      | num _ =>
          cases same
          exact .num value
      | null | bool _ | str _ | arr _ | obj _ => cases same
  | str text =>
      cases second with
      | str text' => exact .str text text'
      | null | bool _ | num _ | arr _ | obj _ => cases same
  | arr items =>
      cases second with
      | arr items' => exact .arr (forall₂_sameShape.mpr same)
      | null | bool _ | num _ | str _ | obj _ => cases same
  | obj members =>
      cases second with
      | obj members' => exact .obj same
      | null | bool _ | num _ | str _ | arr _ => cases same

theorem SameShape.refl (tree : Tree Str Num) : SameShape tree tree := rfl

/-- Texts have one shape. -/
theorem SameShape.str (text text' : Str) : SameShape (str text : Tree Str Num) (.str text') := rfl

/-- What dictionaries of one shape have for a key is of one shape. -/
theorem SameShape.lookup [BEq Str] {members members' : List (Str × Tree Str Num)}
    (same : SameShape (obj members) (obj members')) (key : Str) (default' : Tree Str Num) :
    SameShape ((members.lookup key).getD default') ((members'.lookup key).getD default') := by
  have filled : fillMembers default members = fillMembers default members' := Tree.obj.inj same
  have found := congrArg (List.lookup key) filled
  rw [lookup_fillMembers, lookup_fillMembers] at found
  unfold SameShape
  cases first : members.lookup key with
  | none =>
      rw [first] at found
      cases second : members'.lookup key with
      | none => rfl
      | some _ =>
          rw [second] at found
          cases found
  | some value =>
      rw [first] at found
      cases second : members'.lookup key with
      | none =>
          rw [second] at found
          cases found
      | some value' =>
          rw [second] at found
          exact Option.some.inj found

end Json.Tree
