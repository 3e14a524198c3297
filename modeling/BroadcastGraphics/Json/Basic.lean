import BroadcastGraphics.Number.Binary64
import BroadcastGraphics.Table
import BroadcastGraphics.Text.HalfPair

/-!
# JSON values

Exchange documents, settings and live data are JSON values.  Integers and double-precision numbers
are kept apart, because they are written differently, and the members of an object keep the order
in which they came.  `sameValue` is the looser equality by which an edit counts as no change:
numbers are compared by value, truth values counting as zero and one, and the order of members
does not matter.
-/

namespace BroadcastGraphics

/-- A JSON value. -/
inductive Json where
  | null
  | bool (value : Bool)
  | int (value : Int)
  | float (value : Binary64)
  | str (value : String)
  | arr (items : List Json)
  | obj (members : List (String × Json))
  deriving Inhabited, Repr

namespace Json

mutual

/-- Equality of values down to the kind of numbers and the order of members. -/
def identical : Json -> Json -> Bool
  | null, null => true
  | bool left, bool right => left == right
  | int left, int right => left == right
  | float left, float right => left == right
  | str left, str right => left == right
  | arr left, arr right => identicalItems left right
  | obj left, obj right => identicalMembers left right
  | _, _ => false

/-- Item by item equality. -/
def identicalItems : List Json -> List Json -> Bool
  | [], [] => true
  | left :: lefts, right :: rights => identical left right && identicalItems lefts rights
  | _, _ => false

/-- Member by member equality. -/
def identicalMembers : List (String × Json) -> List (String × Json) -> Bool
  | [], [] => true
  | (leftName, left) :: lefts, (rightName, right) :: rights =>
      leftName == rightName && identical left right && identicalMembers lefts rights
  | _, _ => false

end

mutual

/-- Identical values are equal. -/
theorem identical_iff : ∀ left right : Json, identical left right = true ↔ left = right
  | .null, right => by cases right <;> simp [identical]
  | .bool _, right => by cases right <;> simp [identical]
  | .int _, right => by cases right <;> simp [identical]
  | .float _, right => by cases right <;> simp [identical]
  | .str _, right => by cases right <;> simp [identical]
  | .arr left, right => by cases right <;> simp [identical, identicalItems_iff left]
  | .obj left, right => by cases right <;> simp [identical, identicalMembers_iff left]

/-- Lists of identical items are equal. -/
theorem identicalItems_iff :
    ∀ left right : List Json, identicalItems left right = true ↔ left = right
  | [], right => by cases right <;> simp [identicalItems]
  | left :: lefts, right => by
      cases right <;> simp [identicalItems, identical_iff left, identicalItems_iff lefts]

/-- Lists of identical members are equal. -/
theorem identicalMembers_iff :
    ∀ left right : List (String × Json), identicalMembers left right = true ↔ left = right
  | [], right => by cases right <;> simp [identicalMembers]
  | (_, left) :: lefts, right => by
      cases right <;>
        simp [identicalMembers, identical_iff left, identicalMembers_iff lefts, Prod.ext_iff]

end

instance : DecidableEq Json := fun left right =>
  decidable_of_iff (identical left right = true) (identical_iff left right)

/-- The value counts as false where a condition is read from it: nothing, zero or empty. -/
def isEmptyish : Json -> Bool
  | null => true
  | bool value => !value
  | int value => value == 0
  | float value => value.equalsInt 0
  | str value => value.isEmpty
  | arr items => items.isEmpty
  | obj members => members.isEmpty

/-- The value counts as true where a condition is read from it. -/
def isTruthy (value : Json) : Bool :=
  !value.isEmptyish

/-- The value is nothing. -/
def isNull : Json -> Bool
  | null => true
  | _ => false

/-- The text of a string value. -/
def str? : Json -> Option String
  | str value => some value
  | _ => none

/-- The items of a list value. -/
def arr? : Json -> Option (List Json)
  | arr items => some items
  | _ => none

/-- The members of an object value. -/
def obj? : Json -> Option (Table Json)
  | obj members => some members
  | _ => none

/-- The value is a number and not a truth value. -/
def isNumber : Json -> Bool
  | int _ => true
  | float _ => true
  | _ => false

/-- A scalar can serve as a key; lists and objects cannot. -/
def isScalar : Json -> Bool
  | arr _ => false
  | obj _ => false
  | _ => true

/-- The member of an object, or nothing where there is none. -/
def memberOrNull (members : Table Json) (name : String) : Json :=
  (Table.get? members name).getD null

/-- Equality of two scalars by value; a failed result equals itself. -/
def sameScalar : Json -> Json -> Bool
  | null, null => true
  | str left, str right => left == right
  | bool left, bool right => left == right
  | bool left, int right => (if left then 1 else 0) == right
  | bool left, float right => right.equalsInt (if left then 1 else 0)
  | int left, bool right => left == (if right then 1 else 0)
  | int left, int right => left == right
  | int left, float right => right.equalsInt left
  | float left, bool right => left.equalsInt (if right then 1 else 0)
  | float left, int right => left.equalsInt right
  | float left, float right => left == right || left.sameValue right
  | _, _ => false

mutual

/-- Equality by value: kinds of numbers and the order of members make no difference. -/
def sameValue : Json -> Json -> Bool
  | arr left, arr right => sameItems left right
  | obj left, obj right => left.length == right.length && sameMembers left right
  | left, right => sameScalar left right

/-- Item by item equality by value. -/
def sameItems : List Json -> List Json -> Bool
  | [], [] => true
  | left :: lefts, right :: rights => sameValue left right && sameItems lefts rights
  | _, _ => false

/-- Every member of the first list has an equal partner of its name in the second. -/
def sameMembers : List (String × Json) -> List (String × Json) -> Bool
  | [], _ => true
  | (name, left) :: lefts, rights =>
      (match Table.get? rights name with
        | some right => sameValue left right
        | none => false) && sameMembers lefts rights

end

mutual

/-- No object inside the value has two members of one name. -/
def WellFormed : Json -> Prop
  | arr items => WellFormedItems items
  | obj members => Table.Distinct members ∧ WellFormedMembers members
  | _ => True

/-- Every item is well formed. -/
def WellFormedItems : List Json -> Prop
  | [] => True
  | item :: rest => WellFormed item ∧ WellFormedItems rest

/-- The value of every member is well formed. -/
def WellFormedMembers : List (String × Json) -> Prop
  | [] => True
  | (_, value) :: rest => WellFormed value ∧ WellFormedMembers rest

end

mutual

/-- Whether a value is well formed can be computed. -/
def decidableWellFormed : ∀ value : Json, Decidable (WellFormed value)
  | null => isTrue trivial
  | bool _ => isTrue trivial
  | int _ => isTrue trivial
  | float _ => isTrue trivial
  | str _ => isTrue trivial
  | arr items => decidableWellFormedItems items
  | obj members =>
      have := decidableWellFormedMembers members
      inferInstanceAs (Decidable (Table.Distinct members ∧ WellFormedMembers members))

/-- So it can be of the items of a list. -/
def decidableWellFormedItems : ∀ items : List Json, Decidable (WellFormedItems items)
  | [] => isTrue trivial
  | item :: rest =>
      have := decidableWellFormed item
      have := decidableWellFormedItems rest
      inferInstanceAs (Decidable (WellFormed item ∧ WellFormedItems rest))

/-- And of the members of an object. -/
def decidableWellFormedMembers :
    ∀ members : List (String × Json), Decidable (WellFormedMembers members)
  | [] => isTrue trivial
  | (_, value) :: rest =>
      have := decidableWellFormed value
      have := decidableWellFormedMembers rest
      inferInstanceAs (Decidable (WellFormed value ∧ WellFormedMembers rest))

end

instance : DecidablePred WellFormed := decidableWellFormed

mutual

/-- Some number inside the value is infinite or a failed result. -/
def hasNonFinite : Json -> Bool
  | float value => !value.isFinite
  | arr items => hasNonFiniteItem items
  | obj members => hasNonFiniteMember members
  | _ => false

/-- Some item holds a number that is not finite. -/
def hasNonFiniteItem : List Json -> Bool
  | [] => false
  | item :: rest => hasNonFinite item || hasNonFiniteItem rest

/-- Some member holds a number that is not finite. -/
def hasNonFiniteMember : List (String × Json) -> Bool
  | [] => false
  | (_, value) :: rest => hasNonFinite value || hasNonFiniteMember rest

end

mutual

/-- Some number inside the value is a failed result. -/
def hasFailed : Json -> Bool
  | float value => value == .nan
  | arr items => hasFailedItem items
  | obj members => hasFailedMember members
  | _ => false

/-- Some item holds a failed result. -/
def hasFailedItem : List Json -> Bool
  | [] => false
  | item :: rest => hasFailed item || hasFailedItem rest

/-- Some member holds a failed result. -/
def hasFailedMember : List (String × Json) -> Bool
  | [] => false
  | (_, value) :: rest => hasFailed value || hasFailedMember rest

end

mutual

/-- The number of levels of a value, one for a value without parts. -/
def levels : Json -> Nat
  | arr items => 1 + levelsOfItems items
  | obj members => 1 + levelsOfMembers members
  | _ => 1

/-- The largest number of levels of an item. -/
def levelsOfItems : List Json -> Nat
  | [] => 0
  | item :: rest => max (levels item) (levelsOfItems rest)

/-- The largest number of levels of the value of a member. -/
def levelsOfMembers : List (String × Json) -> Nat
  | [] => 0
  | (_, value) :: rest => max (levels value) (levelsOfMembers rest)

end

mutual

/-- The value with nothing in place of every number that is not finite. -/
def finiteOnly : Json -> Json
  | float value => if value.isFinite then float value else null
  | arr items => arr (finiteItems items)
  | obj members => obj (finiteMembers members)
  | value => value

/-- Every item with its numbers finite. -/
def finiteItems : List Json -> List Json
  | [] => []
  | item :: rest => finiteOnly item :: finiteItems rest

/-- Every member with its numbers finite. -/
def finiteMembers : List (String × Json) -> List (String × Json)
  | [] => []
  | (name, value) :: rest => (name, finiteOnly value) :: finiteMembers rest

end

mutual

/-- The first run of halves of pairs in a text inside the value. -/
def halves? : Json -> Option Text.HalfPair.Run
  | str value => Text.HalfPair.firstRun? value.toList
  | arr items => halvesOfItems? items
  | obj members => halvesOfMembers? members
  | _ => none

/-- The first run of halves in an item. -/
def halvesOfItems? : List Json -> Option Text.HalfPair.Run
  | [] => none
  | item :: rest => (halves? item).or (halvesOfItems? rest)

/-- The first run of halves in a name or a value of a member. -/
def halvesOfMembers? : List (String × Json) -> Option Text.HalfPair.Run
  | [] => none
  | (name, value) :: rest =>
      (Text.HalfPair.firstRun? name.toList).or ((halves? value).or (halvesOfMembers? rest))

end

/-- The members that are not nothing. -/
def presentMembers (members : Table Json) : Table Json :=
  members.filter fun member => !member.2.isNull

/-- A list of strings as a value. -/
def ofStrings (texts : List String) : Json :=
  arr (texts.map str)

/-- An optional text, nothing when absent. -/
def ofText? : Option String -> Json
  | some text => str text
  | none => null

end Json
end BroadcastGraphics
