/-!
# Binary heaps

A binary heap is a list in which the item at place `n` stands above those at `2 * n + 1` and
`2 * n + 2`.  An item is added at the end and rises past those that it comes before.  The first item
is taken by putting the last one in its place, which sinks to the bottom along the earlier of the
items below and rises again from there.  If the order is total, the item taken comes before all
others; for any other relation the moves are the same, so the sequence of items taken is determined
by what was added.
-/

namespace BroadcastGraphics
namespace Heap

variable {α : Type}

/-- The place above a place. -/
def above (place : Nat) : Nat :=
  (place - 1) / 2

/-- The item at one place comes before that at another. -/
def isBefore (before : α -> α -> Bool) (items : List α) (left right : Nat) : Bool :=
  match items[left]?, items[right]? with
  | some first, some second => before first second
  | _, _ => false

/-- Exchange the items at two places. -/
def swap (items : List α) (left right : Nat) : List α :=
  match items[left]?, items[right]? with
  | some first, some second => (items.set left second).set right first
  | _, _ => items

/-- Let the item at a place rise past those that it comes before, at most a number of times. -/
def rise (before : α -> α -> Bool) : Nat -> List α -> Nat -> List α
  | 0, items, _ => items
  | steps + 1, items, place =>
      if 0 < place && isBefore before items place (above place) then
        rise before steps (swap items place (above place)) (above place)
      else items

/-- The earlier of the two places below a place; the second one unless the first comes before
it. -/
def earlierBelow (before : α -> α -> Bool) (items : List α) (place : Nat) : Nat :=
  let first := 2 * place + 1
  let second := 2 * place + 2
  if second < items.length && !isBefore before items first second then second else first

/-- Let the item at a place sink to the bottom, at most a number of times; the answer says where
it is then. -/
def sink (before : α -> α -> Bool) : Nat -> List α -> Nat -> List α × Nat
  | 0, items, place => (items, place)
  | steps + 1, items, place =>
      if 2 * place + 1 < items.length then
        let below := earlierBelow before items place
        sink before steps (swap items place below) below
      else (items, place)

/-- Add an item. -/
def push (before : α -> α -> Bool) (items : List α) (item : α) : List α :=
  rise before items.length (items ++ [item]) items.length

/-- The items after the first one has been taken away. -/
def rest (before : α -> α -> Bool) : List α -> List α
  | [] => []
  | _ :: others =>
      match others.getLast? with
      | none => []
      | some last =>
          let (sunk, place) := sink before others.length (last :: others.dropLast) 0
          rise before others.length sunk place

@[simp] theorem length_swap (items : List α) (left right : Nat) :
    (swap items left right).length = items.length := by
  unfold swap
  split <;> simp

@[simp] theorem length_rise (before : α -> α -> Bool) (steps : Nat) (items : List α)
    (place : Nat) : (rise before steps items place).length = items.length := by
  induction steps generalizing items place with
  | zero => rfl
  | succ steps ih =>
    unfold rise
    split
    · simp [ih]
    · rfl

@[simp] theorem length_sink (before : α -> α -> Bool) (steps : Nat) (items : List α)
    (place : Nat) : (sink before steps items place).1.length = items.length := by
  induction steps generalizing items place with
  | zero => rfl
  | succ steps ih =>
    unfold sink
    split
    · simp [ih]
    · rfl

/-- Adding makes a heap longer by one. -/
theorem length_push (before : α -> α -> Bool) (items : List α) (item : α) :
    (push before items item).length = items.length + 1 := by
  simp [push]

/-- Taking the first item makes a heap shorter by one. -/
theorem length_rest (before : α -> α -> Bool) (items : List α) :
    (rest before items).length = items.length - 1 := by
  cases items with
  | nil => rfl
  | cons first others =>
    cases others with
    | nil => rfl
    | cons second more => simp [rest, List.getLast?_cons]

end Heap
end BroadcastGraphics
