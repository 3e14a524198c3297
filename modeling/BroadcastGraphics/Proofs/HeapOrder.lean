import BroadcastGraphics.Heap
import Mathlib.Data.List.Basic

/-!
# The order of heaps

A heap is ordered when no item comes before the one above it.  For a relation that is asymmetric
and whose negation is transitive, adding an item and taking the first one keep the order, and the
first item of an ordered heap comes after none.  Whatever the relation, both operations only move
items about: the items after an addition are the old ones and the new one, and the items after a
removal are those behind the first.
-/

namespace BroadcastGraphics
namespace Heap

variable {α : Type} {before : α -> α -> Bool}

/-- A relation that can order the items of a list: asymmetric, with a transitive negation. -/
structure Orders (before : α -> α -> Bool) (items : List α) : Prop where
  asymm : ∀ first ∈ items, ∀ second ∈ items,
    before first second = true -> before second first = false
  trans : ∀ first ∈ items, ∀ second ∈ items, ∀ third ∈ items,
    before second first = false -> before third second = false -> before third first = false

/-- No item comes before the one above it. -/
def IsOrdered (before : α -> α -> Bool) (items : List α) : Prop :=
  ∀ place, 0 < place -> isBefore before items place (above place) = false

/-- A relation orders the items of a shorter list as well. -/
theorem Orders.mono
    {items others : List α}
    (orders : Orders before items)
    (sub : others ⊆ items) :
    Orders before others where
  asymm := fun first firstIn second secondIn =>
    orders.asymm first (sub firstIn) second (sub secondIn)
  trans := fun first firstIn second secondIn third thirdIn =>
    orders.trans first (sub firstIn) second (sub secondIn) third (sub thirdIn)

/-! ## Comparing places -/

theorem isBefore_eq_false_of_length_le
    (items : List α)
    {left right : Nat}
    (outside : items.length ≤ left) :
    isBefore before items left right = false := by
  unfold isBefore
  rw [List.getElem?_eq_none outside]

theorem isBefore_of_getElem?
    {items : List α}
    {left right : Nat}
    {first second : α}
    (leftItem : items[left]? = some first)
    (rightItem : items[right]? = some second) :
    isBefore before items left right = before first second := by
  unfold isBefore
  rw [leftItem, rightItem]

theorem Orders.isBefore_asymm
    {items : List α}
    (orders : Orders before items)
    {left right : Nat}
    (comes : isBefore before items left right = true) :
    isBefore before items right left = false := by
  unfold isBefore at comes ⊢
  cases leftItem : items[left]? with
  | none => simp [leftItem] at comes
  | some first =>
    cases rightItem : items[right]? with
    | none => simp
    | some second =>
      simp only [leftItem, rightItem] at comes
      exact orders.asymm first (List.mem_of_getElem? leftItem) second
        (List.mem_of_getElem? rightItem) comes

/-- What is not before a middle item is not before an item that the middle one is not before. -/
theorem Orders.isBefore_trans
    {items : List α}
    (orders : Orders before items)
    {low middle high : Nat}
    (inside : middle < items.length)
    (lower : isBefore before items middle low = false)
    (upper : isBefore before items high middle = false) :
    isBefore before items high low = false := by
  unfold isBefore at lower upper ⊢
  have middleItem : items[middle]? = some items[middle] := List.getElem?_eq_getElem inside
  rw [middleItem] at lower upper
  cases lowItem : items[low]? with
  | none =>
    cases items[high]? <;> rfl
  | some first =>
    cases highItem : items[high]? with
    | none => rfl
    | some third =>
      rw [lowItem] at lower
      rw [highItem] at upper
      exact orders.trans first (List.mem_of_getElem? lowItem) _
        (List.getElem_mem inside) third (List.mem_of_getElem? highItem) lower upper

/-! ## Exchanging two places -/

theorem swap_eq_set
    {items : List α}
    {left right : Nat}
    (leftInside : left < items.length)
    (rightInside : right < items.length) :
    swap items left right = (items.set left items[right]).set right items[left] := by
  unfold swap
  rw [List.getElem?_eq_getElem leftInside, List.getElem?_eq_getElem rightInside]

/-- An exchange only moves items. -/
theorem swap_perm
    (items : List α)
    (left right : Nat) :
    (swap items left right).Perm items := by
  by_cases leftInside : left < items.length
  · by_cases rightInside : right < items.length
    · rw [swap_eq_set leftInside rightInside]
      exact List.set_set_perm leftInside rightInside
    · unfold swap
      rw [List.getElem?_eq_none (by omega : items.length ≤ right)]
      cases items[left]? <;> exact List.Perm.refl _
  · unfold swap
    rw [List.getElem?_eq_none (by omega : items.length ≤ left)]

/-- The place whose item stands at a place after an exchange. -/
def exchanged (left right place : Nat) : Nat :=
  if place = left then right else if place = right then left else place

theorem getElem?_swap
    {items : List α}
    {left right : Nat}
    (leftInside : left < items.length)
    (rightInside : right < items.length)
    (place : Nat) :
    (swap items left right)[place]? = items[exchanged left right place]? := by
  rw [swap_eq_set leftInside rightInside]
  unfold exchanged
  by_cases atLeft : place = left
  · subst atLeft
    by_cases atRight : place = right
    · subst atRight
      simp [leftInside]
    · simp [leftInside, rightInside, Ne.symm atRight]
  · by_cases atRight : place = right
    · subst atRight
      simp [leftInside, rightInside, atLeft]
    · simp [Ne.symm atLeft, Ne.symm atRight, atLeft, atRight]

/-- Comparing after an exchange is comparing the items that were exchanged. -/
theorem isBefore_swap
    {items : List α}
    {left right : Nat}
    (leftInside : left < items.length)
    (rightInside : right < items.length)
    (first second : Nat) :
    isBefore before (swap items left right) first second =
      isBefore before items (exchanged left right first) (exchanged left right second) := by
  unfold isBefore
  rw [getElem?_swap leftInside rightInside, getElem?_swap leftInside rightInside]

/-! ## Rising -/

/-- Ordered but for one place: its item may come before the one above it, and the items below the
place do not come before the one above it either. -/
structure IsRising (before : α -> α -> Bool) (items : List α) (risen : Nat) : Prop where
  elsewhere : ∀ place, 0 < place -> place ≠ risen ->
    isBefore before items place (above place) = false
  across : 0 < risen -> ∀ place, 0 < place -> above place = risen ->
    isBefore before items place (above risen) = false

/-- An item that does not come before the one above it has risen far enough. -/
theorem IsRising.isOrdered
    {items : List α}
    {risen : Nat}
    (rising : IsRising before items risen)
    (rest : 0 < risen -> isBefore before items risen (above risen) = false) :
    IsOrdered before items := by
  intro place positive
  by_cases here : place = risen
  · subst here
    exact rest positive
  · exact rising.elsewhere place positive here

/-- After an exchange with the item above, the place above is the one that may be out of order. -/
theorem IsRising.swap_above
    {items : List α}
    {risen : Nat}
    (orders : Orders before items)
    (rising : IsRising before items risen)
    (positive : 0 < risen)
    (inside : risen < items.length)
    (comes : isBefore before items risen (above risen) = true) :
    IsRising before (swap items risen (above risen)) (above risen) := by
  have upwards : above risen < risen := by unfold above; omega
  have aboveInside : above risen < items.length := by omega
  have settled : isBefore before items (above risen) risen = false :=
    orders.isBefore_asymm comes
  have sibling : ∀ place, 0 < place -> place ≠ risen -> above place = above risen ->
      isBefore before items place (above risen) = false := by
    intro place placePositive other same
    rw [← same]
    exact rising.elsewhere place placePositive other
  constructor
  · intro place placePositive notAbove
    rw [isBefore_swap inside aboveInside]
    by_cases atRisen : place = risen
    · subst atRisen
      simpa [exchanged, Nat.ne_of_lt upwards] using settled
    · by_cases belowRisen : above place = risen
      · have across := rising.across positive place placePositive belowRisen
        simpa [exchanged, atRisen, notAbove, belowRisen] using across
      · by_cases same : above place = above risen
        · have lower := sibling place placePositive atRisen same
          have apart := orders.isBefore_trans aboveInside settled lower
          simpa [exchanged, atRisen, notAbove, same, Nat.ne_of_lt upwards] using apart
        · have untouched := rising.elsewhere place placePositive atRisen
          simpa [exchanged, atRisen, notAbove, belowRisen, same] using untouched
  · intro abovePositive place placePositive belowAbove
    have further : above (above risen) < above risen := by
      have : above (above risen) ≤ (above risen - 1) := by
        unfold above
        omega
      omega
    have upper := rising.elsewhere (above risen) abovePositive (by omega)
    rw [isBefore_swap inside aboveInside]
    by_cases atRisen : place = risen
    · subst atRisen
      simpa [exchanged, Nat.ne_of_lt further, Nat.ne_of_lt (Nat.lt_trans further upwards)]
        using upper
    · have lower := sibling place placePositive atRisen belowAbove
      have notAbove : place ≠ above risen := by
        rintro rfl
        omega
      have apart := orders.isBefore_trans aboveInside upper lower
      simpa [exchanged, atRisen, notAbove, Nat.ne_of_lt further,
        Nat.ne_of_lt (Nat.lt_trans further upwards)] using apart

theorem rise_perm
    (before : α -> α -> Bool)
    (steps : Nat)
    (items : List α)
    (place : Nat) :
    (rise before steps items place).Perm items := by
  induction steps generalizing items place with
  | zero => exact List.Perm.refl _
  | succ steps ih =>
    unfold rise
    split
    · exact (ih _ _).trans (swap_perm _ _ _)
    · exact List.Perm.refl _

/-- Rising restores the order if there are as many steps as places above. -/
theorem IsRising.isOrdered_rise
    {items : List α}
    {risen : Nat}
    (steps : Nat)
    (orders : Orders before items)
    (rising : IsRising before items risen)
    (inside : risen < items.length)
    (enough : risen ≤ steps) :
    IsOrdered before (rise before steps items risen) := by
  induction steps generalizing items risen with
  | zero => exact rising.isOrdered (by omega)
  | succ steps ih =>
    unfold rise
    split
    · rename_i comes
      obtain ⟨positive, comes⟩ : 0 < risen ∧ isBefore before items risen (above risen) = true := by
        simpa using comes
      have upwards : above risen < risen := by unfold above; omega
      refine ih (orders.mono (swap_perm _ _ _).subset)
        (rising.swap_above orders positive inside comes) ?_ (by omega)
      rw [length_swap]
      omega
    · rename_i stays
      refine rising.isOrdered fun positive => ?_
      simpa [positive] using stays

/-! ## Sinking -/

/-- Ordered but for one place and those below it, and the items below the place do not come before
the one above it. -/
structure IsSinking (before : α -> α -> Bool) (items : List α) (sunk : Nat) : Prop where
  elsewhere : ∀ place, 0 < place -> place ≠ sunk -> above place ≠ sunk ->
    isBefore before items place (above place) = false
  across : 0 < sunk -> ∀ place, 0 < place -> above place = sunk ->
    isBefore before items place (above sunk) = false

/-- The earlier of the two places below a place lies below it and inside. -/
theorem earlierBelow_spec
    (before : α -> α -> Bool)
    (items : List α)
    {place : Nat}
    (inside : 2 * place + 1 < items.length) :
    above (earlierBelow before items place) = place ∧
      place < earlierBelow before items place ∧
      earlierBelow before items place < items.length := by
  unfold earlierBelow above
  simp only
  split
  · rename_i second
    simp only [Bool.and_eq_true, decide_eq_true_eq] at second
    omega
  · omega

/-- The other place below does not come before the earlier one. -/
theorem isBefore_earlierBelow
    {items : List α}
    (orders : Orders before items)
    {place other : Nat}
    (positive : 0 < other)
    (below : above other = place)
    (different : other ≠ earlierBelow before items place) :
    isBefore before items other (earlierBelow before items place) = false := by
  have either : other = 2 * place + 1 ∨ other = 2 * place + 2 := by
    unfold above at below
    omega
  unfold earlierBelow at different ⊢
  simp only at different ⊢
  rcases either with first | second
  · subst first
    split
    · rename_i later
      simp only [Bool.and_eq_true, Bool.not_eq_true'] at later
      exact later.2
    · rename_i earlier
      simp only [if_neg earlier, ne_eq, not_true_eq_false] at different
  · subst second
    split
    · rename_i later
      simp only [if_pos later, ne_eq, not_true_eq_false] at different
    · rename_i earlier
      by_cases inside : 2 * place + 2 < items.length
      · have comes : isBefore before items (2 * place + 1) (2 * place + 2) = true := by
          simpa [inside] using earlier
        exact orders.isBefore_asymm comes
      · exact isBefore_eq_false_of_length_le items (by omega)

/-- After an exchange with the earlier item below, the place below is the one that may be out of
order. -/
theorem IsSinking.swap_below
    {items : List α}
    {sunk : Nat}
    (orders : Orders before items)
    (sinking : IsSinking before items sunk)
    (inside : 2 * sunk + 1 < items.length) :
    IsSinking before (swap items sunk (earlierBelow before items sunk))
      (earlierBelow before items sunk) := by
  obtain ⟨below, downwards, belowInside⟩ := @earlierBelow_spec _ before items _ inside
  have sunkInside : sunk < items.length := by omega
  generalize chosen : earlierBelow before items sunk = lower at *
  constructor
  · intro place positive notLower notBelowLower
    rw [isBefore_swap sunkInside belowInside]
    by_cases atSunk : place = sunk
    · subst atSunk
      have higher : above place ≠ place := by unfold above; omega
      have across := sinking.across positive lower (by omega) below
      simpa [exchanged, higher, notBelowLower] using across
    · by_cases belowSunk : above place = sunk
      · have sibling := isBefore_earlierBelow orders positive belowSunk (by rw [chosen]; exact notLower)
        rw [chosen] at sibling
        simpa [exchanged, atSunk, notLower, belowSunk] using sibling
      · have untouched := sinking.elsewhere place positive atSunk belowSunk
        simpa [exchanged, atSunk, notLower, belowSunk, notBelowLower] using untouched
  · intro _ place positive belowLower
    have notSunk : place ≠ sunk := by
      unfold above at belowLower
      omega
    have notLower : place ≠ lower := by
      unfold above at belowLower
      omega
    have untouched := sinking.elsewhere place positive notSunk (by omega)
    rw [isBefore_swap sunkInside belowInside, below]
    simpa [exchanged, notSunk, notLower, belowLower] using untouched

theorem sink_perm
    (before : α -> α -> Bool)
    (steps : Nat)
    (items : List α)
    (place : Nat) :
    (sink before steps items place).1.Perm items := by
  induction steps generalizing items place with
  | zero => exact List.Perm.refl _
  | succ steps ih =>
    unfold sink
    split
    · exact (ih _ _).trans (swap_perm _ _ _)
    · exact List.Perm.refl _

/-- At the bottom nothing lies below, so the item that sank may rise from there. -/
theorem IsSinking.isRising
    {items : List α}
    {sunk : Nat}
    (sinking : IsSinking before items sunk)
    (bottom : items.length ≤ 2 * sunk + 1) :
    IsRising before items sunk := by
  have nothingBelow : ∀ place, 0 < place -> above place = sunk -> items.length ≤ place := by
    intro place positive below
    unfold above at below
    omega
  constructor
  · intro place positive other
    by_cases below : above place = sunk
    · exact isBefore_eq_false_of_length_le items (nothingBelow place positive below)
    · exact sinking.elsewhere place positive other below
  · intro _ place positive below
    exact isBefore_eq_false_of_length_le items (nothingBelow place positive below)

/-- Sinking ends inside, at a place from which the item may rise. -/
theorem IsSinking.isRising_sink
    {items : List α}
    {sunk : Nat}
    (steps : Nat)
    (orders : Orders before items)
    (sinking : IsSinking before items sunk)
    (inside : sunk < items.length)
    (enough : items.length ≤ sunk + steps) :
    IsRising before (sink before steps items sunk).1 (sink before steps items sunk).2 ∧
      (sink before steps items sunk).2 < items.length := by
  induction steps generalizing items sunk with
  | zero => omega
  | succ steps ih =>
    unfold sink
    split
    · rename_i below
      obtain ⟨_, downwards, belowInside⟩ := @earlierBelow_spec _ before items _ below
      have deeper := ih (orders.mono (swap_perm _ _ _).subset) (sinking.swap_below orders below)
        (by rw [length_swap]; exact belowInside) (by rw [length_swap]; omega)
      rwa [length_swap] at deeper
    · exact ⟨sinking.isRising (by omega), inside⟩

/-! ## Adding and taking -/

/-- An addition leaves the items and the new one. -/
theorem push_perm
    (before : α -> α -> Bool)
    (items : List α)
    (item : α) :
    (push before items item).Perm (item :: items) :=
  (rise_perm _ _ _ _).trans (List.perm_append_singleton item items)

theorem rest_concat
    (before : α -> α -> Bool)
    (first last : α)
    (others : List α) :
    rest before (first :: (others ++ [last])) =
      rise before (others.length + 1) (sink before (others.length + 1) (last :: others) 0).1
        (sink before (others.length + 1) (last :: others) 0).2 := by
  simp [rest]

/-- Taking the first item leaves the others. -/
theorem rest_perm
    (before : α -> α -> Bool)
    (first : α)
    (others : List α) :
    (rest before (first :: others)).Perm others := by
  obtain rfl | ⟨others, last, rfl⟩ := List.eq_nil_or_concat' others
  · exact List.Perm.refl _
  · rw [rest_concat]
    exact (rise_perm _ _ _ _).trans
      ((sink_perm _ _ _ _).trans (List.perm_append_singleton last others).symm)

theorem IsOrdered.nil : IsOrdered before ([] : List α) := by
  intro place _
  exact isBefore_eq_false_of_length_le _ (Nat.zero_le _)

theorem isBefore_append_left
    (items more : List α)
    {left right : Nat}
    (leftInside : left < items.length)
    (rightInside : right < items.length) :
    isBefore before (items ++ more) left right = isBefore before items left right := by
  unfold isBefore
  rw [List.getElem?_append_left leftInside, List.getElem?_append_left rightInside]

/-- An addition keeps the order. -/
theorem IsOrdered.push
    {items : List α}
    {item : α}
    (orders : Orders before (item :: items))
    (ordered : IsOrdered before items) :
    IsOrdered before (push before items item) := by
  have sub : items ++ [item] ⊆ item :: items := (List.perm_append_singleton item items).subset
  refine IsRising.isOrdered_rise items.length (orders.mono sub) ?_ (by simp) (Nat.le_refl _)
  constructor
  · intro place positive notLast
    by_cases inside : place < items.length
    · have upwards : above place < place := by unfold above; omega
      rw [isBefore_append_left items [item] inside (by omega)]
      exact ordered place positive
    · exact isBefore_eq_false_of_length_le _ (by simp; omega)
  · intro _ place positive below
    refine isBefore_eq_false_of_length_le _ ?_
    unfold above at below
    simp
    omega

/-- Taking the first item keeps the order. -/
theorem IsOrdered.rest
    {items : List α}
    (orders : Orders before items)
    (ordered : IsOrdered before items) :
    IsOrdered before (rest before items) := by
  cases items with
  | nil => exact IsOrdered.nil
  | cons first others =>
    obtain rfl | ⟨others, last, rfl⟩ := List.eq_nil_or_concat' others
    · exact IsOrdered.nil
    · have sub : last :: others ⊆ first :: (others ++ [last]) :=
        List.subset_cons_of_subset first (List.perm_append_singleton last others).symm.subset
      have sameBehind : ∀ place, 0 < place -> place < others.length + 1 ->
          (last :: others)[place]? = (first :: (others ++ [last]))[place]? := by
        intro place positive inside
        obtain ⟨previous, rfl⟩ : ∃ previous, place = previous + 1 := ⟨place - 1, by omega⟩
        rw [List.getElem?_cons_succ, List.getElem?_cons_succ,
          List.getElem?_append_left (by omega)]
      have sinking : IsSinking before (last :: others) 0 := by
        constructor
        · intro place positive _ notTop
          by_cases inside : place < others.length + 1
          · have upwards : above place < place := by unfold above; omega
            have kept := ordered place positive
            unfold isBefore at kept ⊢
            rw [sameBehind place positive inside,
              sameBehind (above place) (by omega) (by omega)]
            exact kept
          · exact isBefore_eq_false_of_length_le _ (by simp only [List.length_cons]; omega)
        · intro impossible
          omega
      have shorter := orders.mono sub
      obtain ⟨rising, inside⟩ := sinking.isRising_sink (others.length + 1) shorter
        (by simp) (by simp)
      rw [rest_concat]
      refine rising.isOrdered_rise (others.length + 1)
        (shorter.mono (sink_perm _ _ _ _).subset) ?_ ?_
      · rw [length_sink]
        exact inside
      · simp only [List.length_cons] at inside
        omega

/-- No item of an ordered heap comes before the first one. -/
theorem IsOrdered.first_le
    {items : List α}
    (orders : Orders before items)
    (ordered : IsOrdered before items)
    (place : Nat) :
    isBefore before items place 0 = false := by
  induction place using Nat.strongRecOn with
  | ind place ih =>
    by_cases inside : place < items.length
    · by_cases top : place = 0
      · subst top
        cases comes : isBefore before items 0 0 with
        | false => rfl
        | true => exact comes ▸ orders.isBefore_asymm comes
      · have upwards : above place < place := by unfold above; omega
        exact orders.isBefore_trans (by omega) (ih (above place) upwards)
          (ordered place (by omega))
    · exact isBefore_eq_false_of_length_le items (by omega)

/-- An item of an ordered heap does not come before the one that is taken next. -/
theorem IsOrdered.not_before_head
    {first : α}
    {others : List α}
    (orders : Orders before (first :: others))
    (ordered : IsOrdered before (first :: others))
    {item : α}
    (member : item ∈ first :: others) :
    before item first = false := by
  obtain ⟨place, found⟩ := List.getElem?_of_mem member
  have compared := ordered.first_le orders place
  rwa [isBefore_of_getElem? found (List.getElem?_cons_zero)] at compared

end Heap
end BroadcastGraphics
