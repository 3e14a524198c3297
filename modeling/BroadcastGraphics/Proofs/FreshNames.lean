import BroadcastGraphics.FreshName
import BroadcastGraphics.Number.Decimal
import Mathlib.Data.List.Nodup
import Mathlib.Data.List.Perm.Subperm

/-!
# Numbered names are fresh

The decimal digits of a number determine it, so that two numbered names with one stem are equal
only for equal numbers.  A search through such names therefore ends at one that is not taken.
-/

namespace BroadcastGraphics

/-- Reading the digits of a number gives the number back. -/
theorem digitsValue_eq_ofDigitChars (digits : List Char) :
    digitsValue digits = Nat.ofDigitChars 10 digits 0 := by
  rw [Nat.ofDigitChars_eq_foldl]
  rfl

@[simp] theorem digitsValue_decimalDigits (value : Nat) :
    digitsValue (decimalDigits value) = value := by
  rw [digitsValue_eq_ofDigitChars]
  exact Nat.ofDigitChars_ten_toDigits

theorem decimalDigits_injective : Function.Injective decimalDigits :=
  Function.LeftInverse.injective digitsValue_decimalDigits

/-- Numbers after one stem give different names. -/
theorem stem_append_injective (stem : String) :
    Function.Injective fun number => stem ++ String.ofList (decimalDigits number) := by
  intro left right same
  have sameDigits : decimalDigits left = decimalDigits right := by
    have sameTexts := congrArg String.toList same
    simpa only [String.toList_append, String.toList_ofList, List.append_cancel_left_eq]
      using sameTexts
  exact decimalDigits_injective sameDigits

namespace FreshName

variable {taken : List String} {name : Nat -> String}

/-- A search that ends at a taken name has gone through all its tries. -/
theorem search_eq_add_of_mem
    (tries number : Nat)
    (used : name (search taken name tries number) ∈ taken) :
    search taken name tries number = number + tries := by
  induction tries generalizing number with
  | zero => rfl
  | succ tries ih =>
    unfold search at used ⊢
    by_cases passed : name number ∈ taken
    · rw [if_pos passed] at used ⊢
      rw [ih (number + 1) used]
      omega
    · rw [if_neg passed] at used
      exact absurd used passed

/-- The first free number has a free name: otherwise there would be more taken names than there
are. -/
theorem name_firstFree_notMem
    (injective : Function.Injective name)
    (start : Nat) : name (firstFree taken name start) ∉ taken := by
  intro used
  have exhausted : firstFree taken name start = start + taken.length :=
    search_eq_add_of_mem taken.length start used
  have allTaken : (List.range' start (taken.length + 1)).map name ⊆ taken := by
    intro key member
    obtain ⟨number, inRange, rfl⟩ := List.mem_map.1 member
    obtain ⟨step, within, rfl⟩ := List.mem_range'.1 inRange
    by_cases last : step = taken.length
    · rw [exhausted] at used
      rw [last, Nat.one_mul]
      exact used
    · refine mem_of_lt_search taken name taken.length start _ (by omega) ?_
      change _ < firstFree taken name start
      omega
  have distinct : ((List.range' start (taken.length + 1)).map name).Nodup :=
    (List.nodup_range' 1).map injective
  have tooMany := (distinct.subperm allTaken).length_le
  rw [List.length_map, List.length_range'] at tooMany
  omega

/-- All numbers from the start up to the first free one have taken names. -/
theorem mem_of_lt_firstFree
    {start passed : Nat}
    (fromStart : start ≤ passed)
    (before : passed < firstFree taken name start) : name passed ∈ taken :=
  mem_of_lt_search taken name taken.length start passed fromStart before

theorem le_firstFree (start : Nat) : start ≤ firstFree taken name start :=
  le_search taken name taken.length start

end FreshName
end BroadcastGraphics
