/-!
# Fresh names

Numbered names are tried one after the other until one is found that is not taken.  When no two
numbers give one name, a search through as many numbers as there are taken names is enough.
-/

namespace BroadcastGraphics
namespace FreshName

/-- The first of a bounded number of tries whose name is not taken, or the number after the last
one. -/
def search (taken : List String) (name : Nat -> String) : Nat -> Nat -> Nat
  | 0, number => number
  | tries + 1, number =>
      if name number ∈ taken then search taken name tries (number + 1) else number

/-- The first number from a start on whose name is not taken. -/
def firstFree (taken : List String) (name : Nat -> String) (start : Nat) : Nat :=
  search taken name taken.length start

/-- The search does not go back. -/
theorem le_search (taken : List String) (name : Nat -> String) (tries number : Nat) :
    number ≤ search taken name tries number := by
  induction tries generalizing number with
  | zero => exact Nat.le_refl _
  | succ tries ih =>
    unfold search
    split
    · exact Nat.le_trans (Nat.le_succ _) (ih _)
    · exact Nat.le_refl _

/-- Every number that the search passes over has a taken name. -/
theorem mem_of_lt_search (taken : List String) (name : Nat -> String) (tries number passed : Nat)
    (from_start : number ≤ passed) (before : passed < search taken name tries number) :
    name passed ∈ taken := by
  induction tries generalizing number with
  | zero => simp only [search] at before; omega
  | succ tries ih =>
    unfold search at before
    split at before
    · rename_i used
      by_cases here : passed = number
      · exact here ▸ used
      · exact ih (number + 1) (by omega) before
    · omega

end FreshName
end BroadcastGraphics
