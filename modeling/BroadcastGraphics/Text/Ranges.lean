/-!
# Ranges of characters

Character classes of the Unicode standard are given as lists of inclusive code-point ranges, and
a character belongs to the class exactly when one of the ranges holds its code point.
-/

namespace BroadcastGraphics
namespace Text

/-- What is said of every character or byte of a text is decided along the text, and not over all
characters or bytes there are. -/
instance (priority := high) decidableForallMem
    {α : Type}
    {property : α -> Prop}
    [DecidablePred property]
    (text : List α) : Decidable (∀ unit ∈ text, property unit) :=
  List.decidableBAll property text

/-- Some inclusive range of the list holds the character's code point. -/
def inRanges (ranges : List (Nat × Nat)) (character : Char) : Bool :=
  ranges.any fun range => range.1 ≤ character.toNat && character.toNat ≤ range.2

/-- Membership in a class is membership in one of its ranges. -/
theorem inRanges_iff (ranges : List (Nat × Nat)) (character : Char) :
    inRanges ranges character = true ↔
      ∃ range ∈ ranges, range.1 ≤ character.toNat ∧ character.toNat ≤ range.2 := by
  simp [inRanges]

end Text
end BroadcastGraphics
