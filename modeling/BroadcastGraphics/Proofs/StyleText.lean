import BroadcastGraphics.Proofs.CarriedData
import BroadcastGraphics.Style

/-!
# Style rules keep halves of pairs apart

A style rule is put together from names in lower case, values and punctuation in ASCII.  Names are
split before capitals and lowered character by character, which turns no character into the half of
a pair and takes none away; so a rule holds no pair of halves if neither the names nor the values of
the style do.
-/

namespace BroadcastGraphics

open Text (KeepsApart)
open Text.HalfPair

namespace Text
namespace HalfPair

/-! ## Texts joined by ASCII -/

/-- Every character below the private ones is no half of a pair. -/
theorem not_half_of_lt
    {character : Char}
    (small : character.toNat < offset + 0xd800) :
    ¬ IsOpening character ∧ ¬ IsClosing character := by
  constructor <;>
  · rintro ⟨unit, half, _⟩
    have := (unit?_eq_some_iff _ _).1 half
    omega

/-- Texts stay without pairs when ASCII stands between them. -/
theorem Unpaired.join
    {before middle after : List Char}
    (first : Unpaired before)
    (ascii : ∀ character ∈ middle, character.toNat < 128)
    (nonempty : middle ≠ [])
    (second : Unpaired after) :
    Unpaired (before ++ (middle ++ after)) := by
  rw [unpaired_iff_keepsApart] at first second ⊢
  have noHalf : ∀ character ∈ middle, ¬ IsOpening character ∧ ¬ IsClosing character :=
    fun character member => not_half_of_lt (Nat.lt_trans (ascii character member) (by decide))
  have inner : KeepsApart IsOpening IsClosing middle :=
    Text.keepsApart_of_no_first fun character member => (noHalf character member).1
  refine first.append (inner.append second fun last isLast next _ both => ?_)
    fun last _ next isNext both => ?_
  · exact (noHalf last (List.mem_of_getLast? isLast)).1 both.1
  · rw [List.head?_append_of_ne_nil _ nonempty] at isNext
    exact (noHalf next (List.mem_of_mem_head? isNext)).2 both.2

/-- ASCII may stand behind such a text. -/
theorem Unpaired.concat
    {before after : List Char}
    (first : Unpaired before)
    (ascii : ∀ character ∈ after, character.toNat < 128) : Unpaired (before ++ after) := by
  cases after with
  | nil => rwa [List.append_nil]
  | cons next rest =>
    have bare : Unpaired [] := trivial
    have whole := first.join ascii (List.cons_ne_nil _ _) bare
    rwa [List.append_nil] at whole

/-- And it may stand in front of one. -/
theorem Unpaired.behind
    {before after : List Char}
    (second : Unpaired after)
    (ascii : ∀ character ∈ before, character.toNat < 128) : Unpaired (before ++ after) := by
  cases before with
  | nil => exact second
  | cons first rest =>
    have bare : Unpaired [] := trivial
    exact bare.join ascii (List.cons_ne_nil _ _) second

theorem unpaired_intercalate
    {separator : String}
    (ascii : ∀ character ∈ separator.toList, character.toNat < 128)
    (nonempty : separator.toList ≠ [])
    {parts : List String}
    (unpaired : ∀ part ∈ parts, Unpaired part.toList) :
    Unpaired (String.intercalate separator parts).toList := by
  induction parts with
  | nil => trivial
  | cons part rest ih =>
    rw [List.forall_mem_cons] at unpaired
    cases rest with
    | nil =>
      rw [String.intercalate_singleton]
      exact unpaired.1
    | cons second rest =>
      rw [String.intercalate_cons_cons, String.toList_append, String.toList_append,
        List.append_assoc]
      exact unpaired.1.join ascii nonempty (ih unpaired.2)

end HalfPair

/-! ## Lower case -/

/-- No run of small and capital letters reaches the halves of pairs. -/
theorem lowerRuns_below :
    ∀ run ∈ lowerRuns, (run.2.1 : Int) + run.2.2.2 < (offset + 0xd800 : Nat) := by
  decide +kernel

theorem mapRuns_cases
    (point : Nat) :
    mapRuns lowerRuns point = point ∨ mapRuns lowerRuns point < offset + 0xd800 := by
  unfold mapRuns
  split
  · rename_i run found
    have below := lowerRuns_below run (List.mem_of_find?_eq_some found)
    have inside := List.find?_some found
    simp only [Bool.and_eq_true, decide_eq_true_eq] at inside
    right
    omega
  · exact Or.inl rfl

/-- What a character is lowered to: itself if it is a half, and otherwise no halves. -/
def LowersTo (character : Char) (lowered : List Char) : Prop :=
  lowered = [character] ∨ ∀ other ∈ lowered, ¬ IsOpening other ∧ ¬ IsClosing other

theorem not_half_ofNat
    {point : Nat}
    (small : point < offset + 0xd800) :
    ¬ IsOpening (Char.ofNat point) ∧ ¬ IsClosing (Char.ofNat point) := by
  apply not_half_of_lt
  by_cases valid : point.isValidChar
  · rw [Char.ofNat, dif_pos valid]
    exact small
  · rw [Char.ofNat, dif_neg valid]
    decide

/-- The rest of a text is lowered behind what its first character is lowered to. -/
theorem lowerAfter_cons
    (before : List Char)
    (character : Char)
    (rest : List Char) :
    ∃ lowered, lowered ≠ [] ∧ LowersTo character lowered ∧
      lowerAfter before (character :: rest) = lowered ++ lowerAfter (character :: before) rest := by
  refine ⟨_, ?_, ?_, rfl⟩
  · split_ifs <;> exact List.cons_ne_nil _ _
  · split_ifs with ascii capital sigma final dotted
    · right
      rintro other member
      rw [List.mem_singleton.1 member]
      apply not_half_ofNat
      unfold offset
      omega
    · exact Or.inl rfl
    · right
      rintro other member
      rw [List.mem_singleton.1 member]
      exact not_half_of_lt (by decide)
    · right
      rintro other member
      rw [List.mem_singleton.1 member]
      exact not_half_of_lt (by decide)
    · right
      rintro other member
      simp only [List.mem_cons, List.not_mem_nil, or_false] at member
      rcases member with rfl | rfl <;> exact not_half_of_lt (by decide)
    · rcases mapRuns_cases character.toNat with same | small
      · left
        rw [same, Char.ofNat_toNat]
      · right
        rintro other member
        rw [List.mem_singleton.1 member]
        exact not_half_ofNat small

/-- Lowering leaves halves of pairs apart; the induction keeps in view which halves a text can start
with. -/
theorem keepsApart_lowerAfter
    {text : List Char}
    (apart : KeepsApart IsOpening IsClosing text)
    (before : List Char) :
    KeepsApart IsOpening IsClosing (lowerAfter before text) ∧
      ∀ next ∈ (lowerAfter before text).head?, IsClosing next -> text.head? = some next := by
  induction text generalizing before with
  | nil => exact ⟨.nil, fun _ isNext => nomatch isNext⟩
  | cons character rest ih =>
    obtain ⟨lowered, nonempty, lowers, same⟩ := lowerAfter_cons before character rest
    obtain ⟨later, starts⟩ := ih apart.tail (character :: before)
    rw [same, List.head?_append_of_ne_nil _ nonempty]
    rcases lowers with rfl | noHalves
    · refine ⟨later.cons fun next isNext both => ?_, fun next isNext _ => isNext⟩
      exact apart.rel_head? (starts next isNext both.2) both
    · refine ⟨?_, fun next isNext closing => ?_⟩
      · refine (keepsApart_of_no_first fun other member => (noHalves other member).1).append later ?_
        exact fun last isLast _ _ both => (noHalves last (List.mem_of_getLast? isLast)).1 both.1
      · exact absurd closing (noHalves next (List.mem_of_mem_head? isNext)).2

end Text

/-! ## Names and rules -/

namespace Naming

/-- A hyphen is put between halves of pairs at most. -/
theorem keepsApart_hyphenate
    {text : List Char}
    (apart : KeepsApart IsOpening IsClosing text)
    (afterWord : Bool) :
    KeepsApart IsOpening IsClosing (hyphenate afterWord text) ∧
      ∀ next ∈ (hyphenate afterWord text).head?, IsClosing next -> text.head? = some next := by
  induction text generalizing afterWord with
  | nil => exact ⟨.nil, fun _ isNext => nomatch isNext⟩
  | cons character rest ih =>
    obtain ⟨later, starts⟩ := ih apart.tail (endsWord character)
    have whole : KeepsApart IsOpening IsClosing
        (character :: hyphenate (endsWord character) rest) :=
      later.cons fun next isNext both => apart.rel_head? (starts next isNext both.2) both
    have hyphen : ¬ IsOpening '-' ∧ ¬ IsClosing '-' := not_half_of_lt (by decide)
    rw [hyphenate]
    split
    · refine ⟨whole.cons fun _ _ both => hyphen.1 both.1, fun next isNext closing => ?_⟩
      cases isNext
      exact absurd closing hyphen.2
    · exact ⟨whole, fun next isNext _ => isNext⟩

theorem unpaired_kebabCase
    {name : String}
    (unpaired : Unpaired name.toList) :
    Unpaired (kebabCase name).toList := by
  rw [unpaired_iff_keepsApart] at unpaired ⊢
  unfold kebabCase Text.lower
  rw [String.toList_ofList]
  exact (Text.keepsApart_lowerAfter (keepsApart_hyphenate unpaired false).1 []).1

end Naming

namespace Style

-- How a rule is put together shows without a look into its texts, which would spell them out.
attribute [local irreducible] Unpaired

theorem unpaired_declaration
    {property : String × String}
    (name : Unpaired property.1.toList)
    (value : Unpaired property.2.toList) :
    Unpaired (declaration property).toList := by
  have colon : ∀ character ∈ ": ".toList, character.toNat < 128 := by decide
  have semicolon : ∀ character ∈ ";".toList, character.toNat < 128 := by decide
  unfold declaration
  rw [String.toList_append, String.toList_append, String.toList_append]
  apply Unpaired.concat _ semicolon
  rw [List.append_assoc]
  apply Unpaired.join (Naming.unpaired_kebabCase name) colon _ value
  decide

theorem unpaired_declarations
    {style : Table String}
    (unpaired : ∀ property ∈ style, Unpaired property.1.toList ∧ Unpaired property.2.toList) :
    Unpaired (declarations style).toList := by
  apply unpaired_intercalate (by decide) (by decide)
  rw [List.forall_mem_map]
  intro property isThere
  apply unpaired_declaration
  · exact (unpaired property isThere).1
  · exact (unpaired property isThere).2

theorem unpaired_rule
    {element : Element}
    (id : Unpaired element.id.toList)
    (style : ∀ property ∈ element.style,
      Unpaired property.1.toList ∧ Unpaired property.2.toList) :
    Unpaired (rule element).toList := by
  have selector : Unpaired (".element-" ++ element.id).toList := by
    rw [String.toList_append]
    apply Unpaired.behind id
    decide
  unfold rule
  dsimp only
  split
  · rw [String.toList_append]
    apply Unpaired.concat selector
    decide
  · rw [String.toList_append, String.toList_append, String.toList_append]
    apply Unpaired.concat
    · rw [List.append_assoc]
      apply Unpaired.join selector _ _ (unpaired_declarations style)
      · decide
      · decide
    · decide

/-- The rules of elements hold no pair of halves if their ids and styles do not. -/
theorem unpaired_rules
    {elements : List Element}
    (ids : ∀ element ∈ elements, Unpaired element.id.toList)
    (styles : ∀ element ∈ elements, ∀ property ∈ element.style,
      Unpaired property.1.toList ∧ Unpaired property.2.toList) :
    Unpaired (rules elements).toList := by
  apply unpaired_intercalate (by decide) (by decide)
  rw [List.forall_mem_map]
  intro element isThere
  apply unpaired_rule
  · exact ids element isThere
  · exact styles element isThere

end Style
end BroadcastGraphics
