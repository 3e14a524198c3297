import BroadcastGraphics.Identifier
import BroadcastGraphics.Proofs.DecimalNumber
import BroadcastGraphics.Text.HalfPair

/-!
# The characters of ids

Ids are made of ASCII letters, digits, hyphens and underscores, perhaps with one line break at the
end.  So they hold no halves of pairs, and an id goes on being one when digits are put behind it.
-/

namespace BroadcastGraphics
namespace Identifier

/-- Nothing but a line break is lost at the end. -/
theorem mem_withoutFinalBreak
    {text : List Char}
    {character : Char}
    (member : character ∈ text) :
    character ∈ withoutFinalBreak text ∨ character = '\n' := by
  unfold withoutFinalBreak
  split
  · rename_i last
    rw [← List.dropLast_append_getLast? '\n' (eq_of_beq last)] at member
    exact (List.mem_append.1 member).imp_right List.mem_singleton.1
  · exact Or.inl member

theorem withoutFinalBreak_of_notMem
    {text : List Char}
    (noBreak : '\n' ∉ text) :
    withoutFinalBreak text = text := by
  unfold withoutFinalBreak
  rw [if_neg]
  rw [beq_iff_eq]
  exact fun last => noBreak (List.mem_of_getLast? last)

theorem ne_nil_of_withoutFinalBreak
    {text : List Char}
    (nonempty : withoutFinalBreak text ≠ []) :
    text ≠ [] := by
  rintro rfl
  exact nonempty rfl

/-! ## Characters -/

/-- What each of the first codes has is had by every character of ASCII. -/
@[elab_as_elim]
theorem of_ascii
    {motive : Char -> Prop}
    (character : Char)
    (ascii : character.toNat < 128)
    (each : ∀ code < 128, motive (Char.ofNat code)) : motive character := by
  have known := each character.toNat ascii
  rwa [Char.ofNat_toNat] at known

theorem toNat_le_of_isLetter
    {character : Char}
    (letter : isLetter character = true) :
    character.toNat ≤ 122 := by
  unfold isLetter isSmallLetter at letter
  simp only [Bool.or_eq_true, Bool.and_eq_true, decide_eq_true_eq] at letter
  rcases letter with ⟨_, small⟩ | ⟨_, capital⟩
  · exact small
  · exact Nat.le_trans capital (by decide)

theorem toNat_le_of_isAsciiDigit
    {character : Char}
    (digit : Text.isAsciiDigit character = true) :
    character.toNat ≤ 122 := by
  unfold Text.isAsciiDigit at digit
  simp only [Bool.and_eq_true, decide_eq_true_eq] at digit
  exact Nat.le_trans digit.2 (by decide)

theorem toNat_le_of_isElementIdCharacter
    {character : Char}
    (allowed : isElementIdCharacter character = true) :
    character.toNat ≤ 122 := by
  unfold isElementIdCharacter at allowed
  simp only [Bool.or_eq_true, beq_iff_eq] at allowed
  rcases allowed with ((letter | digit) | rfl) | rfl
  · exact toNat_le_of_isLetter letter
  · exact toNat_le_of_isAsciiDigit digit
  · decide
  · decide

theorem toNat_le_of_isSlugCharacter
    {character : Char}
    (allowed : isSlugCharacter character = true) :
    character.toNat ≤ 122 := by
  refine toNat_le_of_isElementIdCharacter ?_
  unfold isSlugCharacter at allowed
  unfold isElementIdCharacter isLetter
  simp only [Bool.or_eq_true] at allowed ⊢
  tauto

/-- A character of ASCII stands for no half of a pair. -/
theorem isHalf_eq_false
    {character : Char}
    (small : character.toNat ≤ 122) :
    Text.HalfPair.isHalf character = false := by
  unfold Text.HalfPair.isHalf Text.HalfPair.unit? Text.HalfPair.offset
  rw [if_neg]
  · rfl
  · rw [Bool.and_eq_true, decide_eq_true_eq, decide_eq_true_eq]
    omega

/-! ## Ids -/

/-- An element id has no further characters than those of ids and a line break. -/
theorem mem_of_isElementId
    {id : String}
    (isId : isElementId id = true)
    {character : Char}
    (member : character ∈ id.toList) :
    isElementIdCharacter character = true ∨ character = '\n' := by
  unfold isElementId at isId
  split at isId
  · rename_i first rest split
    rw [Bool.and_eq_true, List.all_eq_true] at isId
    refine (mem_withoutFinalBreak member).imp_left fun kept => ?_
    rw [split] at kept
    rcases List.mem_cons.1 kept with rfl | later
    · have start := isId.1
      unfold isElementIdCharacter
      simp only [Bool.or_eq_true] at start ⊢
      tauto
    · exact isId.2 character later
  · cases isId

theorem ne_nil_of_isElementId
    {id : String}
    (isId : isElementId id = true) : id.toList ≠ [] := by
  unfold isElementId at isId
  split at isId
  · rename_i first rest split
    exact ne_nil_of_withoutFinalBreak (split ▸ List.cons_ne_nil first rest)
  · cases isId

theorem toNat_le_of_isElementId
    {text : String}
    (isId : isElementId text = true) :
    text.toList ≠ [] ∧ ∀ character ∈ text.toList, character.toNat ≤ 122 := by
  refine ⟨ne_nil_of_isElementId isId, fun character member => ?_⟩
  rcases mem_of_isElementId isId member with allowed | rfl
  · exact toNat_le_of_isElementIdCharacter allowed
  · decide

/-- A template id is made of the characters of such ids, with or without a line break behind them. -/
theorem exists_core
    {id : String}
    (slug : isSlug id = true) :
    ∃ core tail, id.toList = core ++ tail ∧
      (∀ character ∈ core, isSlugCharacter character = true) ∧ (tail = [] ∨ tail = ['\n']) := by
  have allowed := List.all_eq_true.1 (Bool.and_eq_true_iff.1 slug).2
  unfold withoutFinalBreak at allowed
  split at allowed
  · rename_i last
    exact ⟨_, ['\n'], (List.dropLast_append_getLast? '\n' (eq_of_beq last)).symm, allowed,
      Or.inr rfl⟩
  · exact ⟨_, [], (List.append_nil _).symm, allowed, Or.inl rfl⟩

/-- A template id has no further characters than those of ids and a line break. -/
theorem mem_of_isSlug
    {id : String}
    (slug : isSlug id = true)
    {character : Char}
    (member : character ∈ id.toList) :
    isSlugCharacter character = true ∨ character = '\n' := by
  have allowed := List.all_eq_true.1 (Bool.and_eq_true_iff.1 slug).2
  exact (mem_withoutFinalBreak member).imp_left (allowed character)

theorem notMem_of_isSlug
    {id : String}
    (slug : isSlug id = true)
    {character : Char}
    (foreign : isSlugCharacter character = false)
    (noBreak : character ≠ '\n') :
    character ∉ id.toList := by
  intro member
  rcases mem_of_isSlug slug member with allowed | isBreak
  · exact Bool.false_ne_true (foreign.symm.trans allowed)
  · exact noBreak isBreak

theorem toNat_le_of_isSlug
    {text : String}
    (slug : isSlug text = true) :
    ∀ character ∈ text.toList, character.toNat ≤ 122 := by
  intro character member
  rcases mem_of_isSlug slug member with allowed | rfl
  · exact toNat_le_of_isSlugCharacter allowed
  · decide

/-- The characters are those of an element id without a line break. -/
structure SpellsElementId (text : List Char) : Prop where
  start : ∃ first ∈ text.head?, isLetter first = true ∨ first = '_'
  allowed : ∀ character ∈ text, isElementIdCharacter character = true

theorem SpellsElementId.isElementId
    {text : List Char}
    (spells : SpellsElementId text) :
    isElementId (String.ofList text) = true := by
  have noBreak : '\n' ∉ text := fun member => absurd (spells.allowed '\n' member) (by decide)
  obtain ⟨first, isFirst, start⟩ := spells.start
  obtain ⟨rest, rfl⟩ := List.head?_eq_some_iff.1 isFirst
  unfold Identifier.isElementId
  rw [String.toList_ofList, withoutFinalBreak_of_notMem noBreak]
  dsimp only
  rw [Bool.and_eq_true, Bool.or_eq_true, beq_iff_eq, List.all_eq_true]
  exact ⟨start, fun character member => spells.allowed character (List.mem_cons_of_mem _ member)⟩

/-- What spells an id goes on doing so when more characters of ids are put behind it. -/
theorem SpellsElementId.append
    {text more : List Char}
    (spells : SpellsElementId text)
    (allowed : ∀ character ∈ more, isElementIdCharacter character = true) :
    SpellsElementId (text ++ more) := by
  obtain ⟨first, isFirst, start⟩ := spells.start
  refine ⟨⟨first, ?_, start⟩, fun character member => ?_⟩
  · obtain ⟨rest, rfl⟩ := List.head?_eq_some_iff.1 isFirst
    rfl
  · exact (List.mem_append.1 member).elim (spells.allowed character) (allowed character)

theorem isElementIdCharacter_decimalDigits
    (number : Nat) :
    ∀ character ∈ decimalDigits number, isElementIdCharacter character = true := by
  intro character member
  obtain ⟨low, high⟩ := digit_of_mem_decimalDigits member
  unfold isElementIdCharacter Text.isAsciiDigit
  rw [decide_eq_true low, decide_eq_true high]
  simp

end Identifier
end BroadcastGraphics
