import BroadcastGraphics.Json.Printer
import BroadcastGraphics.Json.Reader
import Mathlib.Data.List.Chain

/-!
# Written strings are read back

A string literal names control characters by the unit of their escape, and a literal in ASCII names
every other character by its units.  The reader takes the units of a pair together, so a text comes
back as it was unless the literal is in ASCII and the text holds the two halves of a pair next to
each other: these come back as the one character that the pair stands for.
-/

namespace BroadcastGraphics

namespace Text

/-- No character of the first kind stands right before one of the second kind. -/
def KeepsApart (first second : Char -> Prop) (text : List Char) : Prop :=
  text.IsChain fun before after => ¬ (first before ∧ second after)

section KeepsApart

variable {first second : Char -> Prop} {text more : List Char}

theorem keepsApart_of_no_first
    (free : ∀ character ∈ text, ¬ first character) :
    KeepsApart first second text := by
  induction text with
  | nil => exact .nil
  | cons character rest ih =>
    rw [List.forall_mem_cons] at free
    exact (ih free.2).cons fun _ _ both => free.1 both.1

theorem keepsApart_of_no_second
    (free : ∀ character ∈ text, ¬ second character) :
    KeepsApart first second text := by
  induction text with
  | nil => exact .nil
  | cons character rest ih =>
    rw [List.forall_mem_cons] at free
    exact (ih free.2).cons fun _ isHead both => free.2 _ (List.mem_of_mem_head? isHead) both.2

theorem KeepsApart.append
    (here : KeepsApart first second text)
    (there : KeepsApart first second more)
    (between : ∀ before ∈ text.getLast?, ∀ after ∈ more.head?, ¬ (first before ∧ second after)) :
    KeepsApart first second (text ++ more) :=
  List.IsChain.append here there between

end KeepsApart

namespace HalfPair

/-- The character stands for the first half of a pair. -/
def IsOpening (character : Char) : Prop :=
  ∃ unit, unit? character = some unit ∧ unit < 0xdc00

/-- The character stands for the second half of a pair. -/
def IsClosing (character : Char) : Prop :=
  ∃ unit, unit? character = some unit ∧ 0xdc00 ≤ unit

/-- No first half of a pair stands right before a second half. -/
def Unpaired : List Char -> Prop
  | [] => True
  | [_] => True
  | first :: second :: rest =>
      ¬ (IsOpening first ∧ IsClosing second) ∧ Unpaired (second :: rest)

instance (character : Char) : Decidable (IsOpening character) :=
  decidable_of_iff (∃ unit ∈ unit? character, unit < 0xdc00) Iff.rfl

instance (character : Char) : Decidable (IsClosing character) :=
  decidable_of_iff (∃ unit ∈ unit? character, 0xdc00 ≤ unit) Iff.rfl

instance decidableUnpaired : ∀ text : List Char, Decidable (Unpaired text)
  | [] => isTrue trivial
  | [_] => isTrue trivial
  | first :: second :: rest =>
      have := decidableUnpaired (second :: rest)
      inferInstanceAs (Decidable
        (¬ (IsOpening first ∧ IsClosing second) ∧ Unpaired (second :: rest)))

theorem unpaired_iff_keepsApart
    (text : List Char) :
    Unpaired text ↔ KeepsApart IsOpening IsClosing text := by
  unfold KeepsApart
  induction text with
  | nil => simp [Unpaired]
  | cons first rest ih =>
    cases rest with
    | nil => simp [Unpaired]
    | cons second rest => simp [Unpaired, ih]

theorem Unpaired.tail
    {first : Char}
    {rest : List Char}
    (unpaired : Unpaired (first :: rest)) :
    Unpaired rest := by
  cases rest with
  | nil => trivial
  | cons second rest => exact unpaired.2

/-- A literal carries the text: if it escapes the halves of pairs, it keeps those apart that stand
next to each other. -/
def Carries (asciiOnly : Bool) (text : List Char) : Prop :=
  asciiOnly = true -> Unpaired text

theorem Carries.tail
    {asciiOnly : Bool}
    {first : Char}
    {rest : List Char}
    (carries : Carries asciiOnly (first :: rest)) :
    Carries asciiOnly rest :=
  fun escapes => (carries escapes).tail

/-- The unit that a private character stands for. -/
theorem unit?_eq_some_iff
    (character : Char)
    (unit : Nat) :
    unit? character = some unit ↔
      character.toNat = offset + unit ∧ 0xd800 ≤ unit ∧ unit < 0xe000 := by
  unfold unit? offset
  simp only [Option.ite_none_right_eq_some, Bool.and_eq_true, decide_eq_true_eq, Option.some.injEq]
  omega

/-- A unit that a private character stands for is read as that character. -/
theorem ofUnit_of_unit?
    {character : Char}
    {unit : Nat}
    (half : unit? character = some unit) :
    ofUnit unit = character := by
  obtain ⟨code, low, high⟩ := (unit?_eq_some_iff _ _).mp half
  unfold ofUnit
  rw [decide_eq_true low, decide_eq_true high, Bool.true_and, if_pos rfl, ← code,
    Char.ofNat_toNat]

/-- The code of a character is no half of a pair. -/
theorem toNat_outside_halves
    (character : Char) :
    character.toNat < 0xd800 ∨ 0xe000 ≤ character.toNat := by
  rcases character.valid with below | ⟨above, _⟩
  · exact Or.inl below
  · exact Or.inr above

theorem toNat_lt
    (character : Char) :
    character.toNat < 0x110000 := by
  have valid : character.toNat < 0xd800 ∨ 0xdfff < character.toNat ∧ character.toNat < 0x110000 :=
    character.valid
  omega

theorem ofUnit_toNat
    (character : Char) :
    ofUnit character.toNat = character := by
  have outside := toNat_outside_halves character
  unfold ofUnit
  rw [if_neg, Char.ofNat_toNat]
  rw [Bool.and_eq_true, decide_eq_true_eq, decide_eq_true_eq]
  omega

/-- A unit that is half of a pair is kept as the character that stands for it. -/
theorem unit?_ofUnit
    {unit : Nat}
    (low : 0xd800 ≤ unit)
    (high : unit < 0xe000) :
    unit? (ofUnit unit) = some unit := by
  rw [unit?_eq_some_iff]
  refine ⟨?_, low, high⟩
  have valid : (offset + unit).isValidChar := by
    refine Or.inr ⟨?_, ?_⟩ <;> unfold offset <;> omega
  unfold ofUnit
  rw [decide_eq_true low, decide_eq_true high, Bool.true_and, if_pos rfl, Char.ofNat,
    dif_pos valid]
  rfl

end HalfPair
end Text

namespace Json
namespace Reader

open Text.HalfPair

/-! ## Escapes -/

theorem hexValue?_digitChar
    {digit : Nat}
    (small : digit < 16) :
    hexValue? digit.digitChar = some digit := by
  revert digit
  decide

/-- The four digits of a unit. -/
theorem hexPadded_four
    {unit : Nat}
    (small : unit < 0x10000) :
    Text.hexPadded 4 unit =
      [(unit / 4096).digitChar, (unit / 256 % 16).digitChar, (unit / 16 % 16).digitChar,
        (unit % 16).digitChar] := by
  have zero : '0' = Nat.digitChar 0 := rfl
  have last : ∀ value, 16 ≤ value ->
      Nat.toDigits 16 value = Nat.toDigits 16 (value / 16) ++ [(value % 16).digitChar] :=
    fun value large => Nat.toDigits_of_base_le (by decide) large
  have single : ∀ value, value < 16 -> Nat.toDigits 16 value = [value.digitChar] :=
    fun value small => Nat.toDigits_of_lt_base small
  unfold Text.hexPadded
  rcases Nat.lt_or_ge unit 16 with one | two
  · rw [single unit one, zero, show unit / 4096 = 0 by omega, show unit / 256 % 16 = 0 by omega,
      show unit / 16 % 16 = 0 by omega, Nat.mod_eq_of_lt one]
    rfl
  · rcases Nat.lt_or_ge unit 256 with below | three
    · rw [last unit two, single (unit / 16) (by omega), zero, show unit / 4096 = 0 by omega,
        show unit / 256 % 16 = 0 by omega, Nat.mod_eq_of_lt (show unit / 16 < 16 by omega)]
      rfl
    · rcases Nat.lt_or_ge unit 4096 with below | four
      · rw [last unit two, last (unit / 16) (by omega), single (unit / 16 / 16) (by omega), zero,
          show unit / 4096 = 0 by omega, Nat.div_div_eq_div_mul,
          Nat.mod_eq_of_lt (show unit / 256 < 16 by omega)]
        rfl
      · rw [last unit two, last (unit / 16) (by omega), last (unit / 16 / 16) (by omega),
          single (unit / 16 / 16 / 16) (by omega)]
        simp only [Nat.div_div_eq_div_mul]
        rfl

/-- The digits of a unit are read as it. -/
theorem unit?_hexPadded
    {unit : Nat}
    (small : unit < 0x10000)
    (next : Char)
    (rest : List Char) :
    Reader.unit? (Text.hexPadded 4 unit ++ next :: rest) = some (unit, next :: rest) := by
  rw [hexPadded_four small]
  simp only [List.cons_append, List.nil_append, Reader.unit?,
    hexValue?_digitChar (show unit / 4096 < 16 by omega),
    hexValue?_digitChar (show unit / 256 % 16 < 16 by omega),
    hexValue?_digitChar (show unit / 16 % 16 < 16 by omega),
    hexValue?_digitChar (show unit % 16 < 16 by omega)]
  refine congrArg some (Prod.ext ?_ rfl)
  change ((unit / 4096 * 16 + unit / 256 % 16) * 16 + unit / 16 % 16) * 16 + unit % 16 = unit
  omega

/-- What a character of a literal is written as: itself, a letter, a unit or the two units of a
pair.  Only a literal in ASCII has units beyond those of control characters. -/
inductive Spelling (asciiOnly : Bool) (character : Char) : List Char -> Prop where
  | plain (noQuote : character ≠ '\x22') (noEscape : character ≠ '\x5c')
      (noControl : 0x20 ≤ character.toNat) : Spelling asciiOnly character [character]
  | letter (letter : Char) (escape : letterEscape? letter = some character)
      (noUnit : letter ≠ 'u') : Spelling asciiOnly character ['\x5c', letter]
  | unit (unit : Nat) (small : unit < 0x10000) (stands : ofUnit unit = character)
      (escapes : 0x20 ≤ unit -> asciiOnly = true) : Spelling asciiOnly character (unitEscape unit)
  | pair (high low : Nat) (opens : 0xd800 ≤ high ∧ high < 0xdc00)
      (closes : 0xdc00 ≤ low ∧ low < 0xe000)
      (stands : Char.ofNat (0x10000 + (high - 0xd800) * 0x400 + (low - 0xdc00)) = character) :
      Spelling asciiOnly character (unitEscape high ++ unitEscape low)

theorem spelling_characterEscape
    (character : Char) :
    Spelling true character (characterEscape character) := by
  unfold characterEscape
  cases half : Text.HalfPair.unit? character with
  | some unit =>
    obtain ⟨_, _, high⟩ := (unit?_eq_some_iff _ _).mp half
    exact .unit unit (by omega) (ofUnit_of_unit? half) fun _ => rfl
  | none =>
    dsimp only
    by_cases small : character.toNat < 0x10000
    · rw [if_pos small]
      exact .unit _ small (ofUnit_toNat character) fun _ => rfl
    · rw [if_neg small]
      have inRange := toNat_lt character
      have opens : 0xd800 ≤ 0xd800 + (character.toNat - 0x10000) / 0x400 ∧
          0xd800 + (character.toNat - 0x10000) / 0x400 < 0xdc00 := by omega
      have closes : 0xdc00 ≤ 0xdc00 + (character.toNat - 0x10000) % 0x400 ∧
          0xdc00 + (character.toNat - 0x10000) % 0x400 < 0xe000 := by omega
      have joined : 0x10000 + (0xd800 + (character.toNat - 0x10000) / 0x400 - 0xd800) * 0x400 +
          (0xdc00 + (character.toNat - 0x10000) % 0x400 - 0xdc00) = character.toNat := by omega
      exact .pair _ _ opens closes (by rw [joined, Char.ofNat_toNat])

theorem spelling_stringCharacter
    (asciiOnly : Bool)
    (character : Char) :
    Spelling asciiOnly character (stringCharacter asciiOnly character) := by
  unfold stringCharacter
  split
  · rename_i marked
    rw [Bool.or_eq_true, beq_iff_eq, beq_iff_eq] at marked
    rcases marked with rfl | rfl
    · exact .letter _ rfl (by decide)
    · exact .letter _ rfl (by decide)
  · rename_i unmarked
    rw [Bool.or_eq_true, beq_iff_eq, beq_iff_eq, not_or] at unmarked
    iterate 5
      split
      · rename_i same
        rw [beq_iff_eq] at same
        subst same
        exact .letter _ rfl (by decide)
    split
    · rename_i control
      exact .unit _ (by omega) (ofUnit_toNat character) fun large => absurd control (by omega)
    · rename_i noControl
      split
      · rename_i escaped
        rw [Bool.and_eq_true] at escaped
        rw [escaped.1]
        exact spelling_characterEscape character
      · exact .plain unmarked.1 unmarked.2 (Nat.not_lt.mp noControl)

/-! ## Characters of a literal -/

section Characters

variable {start more : List Char}

/-- The reader goes on behind a character that it has read. -/
def andCharacter
    (character : Char)
    (later : Except Stop (List Char × List Char)) : Except Stop (List Char × List Char) := do
  let (text, remaining) <- later
  .ok (character :: text, remaining)

theorem readString_plain
    {character : Char}
    (noQuote : character ≠ '\x22')
    (noEscape : character ≠ '\x5c')
    (noControl : 0x20 ≤ character.toNat)
    (fuel : Nat) :
    readString start (fuel + 1) (character :: more) =
      andCharacter character (readString start fuel more) := by
  conv => lhs; unfold readString
  rw [if_neg (by rwa [beq_iff_eq]), if_neg (by rwa [beq_iff_eq]),
    if_neg (Nat.not_lt.mpr noControl)]
  rfl

theorem readString_letter
    {letter decoded : Char}
    (escape : letterEscape? letter = some decoded)
    (noUnit : letter ≠ 'u')
    (fuel : Nat) :
    readString start (fuel + 1) ('\x5c' :: letter :: more) =
      andCharacter decoded (readString start fuel more) := by
  rw [readString, if_neg (by decide), if_pos (by decide)]
  · simp only [escape]
    rfl
  · exact noUnit

/-- An escaped unit, with a second unit behind it that it may take. -/
theorem readString_unit
    {unit : Nat}
    {decoded next : Char}
    {after : List Char}
    (small : unit < 0x10000)
    (taken : unitCharacter unit (next :: more) = .ok (decoded, after))
    (fuel : Nat) :
    readString start (fuel + 1) (unitEscape unit ++ next :: more) =
      andCharacter decoded (readString start fuel after) := by
  rw [unitEscape, List.cons_append, List.cons_append, readString, if_neg (by decide),
    if_pos (by decide)]
  simp only [unit?_hexPadded small]
  rw [taken]
  rfl

/-- A unit that opens no pair is taken alone. -/
theorem unitCharacter_of_not_opening
    {unit : Nat}
    (noOpening : ¬ (0xd800 ≤ unit ∧ unit < 0xdc00)) :
    unitCharacter unit more = .ok (ofUnit unit, more) := by
  unfold unitCharacter
  rw [if_neg]
  rwa [Bool.and_eq_true, decide_eq_true_eq, decide_eq_true_eq]

/-- A unit that opens a pair takes the unit that closes it. -/
theorem unitCharacter_pair
    {high low : Nat}
    (opens : 0xd800 ≤ high ∧ high < 0xdc00)
    (closes : 0xdc00 ≤ low ∧ low < 0xe000)
    (next : Char) :
    unitCharacter high (unitEscape low ++ next :: more) =
      .ok (Char.ofNat (0x10000 + (high - 0xd800) * 0x400 + (low - 0xdc00)), next :: more) := by
  have digits := hexPadded_four (show low < 0x10000 by omega)
  have read := unit?_hexPadded (show low < 0x10000 by omega) next more
  unfold unitCharacter unitEscape
  rw [if_pos (by simp [opens])]
  change (if (Text.hexPadded 4 low ++ next :: more).length < 5 then _ else _) = _
  rw [if_neg (by rw [digits]; simp), List.append_eq, read]
  dsimp only
  rw [if_pos (by simp [closes])]

/-- A unit that opens a pair stays alone before a character that closes none. -/
theorem unitCharacter_before
    {unit : Nat}
    (opens : 0xd800 ≤ unit ∧ unit < 0xdc00)
    {asciiOnly : Bool}
    {character : Char}
    {spelled : List Char}
    (spelling : Spelling asciiOnly character spelled)
    (noClosing : ¬ IsClosing character)
    (next : Char) :
    unitCharacter unit (spelled ++ next :: more) = .ok (ofUnit unit, spelled ++ next :: more) := by
  have opening : (decide (0xd800 ≤ unit) && decide (unit < 0xdc00)) = true := by simp [opens]
  -- an escaped unit that closes no pair
  have alone : ∀ low tail, low < 0x10000 -> ¬ (0xdc00 ≤ low ∧ low < 0xe000) -> tail ≠ [] ->
      unitCharacter unit (unitEscape low ++ tail) = .ok (ofUnit unit, unitEscape low ++ tail) := by
    intro low tail small outside nonempty
    obtain ⟨next, more, rfl⟩ := List.exists_cons_of_ne_nil nonempty
    have read := unit?_hexPadded small next more
    unfold unitCharacter unitEscape
    rw [if_pos opening]
    change (if (Text.hexPadded 4 low ++ next :: more).length < 5 then _ else _) = _
    rw [if_neg (by rw [hexPadded_four small]; simp), List.append_eq, read]
    dsimp only
    rw [if_neg (by rwa [Bool.and_eq_true, decide_eq_true_eq, decide_eq_true_eq])]
  cases spelling with
  | plain noQuote noEscape noControl =>
    unfold unitCharacter
    rw [if_pos opening]
    split
    · rename_i same
      exact absurd (List.cons.inj same).1 noEscape
    · rfl
  | letter letter escape noUnit =>
    unfold unitCharacter
    rw [if_pos opening]
    split
    · rename_i same
      exact absurd (List.cons.inj (List.cons.inj same).2).1 noUnit
    · rfl
  | unit low small stands =>
    refine alone low _ small (fun closes => noClosing ?_) (List.cons_ne_nil _ _)
    exact ⟨low, stands ▸ unit?_ofUnit (by omega) closes.2, closes.1⟩
  | pair high low opensNext closes stands =>
    rw [List.append_assoc]
    exact alone high _ (by omega) (by omega)
      (List.append_ne_nil_of_right_ne_nil _ (List.cons_ne_nil _ _))

end Characters

/-! ## Literals -/

section Literals

variable {asciiOnly : Bool}

/-- The characters of a literal after its opening quote, with what follows. -/
def literalTail (asciiOnly : Bool) (text rest : List Char) : List Char :=
  text.flatMap (stringCharacter asciiOnly) ++ '\x22' :: rest

theorem literalTail_cons
    (character : Char)
    (text rest : List Char) :
    literalTail asciiOnly (character :: text) rest =
      stringCharacter asciiOnly character ++ literalTail asciiOnly text rest := by
  unfold literalTail
  rw [List.flatMap_cons, List.append_assoc]

theorem literalTail_ne_nil
    (text rest : List Char) :
    literalTail asciiOnly text rest ≠ [] :=
  List.append_ne_nil_of_right_ne_nil _ (List.cons_ne_nil _ _)

/-- The unit of a character of a text that is carried stays alone. -/
theorem unitCharacter_literalTail
    {unit : Nat}
    {character : Char}
    (stands : ofUnit unit = character)
    (escapes : 0x20 ≤ unit -> asciiOnly = true)
    {text : List Char}
    (carries : Carries asciiOnly (character :: text))
    (rest : List Char) :
    unitCharacter unit (literalTail asciiOnly text rest) =
      .ok (character, literalTail asciiOnly text rest) := by
  by_cases opens : 0xd800 ≤ unit ∧ unit < 0xdc00
  · have unpaired := carries (escapes (by omega))
    have isOpening : IsOpening character :=
      ⟨unit, stands ▸ unit?_ofUnit opens.1 (by omega), opens.2⟩
    rw [← stands]
    cases text with
    | nil =>
      unfold unitCharacter
      rw [if_pos (by simp [opens])]
      rfl
    | cons second text =>
      obtain ⟨next, more, tail⟩ := List.exists_cons_of_ne_nil (literalTail_ne_nil text rest)
      rw [literalTail_cons, tail]
      exact unitCharacter_before opens (spelling_stringCharacter asciiOnly second)
        (fun isClosing => unpaired.1 ⟨isOpening, isClosing⟩) next
  · rw [← stands]
    exact unitCharacter_of_not_opening opens

/-- One character of a literal is read as it was. -/
theorem readString_character
    (start : List Char)
    {character : Char}
    {text : List Char}
    (carries : Carries asciiOnly (character :: text))
    (rest : List Char)
    (fuel : Nat) :
    readString start (fuel + 1) (literalTail asciiOnly (character :: text) rest) =
      andCharacter character (readString start fuel (literalTail asciiOnly text rest)) := by
  obtain ⟨next, more, tail⟩ := List.exists_cons_of_ne_nil
    (@literalTail_ne_nil asciiOnly text rest)
  have spelling := spelling_stringCharacter asciiOnly character
  rw [literalTail_cons]
  generalize stringCharacter asciiOnly character = spelled at spelling
  cases spelling with
  | plain noQuote noEscape noControl =>
    exact readString_plain noQuote noEscape noControl fuel
  | letter letter escape noUnit =>
    exact readString_letter escape noUnit fuel
  | unit unit small stands escapes =>
    have taken := unitCharacter_literalTail stands escapes carries rest
    rw [tail] at taken ⊢
    exact readString_unit small taken fuel
  | pair high low opens closes stands =>
    have taken := @unitCharacter_pair more high low opens closes next
    rw [stands] at taken
    rw [tail, List.append_assoc]
    exact readString_unit (by omega) taken fuel

/-- A literal is read back as the text that it carries. -/
theorem readString_literal
    (start : List Char)
    {text : List Char}
    (carries : Carries asciiOnly text)
    (rest : List Char)
    {fuel : Nat}
    (enough : text.length < fuel) :
    readString start fuel (literalTail asciiOnly text rest) = .ok (text, rest) := by
  induction text generalizing fuel with
  | nil =>
    obtain ⟨fuel, rfl⟩ := Nat.exists_eq_succ_of_ne_zero (Nat.ne_of_gt enough)
    rfl
  | cons character text ih =>
    obtain ⟨fuel, rfl⟩ := Nat.exists_eq_succ_of_ne_zero (Nat.ne_of_gt (Nat.zero_lt_of_lt enough))
    rw [readString_character start carries, ih carries.tail (Nat.lt_of_succ_lt_succ enough)]
    rfl

end Literals

end Reader
end Json
end BroadcastGraphics
