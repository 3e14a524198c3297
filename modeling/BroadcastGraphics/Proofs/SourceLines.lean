import BroadcastGraphics.Proofs.ExportedSource
import BroadcastGraphics.Proofs.FlatDirectory

/-!
# The lines of component source

The declaration of a class, the registration of a component and an export each stand in a line of
their own that starts with fixed words.  In component source no other line starts with these words:
the lines of a literal start with marks, quotes or digits, whatever the texts in it are.
-/

namespace BroadcastGraphics

namespace Text

/-- The lines of a text. -/
def lines (text : String) : List String :=
  split '\n' text

/-- The lines that start with some words. -/
def linesStarting (words text : String) : List String :=
  (lines text).filter fun line => words.toList.isPrefixOf line.toList

/-! ## Cutting into lines -/

/-- What stands in front of the first separator belongs to the first part. -/
theorem splitAt_free_append
    {separator : Char}
    {before : List Char}
    (free : separator ∉ before)
    {text first : List Char}
    {others : List (List Char)}
    (parts : splitAt separator text = first :: others) :
    splitAt separator (before ++ text) = (before ++ first) :: others := by
  induction before with
  | nil => exact parts
  | cons character rest ih =>
    rw [List.mem_cons, not_or] at free
    rw [List.cons_append, splitAt, ih free.2, if_neg (by simpa using Ne.symm free.1)]
    rfl

theorem notMem_of_mem_splitAt
    {separator : Char}
    {text part : List Char}
    (member : part ∈ splitAt separator text) : separator ∉ part := by
  induction text generalizing part with
  | nil =>
    rw [List.mem_singleton.1 member]
    exact List.not_mem_nil
  | cons character rest ih =>
    rw [splitAt] at member
    split at member
    · rcases List.mem_cons.1 member with rfl | later
      · exact List.not_mem_nil
      · exact ih later
    · rename_i other
      obtain ⟨first, others, parts⟩ := List.exists_cons_of_ne_nil (splitAt_ne_nil separator rest)
      rw [parts] at member ih
      rcases List.mem_cons.1 member with rfl | later
      · rw [List.mem_cons, not_or]
        exact ⟨fun same => other (beq_iff_eq.2 same.symm), ih List.mem_cons_self⟩
      · exact ih (List.mem_cons_of_mem _ later)

/-- No line holds a line break. -/
theorem unbroken_of_mem_lines
    {text line : String}
    (member : line ∈ lines text) : '\n' ∉ line.toList := by
  obtain ⟨part, isPart, rfl⟩ := List.mem_map.1 member
  rw [String.toList_ofList]
  exact notMem_of_mem_splitAt isPart

theorem lines_append (before after : String) :
    lines (before ++ ("\n" ++ after)) = lines before ++ lines after := by
  have broken : (before ++ ("\n" ++ after)).toList = before.toList ++ '\n' :: after.toList := by
    simp only [String.toList_append]
    rfl
  rw [lines, split, broken, splitAt_append_separator, List.map_append]
  rfl

theorem lines_of_unbroken
    {line : String}
    (unbroken : '\n' ∉ line.toList) : lines line = [line] := by
  rw [lines, split, splitAt_of_notMem unbroken, List.map_singleton, String.ofList_toList]

section Starting

variable {words : String}

theorem linesStarting_append (before after : String) :
    linesStarting words (before ++ ("\n" ++ after)) =
      linesStarting words before ++ linesStarting words after := by
  rw [linesStarting, lines_append, List.filter_append]
  rfl

theorem linesStarting_eq_nil_iff
    {text : String} :
    linesStarting words text = [] ↔
      ∀ line ∈ splitAt '\n' text.toList, ¬ words.toList <+: line := by
  simp only [linesStarting, List.filter_eq_nil_iff, lines, split, List.forall_mem_map,
    String.toList_ofList, List.isPrefixOf_iff_prefix]

theorem linesStarting_intercalate
    {blocks : List String}
    (some : blocks ≠ []) :
    linesStarting words (String.intercalate "\n" blocks) = blocks.flatMap (linesStarting words) := by
  induction blocks with
  | nil => exact absurd rfl some
  | cons block rest ih =>
    cases rest with
    | nil => rw [String.intercalate_singleton, List.flatMap_singleton]
    | cons second rest =>
      rw [String.intercalate_cons_cons, String.append_assoc, linesStarting_append,
        ih (List.cons_ne_nil _ _)]
      rfl

/-- A line that starts with the words is one of those that do. -/
theorem linesStarting_of_starts
    {rest : String}
    (unbroken : '\n' ∉ (words ++ rest).toList) :
    linesStarting words (words ++ rest) = [words ++ rest] := by
  rw [linesStarting, lines_of_unbroken unbroken, List.filter_cons_of_pos, List.filter_nil]
  rw [List.isPrefixOf_iff_prefix, String.toList_append]
  exact List.prefix_append _ _

end Starting

/-! ## Other beginnings -/

/-- Neither text is the beginning of the other, so nothing starts with both. -/
def Apart (first second : String) : Prop :=
  ¬ first.toList <+: second.toList ∧ ¬ second.toList <+: first.toList

instance (first second : String) : Decidable (Apart first second) :=
  inferInstanceAs (Decidable (_ ∧ _))

theorem Apart.not_prefix
    {first second : String}
    (apart : Apart first second)
    (rest : List Char) : ¬ first.toList <+: second.toList ++ rest := by
  intro starts
  rcases List.prefix_or_prefix_of_prefix starts (List.prefix_append second.toList rest) with
    shorter | longer
  · exact apart.1 shorter
  · exact apart.2 longer

/-- A line that starts with something else is none of those that start with the words. -/
theorem linesStarting_of_apart
    {words start : String}
    (apart : Apart words start)
    {rest : String}
    (unbroken : '\n' ∉ (start ++ rest).toList) : linesStarting words (start ++ rest) = [] := by
  rw [linesStarting_eq_nil_iff, splitAt_of_notMem unbroken, List.forall_mem_singleton,
    String.toList_append]
  exact apart.not_prefix rest.toList

/-- Whether a text starts with another one can be read off their bytes. -/
theorem not_prefix_of_bytes
    {words line : String}
    (other : ¬ words.toByteArray.data.toList <+: line.toByteArray.data.toList) :
    ¬ words.toList <+: line.toList := by
  rintro ⟨rest, starts⟩
  refine other ⟨rest.flatMap String.utf8EncodeChar, ?_⟩
  rw [bytes_eq_flatMap, bytes_eq_flatMap, ← starts, List.flatMap_append]

/-! ## Lines that start with no word -/

/-- No line of the text has a small `c` or `e` as its first character behind spaces.  In front of the
text, nothing but spaces stands in its first line or something else does. -/
def Wordless (onlySpaces : Bool) : List Char -> Prop
  | [] => True
  | character :: rest =>
      (onlySpaces = true -> character ≠ 'c' ∧ character ≠ 'e') ∧
        Wordless (character == '\n' || (onlySpaces && character == ' ')) rest

instance decidableWordless : ∀ onlySpaces text, Decidable (Wordless onlySpaces text)
  | _, [] => isTrue trivial
  | onlySpaces, character :: rest =>
      have := decidableWordless (character == '\n' || (onlySpaces && character == ' ')) rest
      inferInstanceAs (Decidable (_ ∧ _))

namespace Wordless

variable {onlySpaces : Bool} {text more : List Char}

theorem of_true (wordless : Wordless true text) : Wordless onlySpaces text := by
  induction text generalizing onlySpaces with
  | nil => trivial
  | cons character rest ih =>
    obtain ⟨here, later⟩ := wordless
    refine ⟨fun _ => here rfl, ?_⟩
    cases isSpace : character == ' ' with
    | true => exact ih (by simpa [isSpace] using later)
    | false => simpa [isSpace] using later

theorem of_unbroken (unbroken : '\n' ∉ text) : Wordless false text := by
  induction text with
  | nil => trivial
  | cons character rest ih =>
    rw [List.mem_cons, not_or] at unbroken
    refine ⟨nofun, ?_⟩
    rw [beq_false_of_ne (Ne.symm unbroken.1)]
    exact ih unbroken.2

/-- A line whose first character is no space and none of the two letters. -/
theorem of_inked
    {first : Char}
    (inked : first ≠ ' ' ∧ first ≠ 'c' ∧ first ≠ 'e')
    (unbroken : '\n' ∉ first :: text) : Wordless true (first :: text) := by
  rw [List.mem_cons, not_or] at unbroken
  refine ⟨fun _ => inked.2, ?_⟩
  rw [beq_false_of_ne (Ne.symm unbroken.1), beq_false_of_ne inked.1]
  exact of_unbroken unbroken.2

theorem append
    (here : Wordless onlySpaces text)
    (there : Wordless true more) : Wordless onlySpaces (text ++ more) := by
  induction text generalizing onlySpaces with
  | nil => exact there.of_true
  | cons character rest ih => exact ⟨here.1, ih here.2⟩

theorem of_append (whole : Wordless onlySpaces (text ++ more)) : Wordless onlySpaces text := by
  induction text generalizing onlySpaces with
  | nil => trivial
  | cons character rest ih => exact ⟨whole.1, ih whole.2⟩

theorem lines
    (wordless : Wordless onlySpaces text)
    {first : List Char}
    {others : List (List Char)}
    (parts : splitAt '\n' text = first :: others) :
    Wordless onlySpaces first ∧ ∀ line ∈ others, Wordless true line := by
  induction text generalizing onlySpaces first others with
  | nil =>
    cases parts
    exact ⟨trivial, List.forall_mem_nil _⟩
  | cons character rest ih =>
    obtain ⟨next, later, cut⟩ := List.exists_cons_of_ne_nil (splitAt_ne_nil '\n' rest)
    obtain ⟨here, behind⟩ := wordless
    rw [splitAt, cut] at parts
    split at parts
    · rename_i isBreak
      cases parts
      rw [isBreak] at behind
      exact ⟨trivial, List.forall_mem_cons.2 (ih behind cut)⟩
    · cases parts
      exact ⟨⟨here, (ih behind cut).1⟩, (ih behind cut).2⟩

theorem newline
    (count : Nat) : Wordless true ('\n' :: List.replicate count ' ') := by
  refine ⟨by decide, ?_⟩
  induction count with
  | zero => trivial
  | succ count ih => exact ⟨by decide, ih⟩

end Wordless

-- from here on it is known by its lemmas; unfolding it would evaluate the texts that it speaks about
attribute [irreducible] Wordless

/-- What starts with something else, and has no more lines that start with a word, has no line that
starts with the words. -/
theorem linesStarting_of_wordless
    {words start : String}
    (isWord : ¬ Wordless true words.toList)
    (apart : Apart words start)
    (unbroken : '\n' ∉ start.toList)
    {rest : String}
    (wordless : Wordless false rest.toList) :
    linesStarting words (start ++ rest) = [] := by
  obtain ⟨first, others, parts⟩ := List.exists_cons_of_ne_nil (splitAt_ne_nil '\n' rest.toList)
  rw [linesStarting_eq_nil_iff, String.toList_append, splitAt_free_append unbroken parts,
    List.forall_mem_cons]
  refine ⟨apart.not_prefix first, fun line member starts => isWord ?_⟩
  obtain ⟨behind, rfl⟩ := starts
  exact ((wordless.lines parts).2 _ member).of_append

end Text

/-! ## Literals -/

namespace Json

theorem Reader.wordless_number
    (negative : Bool)
    {first : Char}
    (between : '0' ≤ first ∧ first ≤ '9')
    {more : List Char}
    (unbroken : '\n' ∉ signText negative ++ first :: more) :
    Text.Wordless true (signText negative ++ first :: more) := by
  cases negative with
  | true => exact .of_inked (by decide) unbroken
  | false =>
    refine .of_inked ⟨?_, ?_, ?_⟩ unbroken <;> rintro rfl <;> revert between <;> decide

/-- In the text of a value, spaces stand only in front of marks, quotes, numbers and names of other
first letters. -/
theorem composes_wordless (indent : Option Nat) : Composes ⟨true, indent⟩ (Text.Wordless true) where
  append := Text.Wordless.append
  mark := by decide
  lineBreak level := by
    unfold Layout.lineBreak
    cases indent with
    | none => exact (by decide : Text.Wordless true [])
    | some width => exact .newline _
  scalar {value} isScalar level := by
    cases value with
    | str text =>
      rw [render]
      exact .of_inked (by decide) fun isBreak => (ascii_stringLiteral text _ isBreak).2 rfl
    | null =>
      rw [render]
      decide
    | bool value =>
      rw [render]
      cases value <;> decide
    | int value =>
      rw [render]
      obtain ⟨first, more, between, start⟩ := Reader.exists_number_start value
      have still := still_integerText value
      rw [start] at still ⊢
      exact Reader.wordless_number _ between fun isBreak => (still _ isBreak).2 rfl
    | float value =>
      rw [render]
      have still := still_floatText value
      cases value with
      | finite negative rank =>
        obtain ⟨first, more, between, start⟩ :=
          Reader.exists_text_start (Binary64.readsBack_shortest rank)
        rw [Reader.toList_text_finite, start] at still ⊢
        exact Reader.wordless_number _ between fun isBreak => (still _ isBreak).2 rfl
      | infinite negative => cases negative <;> decide
      | nan => decide
    | arr _ => cases isScalar
    | obj _ => cases isScalar

theorem wordless_literal
    (value : Json)
    (indent : Option Nat) : Text.Wordless true (value.literal indent).toList := by
  unfold literal text
  rw [String.toList_ofList]
  exact (composes_wordless indent).render value 0

theorem unbroken_literal_str (content : String) :
    '\n' ∉ ((Json.str content).literal none).toList := by
  intro isBreak
  rw [literal, text, String.toList_ofList, render] at isBreak
  exact (ascii_stringLiteral content _ isBreak).2 rfl

end Json

end BroadcastGraphics
