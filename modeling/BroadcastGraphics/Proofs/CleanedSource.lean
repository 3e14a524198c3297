import BroadcastGraphics.Proofs.ExportedSource
import BroadcastGraphics.Proofs.IncomingTemplate
import Mathlib.Data.List.DropRight

/-!
# What is left of cleaned component source

One default export and then one export are taken out of component source from outside, and no more.  So
a line of cleaned source may still begin with an export, and exactly then cleaning it again changes it.
How many exports there were can be counted.  What makes source look like a component is never taken
out, so a template can be imported again with its own component source, and comes out as it is just if
no export was left.
-/

namespace BroadcastGraphics

namespace Text

/-! ## Parts of a text -/

theorem occursIn_iff_infix
    (part text : List Char) : occursIn part text = true ↔ part <:+: text := by
  induction text with
  | nil => rw [occursIn, List.isEmpty_iff, List.infix_nil]
  | cons character rest ih =>
    rw [occursIn, Bool.or_eq_true, ih, List.isPrefixOf_iff_prefix, List.infix_cons_iff]

theorem prefix_append_cons_iff
    {part : List Char}
    {character : Char}
    (apart : character ∉ part)
    (before after : List Char) : part <+: before ++ character :: after ↔ part <+: before := by
  induction before generalizing part with
  | nil =>
    cases part with
    | nil => simp
    | cons first more =>
      have other : first ≠ character := fun same => apart (same ▸ List.mem_cons_self)
      simp [List.cons_prefix_cons, other]
  | cons first more ih =>
    cases part with
    | nil => simp
    | cons own others =>
      rw [List.cons_append, List.cons_prefix_cons, List.cons_prefix_cons,
        ih fun member => apart (List.mem_cons_of_mem own member)]

/-- A part lies on one side of a character that is not in it. -/
theorem infix_append_cons_iff
    {part : List Char}
    {character : Char}
    (apart : character ∉ part)
    (before after : List Char) :
    part <:+: before ++ character :: after ↔ part <:+: before ∨ part <:+: after := by
  induction before with
  | nil =>
    have start := prefix_append_cons_iff apart [] after
    rw [List.nil_append] at start ⊢
    rw [List.infix_cons_iff, start, List.infix_nil, List.prefix_nil]
  | cons first more ih =>
    have start := prefix_append_cons_iff apart (first :: more) after
    rw [List.cons_append] at start ⊢
    rw [List.infix_cons_iff, start, ih, ← or_assoc, ← List.infix_cons_iff]

section Trimming

variable {part text : List Char} {drop : Char -> Bool}

/-- A part that does not begin with a dropped character is not cut by dropping from the front. -/
theorem infix_dropWhile
    (kept : ∃ first ∈ part.head?, drop first = false)
    (occurs : part <:+: text) : part <:+: text.dropWhile drop := by
  induction text with
  | nil => exact occurs
  | cons character rest ih =>
    rw [List.dropWhile_cons]
    split
    · rename_i dropped
      refine ih ((List.infix_cons_iff.1 occurs).resolve_left fun starts => ?_)
      obtain ⟨first, isFirst, keeps⟩ := kept
      cases part with
      | nil => cases isFirst
      | cons own more =>
        cases isFirst
        rw [(List.cons_prefix_cons.1 starts).1, dropped] at keeps
        cases keeps
    · exact occurs

theorem infix_trimBy
    (filled : part ≠ [])
    (kept : ∀ character ∈ part, drop character = false)
    (occurs : part <:+: text) : part <:+: trimBy drop text := by
  have front := infix_dropWhile ⟨_, List.head?_eq_some_head filled, kept _ (List.head_mem filled)⟩
    occurs
  unfold trimBy
  rw [← List.reverse_infix, List.reverse_reverse]
  refine infix_dropWhile ⟨_, ?_, kept _ (List.getLast_mem filled)⟩ (List.reverse_infix.2 front)
  rw [List.head?_reverse]
  exact List.getLast?_eq_some_getLast filled

theorem trimBy_trimBy
    (drop : Char -> Bool)
    (text : List Char) : trimBy drop (trimBy drop text) = trimBy drop text := by
  have front : (trimBy drop text).dropWhile drop = trimBy drop text := by
    obtain ⟨cut, joined⟩ := List.rdropWhile_prefix drop (text.dropWhile drop)
    change (List.rdropWhile drop (text.dropWhile drop)).dropWhile drop =
      List.rdropWhile drop (text.dropWhile drop)
    cases shown : List.rdropWhile drop (text.dropWhile drop) with
    | nil => rfl
    | cons first more =>
      have stops := List.head?_dropWhile_not drop text
      rw [← joined, shown] at stops
      exact List.dropWhile_cons_of_neg (by simp [show drop first = false from stops])
  change List.rdropWhile drop ((trimBy drop text).dropWhile drop) = _
  rw [front]
  exact List.rdropWhile_idempotent drop (text.dropWhile drop)

/-- What is not dropped behind dropped characters is trimmed at its end only. -/
theorem trimBy_append
    {dropped : List Char}
    (drops : ∀ character ∈ dropped, drop character = true)
    (kept : ∀ first ∈ text.head?, drop first = false) :
    trimBy drop (dropped ++ text) = text.rdropWhile drop := by
  have front : text.dropWhile drop = text := by
    cases text with
    | nil => rfl
    | cons first more => exact List.dropWhile_cons_of_neg (by simp [kept first rfl])
  change List.rdropWhile drop ((dropped ++ text).dropWhile drop) = _
  rw [List.dropWhile_append_of_pos drops, front]

theorem kept_of_last_rdropWhile
    (text : List Char) : ∀ last ∈ (text.rdropWhile drop).getLast?, drop last = false := by
  intro last isLast
  obtain ⟨filled, rfl⟩ := List.mem_getLast?_eq_getLast isLast
  exact Bool.eq_false_iff.2 (List.rdropWhile_last_not drop text filled)

end Trimming

end Text

namespace ComponentSource

/-! ## What is taken out -/

theorem afterWord?_eq_some_iff
    {word input remaining : List Char} :
    afterWord? word input = some remaining ↔
      ∃ blank rest, input = word ++ blank :: rest ∧ Text.isBlank blank = true ∧
        rest.dropWhile Text.isBlank = remaining := by
  constructor
  · intro found
    unfold afterWord? at found
    split at found
    · rename_i starts
      obtain ⟨more, rfl⟩ := List.isPrefixOf_iff_prefix.1 starts
      rw [List.drop_left] at found
      cases more with
      | nil => cases found
      | cons blank rest =>
        dsimp only at found
        split at found
        · rename_i isBlank
          exact ⟨blank, rest, rfl, isBlank, Option.some.inj found⟩
        · cases found
    · cases found
  · rintro ⟨blank, rest, rfl, isBlank, rfl⟩
    exact afterWord?_word word rest isBlank

/-- A part of a text that is not taken out with an export: it is free of blanks and lies in neither of
the words. -/
structure Survives (part : List Char) : Prop where
  filled : part ≠ []
  inked : ∀ character ∈ part, Text.isBlank character = false
  notExport : ¬ part <:+: "export".toList
  notDefault : ¬ part <:+: "default".toList

/-- What taking words and the blanks behind them from the front of a text comes to. -/
structure Removal (after? : List Char -> Option (List Char)) : Prop where
  start : ∀ {text}, text.head? ≠ some 'e' -> after? text = none
  shorter : ∀ {text remaining}, after? text = some remaining -> remaining.length < text.length
  inked : ∀ {text remaining}, after? text = some remaining ->
    ∀ first ∈ remaining.head?, Text.isBlank first = false
  keeps : ∀ {text remaining part}, after? text = some remaining -> Survives part ->
    part <:+: text -> part <:+: remaining

section AfterWord

variable {word text remaining part : List Char} (found : afterWord? word text = some remaining)
include found

theorem shorter_afterWord? : remaining.length < text.length := by
  obtain ⟨blank, rest, rfl, _, rfl⟩ := afterWord?_eq_some_iff.1 found
  have dropped := (List.dropWhile_suffix (l := rest) Text.isBlank).length_le
  simp only [List.length_append, List.length_cons]
  omega

theorem inked_afterWord? : ∀ first ∈ remaining.head?, Text.isBlank first = false := by
  obtain ⟨blank, rest, rfl, _, rfl⟩ := afterWord?_eq_some_iff.1 found
  intro first isFirst
  have stops := List.head?_dropWhile_not Text.isBlank rest
  rw [isFirst] at stops
  exact stops

theorem keeps_afterWord?
    (survives : Survives part)
    (apart : ¬ part <:+: word)
    (occurs : part <:+: text) : part <:+: remaining := by
  obtain ⟨blank, rest, rfl, isBlank, rfl⟩ := afterWord?_eq_some_iff.1 found
  have noBlank : blank ∉ part := fun member =>
    Bool.false_ne_true ((survives.inked blank member).symm.trans isBlank)
  have behind := ((Text.infix_append_cons_iff noBlank word rest).1 occurs).resolve_left apart
  exact Text.infix_dropWhile
    ⟨_, List.head?_eq_some_head survives.filled, survives.inked _ (List.head_mem survives.filled)⟩
    behind

end AfterWord

theorem removal_export : Removal afterExport? where
  start := afterExport?_eq_none
  shorter := shorter_afterWord?
  inked := inked_afterWord?
  keeps found survives := keeps_afterWord? found survives survives.notExport

theorem exists_export_of_default
    {text remaining : List Char}
    (found : afterDefaultExport? text = some remaining) :
    ∃ behind, afterExport? text = some behind ∧
      afterWord? "default".toList behind = some remaining :=
  Option.bind_eq_some_iff.1 found

theorem removal_default : Removal afterDefaultExport? where
  start := afterDefaultExport?_eq_none
  shorter found := by
    obtain ⟨behind, first, second⟩ := exists_export_of_default found
    exact (shorter_afterWord? second).trans (shorter_afterWord? first)
  inked found := by
    obtain ⟨behind, _, second⟩ := exists_export_of_default found
    exact inked_afterWord? second
  keeps found survives occurs := by
    obtain ⟨behind, first, second⟩ := exists_export_of_default found
    exact keeps_afterWord? second survives survives.notDefault
      (removal_export.keeps first survives occurs)

/-! ## The first match -/

/-- What stands in front of the start of a line; a flag tells whether the text itself starts one. -/
structure BeforeLine (lineStart : Bool) (before : List Char) : Prop where
  start : before = [] -> lineStart = true
  ends : ∀ last ∈ before.getLast?, last = '\n'

theorem BeforeLine.nil : BeforeLine true [] where
  start _ := rfl
  ends := by simp

theorem beforeLine_cons_iff
    {lineStart : Bool}
    {character : Char}
    {more : List Char} :
    BeforeLine lineStart (character :: more) ↔ BeforeLine (character == '\n') more := by
  cases more with
  | nil =>
    exact ⟨fun before => ⟨fun _ => beq_iff_eq.2 (before.ends character rfl), nofun⟩,
      fun after => ⟨nofun, fun last isLast => by
        cases isLast
        exact beq_iff_eq.1 (after.start rfl)⟩⟩
  | cons next others =>
    exact ⟨fun before => ⟨nofun, before.ends⟩, fun after => ⟨nofun, after.ends⟩⟩

/-- What changes has a match at the start of a line. -/
theorem exists_of_withoutFirst_ne
    {after? : List Char -> Option (List Char)}
    {lineStart : Bool}
    {text : List Char}
    (changes : withoutFirst after? lineStart text ≠ text) :
    ∃ before rest, text = before ++ rest ∧ BeforeLine lineStart before ∧ (after? rest).isSome := by
  induction text generalizing lineStart with
  | nil => exact absurd rfl changes
  | cons character rest ih =>
    rw [withoutFirst] at changes
    split at changes
    · rename_i remaining matched
      obtain ⟨rfl, here⟩ := Option.ite_none_right_eq_some.1 matched
      exact ⟨[], character :: rest, rfl, .nil, here ▸ rfl⟩
    · obtain ⟨before, more, rfl, line, found⟩ :=
        ih fun same => changes (congrArg (character :: ·) same)
      exact ⟨character :: before, more, rfl, beforeLine_cons_iff.2 line, found⟩

section FirstMatch

variable {after? : List Char -> Option (List Char)} (removal : Removal after?)
  {lineStart : Bool} {text : List Char}
include removal

/-- What begins with a match at the start of a line gets shorter. -/
theorem length_withoutFirst_lt
    {before rest : List Char}
    (line : BeforeLine lineStart before)
    (found : (after? rest).isSome) :
    (withoutFirst after? lineStart (before ++ rest)).length < (before ++ rest).length := by
  induction before generalizing lineStart with
  | nil =>
    obtain ⟨remaining, found⟩ := Option.isSome_iff_exists.1 found
    cases rest with
    | nil =>
      have nothing : after? [] = none := removal.start (by simp)
      cases nothing.symm.trans found
    | cons character more =>
      rw [List.nil_append, withoutFirst, line.start rfl, if_pos rfl, found]
      exact removal.shorter found
  | cons character more ih =>
    rw [List.cons_append, withoutFirst]
    split
    · rename_i remaining matched
      exact removal.shorter (Option.ite_none_right_eq_some.1 matched).2
    · exact Nat.succ_lt_succ (ih (beforeLine_cons_iff.1 line))

theorem withoutFirst_eq_or_lt :
    withoutFirst after? lineStart text = text ∨
      (withoutFirst after? lineStart text).length < text.length := by
  by_cases same : withoutFirst after? lineStart text = text
  · exact Or.inl same
  · obtain ⟨before, rest, rfl, line, found⟩ := exists_of_withoutFirst_ne same
    exact Or.inr (length_withoutFirst_lt removal line found)

theorem length_withoutFirst_le
    (lineStart : Bool)
    (text : List Char) : (withoutFirst after? lineStart text).length ≤ text.length := by
  rcases withoutFirst_eq_or_lt removal with same | less
  · exact (congrArg List.length same).le
  · exact less.le

end FirstMatch

/-- What is read within one line, and one character more, stays at the front of a text. -/
theorem prefix_withoutFirst_iff
    {part : List Char}
    (line : '\n' ∉ part.dropLast)
    (after? : List Char -> Option (List Char))
    (text : List Char) : part <+: withoutFirst after? false text ↔ part <+: text := by
  induction text generalizing part with
  | nil => rfl
  | cons character rest ih =>
    change part <+: character :: withoutFirst after? (character == '\n') rest ↔ _
    cases part with
    | nil => simp
    | cons own more =>
      rw [List.cons_prefix_cons, List.cons_prefix_cons]
      refine and_congr_right fun same => ?_
      subst same
      cases more with
      | nil => simp
      | cons next others =>
        rw [List.dropLast_cons_cons, List.mem_cons, not_or] at line
        rw [beq_eq_false_iff_ne.2 (Ne.symm line.1)]
        exact ih line.2

/-! ## Source that looks like a component -/

theorem infix_withoutFirst
    {after? : List Char -> Option (List Char)}
    (removal : Removal after?)
    {part : List Char}
    (survives : Survives part)
    {lineStart : Bool}
    {text : List Char}
    (occurs : part <:+: text) : part <:+: withoutFirst after? lineStart text := by
  have line : '\n' ∉ part.dropLast := fun member =>
    Bool.false_ne_true
      ((survives.inked _ (List.dropLast_subset part member)).symm.trans
        (by decide : Text.isBlank '\n' = true))
  induction text generalizing lineStart with
  | nil => exact occurs
  | cons character rest ih =>
    rw [withoutFirst]
    split
    · rename_i remaining matched
      exact removal.keeps (Option.ite_none_right_eq_some.1 matched).2 survives occurs
    · rcases List.infix_cons_iff.1 occurs with starts | later
      · exact ((prefix_withoutFirst_iff line after? (character :: rest)).2 starts).isInfix
      · exact List.infix_cons (ih later)

theorem contains_cleaned
    {source part : String}
    (survives : Survives part.toList)
    (occurs : Text.contains source part = true) : Text.contains (cleaned source) part = true := by
  unfold Text.contains cleaned at *
  rw [Text.occursIn_iff_infix] at *
  rw [String.toList_ofList]
  exact Text.infix_trimBy survives.filled survives.inked
    (infix_withoutFirst removal_export survives (infix_withoutFirst removal_default survives occurs))

/-- Source that looks like a component does so after it is cleaned. -/
theorem isPlausible_cleaned
    {source : String}
    (recognized : isPlausible source = true) : isPlausible (cleaned source) = true := by
  unfold isPlausible at *
  rw [Bool.and_eq_true, Bool.and_eq_true, Bool.or_eq_true] at *
  obtain ⟨⟨element, declared⟩, plays⟩ := recognized
  refine ⟨⟨contains_cleaned ?_ element, contains_cleaned ?_ declared⟩,
    plays.imp (contains_cleaned ?_) (contains_cleaned ?_)⟩
  all_goals exact ⟨by decide, by decide +kernel, by decide +kernel, by decide +kernel⟩

/-! ## Cleaning again -/

/-- A line of the text begins with the word of an export and a blank. -/
def Exports (text : String) : Prop :=
  ∃ before blank rest, text.toList = before ++ ("export".toList ++ blank :: rest) ∧
    BeforeLine true before ∧ Text.isBlank blank = true

theorem isSome_afterExport?_iff
    {text : List Char} :
    (afterExport? text).isSome ↔
      ∃ blank rest, text = "export".toList ++ blank :: rest ∧ Text.isBlank blank = true := by
  rw [Option.isSome_iff_exists]
  constructor
  · rintro ⟨remaining, found⟩
    obtain ⟨blank, rest, same, isBlank, _⟩ := afterWord?_eq_some_iff.1 found
    exact ⟨blank, rest, same, isBlank⟩
  · rintro ⟨blank, rest, rfl, isBlank⟩
    exact ⟨_, afterWord?_word _ rest isBlank⟩

/-- Taking out an export changes a text just if there is one. -/
theorem exports_iff
    {text : String} :
    Exports text ↔ withoutFirst afterExport? true text.toList ≠ text.toList := by
  constructor
  · rintro ⟨before, blank, rest, same, line, isBlank⟩ unchanged
    have shorter := length_withoutFirst_lt removal_export line
      (isSome_afterExport?_iff.2 ⟨blank, rest, rfl, isBlank⟩)
    rw [← same, unchanged] at shorter
    exact lt_irrefl _ shorter
  · intro changes
    obtain ⟨before, rest, same, line, found⟩ := exists_of_withoutFirst_ne changes
    obtain ⟨blank, more, rfl, isBlank⟩ := isSome_afterExport?_iff.1 found
    exact ⟨before, blank, more, same, line, isBlank⟩

theorem toList_cleaned
    (source : String) :
    (cleaned source).toList = Text.trimBy Text.isBlank
      (withoutFirst afterExport? true (withoutFirst afterDefaultExport? true source.toList)) := by
  unfold cleaned
  exact String.toList_ofList

/-- Where there is no export there is no default export. -/
theorem withoutFirst_default_of_export
    {text : List Char}
    (unchanged : withoutFirst afterExport? true text = text) :
    withoutFirst afterDefaultExport? true text = text := by
  by_contra changes
  obtain ⟨before, rest, rfl, line, found⟩ := exists_of_withoutFirst_ne changes
  obtain ⟨remaining, found⟩ := Option.isSome_iff_exists.1 found
  obtain ⟨behind, first, _⟩ := exists_export_of_default found
  have shorter := length_withoutFirst_lt removal_export line
    (Option.isSome_iff_exists.2 ⟨behind, first⟩)
  rw [unchanged] at shorter
  exact lt_irrefl _ shorter

theorem length_trimBy_le
    (drop : Char -> Bool)
    (text : List Char) : (Text.trimBy drop text).length ≤ text.length :=
  ((List.rdropWhile_prefix drop _).length_le).trans (List.dropWhile_suffix drop).length_le

/-- Cleaned source is final, so that cleaning it again does not change it, just if there is no export
in it. -/
theorem cleaned_cleaned_iff
    (source : String) :
    cleaned (cleaned source) = cleaned source ↔ ¬ Exports (cleaned source) := by
  rw [exports_iff, not_not, ← String.toList_inj, toList_cleaned]
  have trimmed : Text.trimBy Text.isBlank (cleaned source).toList = (cleaned source).toList := by
    rw [toList_cleaned, Text.trimBy_trimBy]
  generalize (cleaned source).toList = text at *
  constructor
  · intro final
    by_contra changes
    -- No step of cleaning makes a text longer, so one that comes back whole was changed by none.
    have shorter := (withoutFirst_eq_or_lt removal_export).resolve_left changes
    have le := length_trimBy_le Text.isBlank
      (withoutFirst afterExport? true (withoutFirst afterDefaultExport? true text))
    rw [final] at le
    by_cases same : withoutFirst afterDefaultExport? true text = text
    · rw [same] at le
      exact absurd shorter (Nat.not_lt.2 le)
    · have less := (withoutFirst_eq_or_lt removal_default).resolve_left same
      have second := length_withoutFirst_le removal_export true
        (withoutFirst afterDefaultExport? true text)
      exact absurd less (Nat.not_lt.2 (le.trans second))
  · intro unchanged
    rw [withoutFirst_default_of_export unchanged, unchanged, trimmed]

/-! ## Counting exports -/

/-- The number of exports that can be taken out one after the other, each at the start of a line; what
comes to stand at the start of a line when an export is taken out is counted too.  The word of an export
with nothing but blanks behind it is not one, since it is the last word of trimmed text. -/
def exportCount (lineStart : Bool) : List Char -> Nat
  | [] => 0
  | character :: rest =>
      match found : if lineStart then afterExport? (character :: rest) else none with
      | some remaining => if remaining = [] then 0 else exportCount true remaining + 1
      | none => exportCount (character == '\n') rest
  termination_by text => text.length
  decreasing_by
    · split at found
      · exact removal_export.shorter found
      · cases found
    · exact Nat.lt_succ_self _

section ExportCount

variable {lineStart : Bool}

@[simp] theorem exportCount_nil : exportCount lineStart [] = 0 := by
  rw [exportCount]

theorem exportCount_of_some
    {text remaining : List Char}
    (found : afterExport? text = some remaining) :
    exportCount true text = if remaining = [] then 0 else exportCount true remaining + 1 := by
  cases text with
  | nil => cases found
  | cons character rest =>
    rw [exportCount]
    split
    · rename_i other here
      rw [if_pos rfl, found] at here
      cases here
      rfl
    · rename_i here
      rw [if_pos rfl, found] at here
      cases here

theorem exportCount_cons
    {character : Char}
    {rest : List Char}
    (nothing : lineStart = true -> afterExport? (character :: rest) = none) :
    exportCount lineStart (character :: rest) = exportCount (character == '\n') rest := by
  rw [exportCount]
  split
  · rename_i remaining matched
    obtain ⟨starts, here⟩ := Option.ite_none_right_eq_some.1 matched
    cases (nothing starts).symm.trans here
  · rfl

/-- Within a line there is no export. -/
theorem exportCount_line
    {text : List Char}
    (line : '\n' ∉ text) : exportCount false text = 0 := by
  induction text with
  | nil => exact exportCount_nil
  | cons character rest ih =>
    rw [List.mem_cons, not_or] at line
    rw [exportCount_cons (by simp), beq_eq_false_iff_ne.2 (Ne.symm line.1), ih line.2]

/-- Whether a text begins with an export is seen within its first line and one character more. -/
theorem isSome_afterExport?_withoutFirst
    (text : List Char) :
    (afterExport? (withoutFirst afterExport? false text)).isSome ↔ (afterExport? text).isSome := by
  have seen (text : List Char) : (afterExport? text).isSome ↔
      ∃ blank, Text.isBlank blank = true ∧ "export".toList ++ [blank] <+: text := by
    rw [isSome_afterExport?_iff]
    constructor
    · rintro ⟨blank, rest, rfl, isBlank⟩
      exact ⟨blank, isBlank, rest, by simp⟩
    · rintro ⟨blank, isBlank, rest, rfl⟩
      exact ⟨blank, rest, by simp, isBlank⟩
  rw [seen, seen]
  refine exists_congr fun blank => and_congr_right fun _ => prefix_withoutFirst_iff ?_ _ _
  rw [List.dropLast_concat]
  decide

/-- Taking out the first export leaves one export less. -/
theorem exportCount_withoutFirst
    (text : List Char) :
    exportCount lineStart (withoutFirst afterExport? lineStart text) =
      exportCount lineStart text - 1 := by
  induction text generalizing lineStart with
  | nil => rw [withoutFirst, exportCount_nil]
  | cons character rest ih =>
    rw [withoutFirst]
    split
    · rename_i remaining matched
      obtain ⟨rfl, here⟩ := Option.ite_none_right_eq_some.1 matched
      rw [exportCount_of_some here]
      split
      · rename_i nothing
        rw [nothing, exportCount_nil]
      · rfl
    · rename_i here
      have nothing (starts : lineStart = true) : afterExport? (character :: rest) = none := by
        rwa [if_pos starts] at here
      rw [exportCount_cons nothing, ← ih]
      refine exportCount_cons fun starts => Option.not_isSome_iff_eq_none.1 fun found => ?_
      have before := (isSome_afterExport?_withoutFirst (character :: rest)).1 found
      rw [nothing starts] at before
      cases before

/-- Nothing is left behind a word only where the text ends with a blank. -/
theorem exists_blank_of_afterWord?_nil
    {word text : List Char}
    (found : afterWord? word text = some []) :
    ∃ last ∈ text.getLast?, Text.isBlank last = true := by
  obtain ⟨blank, rest, rfl, isBlank, nothing⟩ := afterWord?_eq_some_iff.1 found
  have blanks : ∀ character ∈ blank :: rest, Text.isBlank character = true :=
    List.forall_mem_cons.2 ⟨isBlank, List.dropWhile_eq_nil_iff.1 nothing⟩
  have filled : blank :: rest ≠ [] := List.cons_ne_nil blank rest
  refine ⟨(blank :: rest).getLast filled, ?_, blanks _ (List.getLast_mem filled)⟩
  rw [List.getLast?_append, List.getLast?_eq_some_getLast filled]
  rfl

/-- A text that does not end with a blank changes when an export is taken out just if it has one. -/
theorem exportCount_pos_iff
    {text : List Char}
    (inked : ∀ last ∈ text.getLast?, Text.isBlank last = false) :
    0 < exportCount lineStart text ↔ withoutFirst afterExport? lineStart text ≠ text := by
  induction text generalizing lineStart with
  | nil => simp [withoutFirst]
  | cons character rest ih =>
    rw [withoutFirst]
    split
    · rename_i remaining matched
      obtain ⟨rfl, here⟩ := Option.ite_none_right_eq_some.1 matched
      have filled : remaining ≠ [] := by
        rintro rfl
        obtain ⟨last, isLast, isBlank⟩ := exists_blank_of_afterWord?_nil here
        exact Bool.false_ne_true ((inked last isLast).symm.trans isBlank)
      rw [exportCount_of_some here, if_neg filled]
      refine iff_of_true (Nat.succ_pos _) fun same => ?_
      have shorter := removal_export.shorter here
      rw [same] at shorter
      exact lt_irrefl _ shorter
    · rename_i here
      have nothing (starts : lineStart = true) : afterExport? (character :: rest) = none := by
        rwa [if_pos starts] at here
      have inkedRest : ∀ last ∈ rest.getLast?, Text.isBlank last = false := fun last isLast =>
        inked last (List.mem_getLast?_cons isLast)
      rw [exportCount_cons nothing, ih inkedRest, Ne, Ne, List.cons_inj_right]

theorem afterWord?_of_inked
    (word rest : List Char)
    {next : Char}
    (inked : Text.isBlank next = false) : afterWord? word (word ++ next :: rest) = none := by
  unfold afterWord?
  rw [if_pos (List.isPrefixOf_iff_prefix.2 (List.prefix_append _ _)), List.drop_left]
  exact if_neg (by rw [inked]; decide)

theorem afterWord?_of_not_prefix
    {word text : List Char}
    (other : ¬ word <+: text) : afterWord? word text = none :=
  if_neg fun starts => other (List.isPrefixOf_iff_prefix.1 starts)

/-- What is found behind a word when there is one more blank at the end of the text. -/
theorem afterWord?_concat
    {word : List Char}
    {blank : Char}
    (isBlank : Text.isBlank blank = true)
    (apart : blank ∉ word)
    (text : List Char) :
    afterWord? word (text ++ [blank]) =
      if text = word then some []
      else (afterWord? word text).map fun remaining =>
        if remaining = [] then [] else remaining ++ [blank] := by
  by_cases starts : word <+: text
  · obtain ⟨more, rfl⟩ := starts
    cases more with
    | nil =>
      rw [List.append_nil, if_pos rfl]
      exact afterWord?_word word [] isBlank
    | cons next others =>
      rw [if_neg (by simp), List.append_assoc, List.cons_append]
      cases spaced : Text.isBlank next with
      | true =>
        rw [afterWord?_word word _ spaced, afterWord?_word word _ spaced, List.dropWhile_append]
        simp [isBlank, apply_ite]
      | false =>
        rw [afterWord?_of_inked word _ spaced, afterWord?_of_inked word _ spaced, Option.map_none]
  · have other : text ≠ word := fun same => starts (same ▸ List.prefix_rfl)
    have longer : ¬ word <+: text ++ [blank] := fun begins =>
      starts ((Text.prefix_append_cons_iff apart text []).1 begins)
    rw [if_neg other, afterWord?_of_not_prefix starts, afterWord?_of_not_prefix longer, Option.map_none]

/-- A blank at the end does not count. -/
theorem exportCount_concat
    {blank : Char}
    (isBlank : Text.isBlank blank = true)
    (text : List Char) : exportCount lineStart (text ++ [blank]) = exportCount lineStart text := by
  have inked : ∀ letter ∈ "export".toList, Text.isBlank letter = false := by decide
  have apart : blank ∉ "export".toList := fun member =>
    Bool.false_ne_true ((inked blank member).symm.trans isBlank)
  have longer (text : List Char) := afterWord?_concat isBlank apart text
  have unended : afterExport? "export".toList = none := by decide
  fun_induction exportCount lineStart text with
  | case1 lineStart =>
    have nothing : afterExport? [blank] = none :=
      removal_export.start fun same => apart (Option.some.inj same ▸ by decide)
    exact (exportCount_cons fun _ => nothing).trans exportCount_nil
  | case2 lineStart character rest matched =>
    obtain ⟨rfl, found⟩ := Option.dite_none_right_eq_some.1 matched
    have same : afterExport? (character :: rest ++ [blank]) = some [] := by
      refine (longer (character :: rest)).trans ?_
      rw [show afterWord? "export".toList (character :: rest) = some [] from found,
        Option.map_some, if_pos rfl, ite_self]
    rw [exportCount_of_some same, if_pos rfl]
  | case3 lineStart character rest remaining matched filled ih =>
    obtain ⟨rfl, found⟩ := Option.dite_none_right_eq_some.1 matched
    have other : character :: rest ≠ "export".toList := by
      intro word
      rw [word, unended] at found
      cases found
    have same : afterExport? (character :: rest ++ [blank]) = some (remaining ++ [blank]) := by
      refine (longer (character :: rest)).trans ?_
      rw [if_neg other, show afterWord? "export".toList (character :: rest) = some remaining from
        found, Option.map_some, if_neg filled]
    rw [exportCount_of_some same, if_neg (by simp), ih]
  | case4 lineStart character rest nothing ih =>
    cases lineStart with
    | false => exact (exportCount_cons (by simp)).trans ih
    | true =>
      rw [dif_pos rfl] at nothing
      -- The bare word begins an export only with the blank behind it, and such an export does not count.
      by_cases word : character :: rest = "export".toList
      · have same : afterExport? (character :: rest ++ [blank]) = some [] :=
          (longer (character :: rest)).trans (if_pos word)
        rw [exportCount_of_some same, if_pos rfl]
        cases word
        exact (exportCount_line (by decide)).symm
      · have same : afterExport? (character :: rest ++ [blank]) = none := by
          refine (longer (character :: rest)).trans ?_
          rw [if_neg word, show afterWord? "export".toList (character :: rest) = none from nothing,
            Option.map_none]
        exact (exportCount_cons fun _ => same).trans ih

theorem exportCount_rdropWhile
    (text : List Char) :
    exportCount lineStart (text.rdropWhile Text.isBlank) = exportCount lineStart text := by
  induction text using List.reverseRecOn with
  | nil => rfl
  | append_singleton rest last ih =>
    rw [List.rdropWhile_concat]
    split
    · rename_i isBlank
      rw [ih, exportCount_concat isBlank]
    · rfl

end ExportCount

/-! ## Source that is not indented -/

/-- What follows the blanks at the front of a text starts a line. -/
def Unindented (text : List Char) : Prop :=
  BeforeLine true (text.takeWhile Text.isBlank)

section Blanks

variable {lineStart : Bool} {blanks : List Char}
  (line : BeforeLine lineStart blanks)
  (spaced : ∀ character ∈ blanks, Text.isBlank character = true)
include line spaced

theorem withoutFirst_blanks
    {after? : List Char -> Option (List Char)}
    (removal : Removal after?)
    (rest : List Char) :
    withoutFirst after? lineStart (blanks ++ rest) = blanks ++ withoutFirst after? true rest := by
  induction blanks generalizing lineStart with
  | nil =>
    cases line.start rfl
    rfl
  | cons character more ih =>
    obtain ⟨isBlank, spaced⟩ := List.forall_mem_cons.1 spaced
    have other : character ≠ 'e' := by
      rintro rfl
      cases isBlank
    rw [List.cons_append, withoutFirst_cons removal.start fun _ => other,
      ih (beforeLine_cons_iff.1 line) spaced, List.cons_append]

theorem exportCount_blanks
    (rest : List Char) : exportCount lineStart (blanks ++ rest) = exportCount true rest := by
  induction blanks generalizing lineStart with
  | nil =>
    cases line.start rfl
    rfl
  | cons character more ih =>
    obtain ⟨isBlank, spaced⟩ := List.forall_mem_cons.1 spaced
    have other : (character :: (more ++ rest)).head? ≠ some 'e' := by
      rintro ⟨⟩
      cases isBlank
    rw [List.cons_append, exportCount_cons fun _ => removal_export.start other,
      ih (beforeLine_cons_iff.1 line) spaced]

end Blanks

/-- What does not begin with a blank does not do so without its first match. -/
theorem inked_withoutFirst
    {after? : List Char -> Option (List Char)}
    (removal : Removal after?)
    {text : List Char}
    (inked : ∀ first ∈ text.head?, Text.isBlank first = false) :
    ∀ first ∈ (withoutFirst after? true text).head?, Text.isBlank first = false := by
  cases text with
  | nil => exact inked
  | cons character rest =>
    rw [withoutFirst, if_pos rfl]
    split
    · rename_i remaining found
      exact removal.inked found
    · exact inked

/-- The number of exports in source whose first default export has been taken out. -/
def furtherExports (source : String) : Nat :=
  exportCount true (withoutFirst afterDefaultExport? true source.toList)

/-- Of source that is not indented one export is left just if there is more than one besides the first
default export. -/
theorem exports_cleaned_iff
    {source : String}
    (unindented : Unindented source.toList) :
    Exports (cleaned source) ↔ 1 < furtherExports source := by
  unfold furtherExports Unindented at *
  rw [exports_iff, toList_cleaned]
  have spaced : ∀ character ∈ source.toList.takeWhile Text.isBlank, Text.isBlank character = true :=
    fun _ => List.mem_takeWhile_imp
  have inked : ∀ first ∈ (source.toList.dropWhile Text.isBlank).head?, Text.isBlank first = false := by
    intro first isFirst
    have stops := List.head?_dropWhile_not Text.isBlank source.toList
    rw [isFirst] at stops
    exact stops
  have joined := List.takeWhile_append_dropWhile (p := Text.isBlank) (l := source.toList)
  generalize source.toList.takeWhile Text.isBlank = blanks at *
  generalize source.toList.dropWhile Text.isBlank = ink at *
  rw [← joined, withoutFirst_blanks unindented spaced removal_default,
    withoutFirst_blanks unindented spaced removal_export, exportCount_blanks unindented spaced]
  have inkedDefault := inked_withoutFirst removal_default inked
  generalize withoutFirst afterDefaultExport? true ink = plain at *
  have inkedExport := inked_withoutFirst removal_export inkedDefault
  rw [Text.trimBy_append spaced inkedExport, ← exportCount_pos_iff (Text.kept_of_last_rdropWhile _),
    exportCount_rdropWhile, exportCount_withoutFirst, Nat.sub_pos_iff_lt]

end ComponentSource

namespace Session

open ComponentSource

/-! ## Importing again -/

/-- What an import keeps as component is cleaned source that looked like a component.  With other source
in its place the import gives the same template with what is kept of the other source. -/
theorem importedTemplate_of_component
    {source : ImportSource}
    {members : Table Json}
    {givenId : Json}
    {template : Template}
    {held : String}
    (done : importedTemplate source members givenId = .ok template)
    (kept : template.component = some held) :
    (∃ component, isPlausible component = true ∧ held = cleaned component) ∧
      ∀ other, importedTemplate { source with component := other } members givenId =
        .ok { template with component := (ComponentSource.ofJson? other).map cleaned } := by
  obtain ⟨manifest, manifestRead, opened⟩ := ok_of_bind done
  obtain ⟨snapshot, snapshotRead, _⟩ := ok_of_bind opened
  rw [Checked.orInvalid_eq_ok] at manifestRead snapshotRead
  rw [importedTemplate_of_read manifestRead snapshotRead] at done
  cases done
  dsimp only at kept ⊢
  split at kept
  · rename_i sameId
    refine ⟨?_, fun other => ?_⟩
    · obtain ⟨component, read, cleans⟩ := Option.map_eq_some_iff.1 kept
      cases given : source.component with
      | str text =>
        rw [given, ComponentSource.ofJson?] at read
        split at read
        · rename_i recognized
          exact ⟨text, recognized, Option.some.inj read ▸ cleans.symm⟩
        · cases read
      | _ =>
        rw [given] at read
        cases read
    · have described := @importedTemplate_of_read { source with component := other } members givenId
        manifest snapshot manifestRead snapshotRead
      rw [described, if_pos sameId]
  · cases kept

/-- Cleaned component source is final, so that cleaning it again does not change it, just if no line of
it begins with an export; and where the source is not indented that is so just if it had at most one
besides its first default export.  A template that an import has given a component comes out as it is of
the import of that component just if no line of the component begins with an export. -/
theorem cleaned_component_final_iff
    (component : String) :
    (cleaned (cleaned component) = cleaned component ↔ ¬ Exports (cleaned component)) ∧
      (Unindented component.toList ->
        (¬ Exports (cleaned component) ↔ furtherExports component ≤ 1)) ∧
      ∀ (source : ImportSource) (members : Table Json) (givenId : Json) (template : Template)
        (held : String),
        importedTemplate source members givenId = .ok template ->
          template.component = some held ->
            (importedTemplate { source with component := .str held } members givenId =
              .ok template ↔ ¬ Exports held) := by
  refine ⟨cleaned_cleaned_iff component, fun unindented => ?_, ?_⟩
  · rw [exports_cleaned_iff unindented, Nat.not_lt]
  · intro source members givenId template held done kept
    obtain ⟨⟨first, recognized, cleans⟩, again⟩ := importedTemplate_of_component done kept
    have looksLikeOne : ComponentSource.ofJson? (.str held) = some held :=
      if_pos (cleans ▸ isPlausible_cleaned recognized)
    rw [again, looksLikeOne, cleans, ← cleaned_cleaned_iff first, ← cleans, Option.map_some]
    constructor
    · intro same
      have components := congrArg Template.component (Except.ok.inj same)
      exact Option.some.inj (components.trans kept)
    · intro final
      rw [final, ← kept]

/-- Source with two exports keeps one of them, and is cleaned further by cleaning it again. -/
theorem second_export_left :
    ¬ ∀ component, ¬ Exports (cleaned component) ∧
      cleaned (cleaned component) = cleaned component := by
  intro all
  have final := (all "export const a = 1;\nexport const b = 2;").2
  revert final
  decide +kernel

/-- Component source with a default export. -/
def exportingComponent : String :=
  "export default class X extends HTMLElement \x7b playAction() \x7b\x7d \x7d"

/-- The same source without it. -/
def plainComponent : String :=
  "class X extends HTMLElement \x7b playAction() \x7b\x7d \x7d"

/-- Its one export is taken out of component source, and importing what is kept changes nothing. -/
theorem plainComponent_final :
    ¬ Exports (cleaned exportingComponent) ∧
      ∃ template, template.component = some plainComponent ∧
        ∀ component, component = exportingComponent ∨ component = plainComponent ->
          importedTemplate ⟨.null, .str component, .null, .null⟩
            [("id", .str "with-code"), ("name", .str "With")] (.str "with-code") = .ok template := by
  have noBlank : exportingComponent.toList.takeWhile Text.isBlank = [] := by decide +kernel
  have unindented : Unindented exportingComponent.toList := by
    unfold Unindented
    rw [noBlank]
    exact .nil
  have few : furtherExports exportingComponent ≤ 1 := by decide +kernel
  have cleans : cleaned exportingComponent = plainComponent := by decide +kernel
  obtain ⟨_, free, again⟩ := cleaned_component_final_iff exportingComponent
  have free := (free unindented).2 few
  obtain ⟨template, made, kept⟩ : ∃ template,
      importedTemplate ⟨.null, .str exportingComponent, .null, .null⟩
          [("id", .str "with-code"), ("name", .str "With")] (.str "with-code") = .ok template ∧
        template.component = some plainComponent :=
    ⟨_, rfl, by decide +kernel⟩
  refine ⟨free, template, kept, ?_⟩
  rintro _ (rfl | rfl)
  · exact made
  · exact (again _ _ _ template plainComponent made kept).2 (cleans ▸ free)

end Session
end BroadcastGraphics
