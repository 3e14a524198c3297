import BroadcastGraphics.Proofs.PlaceholderText
import BroadcastGraphics.Proofs.ScriptNumbers

/-!
# Live text and playing components

Live text is to be what a playing component shows for the same data.  For texts and truth values it is,
for numbers it depends on the notation, and for lists and objects it never is, whatever is in them.  A
name without a value stays as it is in live text, but in a playing component it may stand for something
that every object has.
-/

namespace BroadcastGraphics

namespace Text

/-! ## Texts and their quoted forms -/

theorem exists_digit_of_mem_toDigits
    {value : Nat}
    {character : Char}
    (member : character ∈ Nat.toDigits 16 value) : ∃ digit < 16, character = digit.digitChar := by
  induction value using Nat.strongRecOn with
  | ind value ih =>
    by_cases small : value < 16
    · rw [Nat.toDigits_of_lt_base small, List.mem_singleton] at member
      exact ⟨value, small, member⟩
    · rw [Nat.toDigits_of_base_le (by decide) (Nat.not_lt.1 small), List.mem_append,
        List.mem_singleton] at member
      rcases member with before | last
      · exact ih (value / 16) (by omega) before
      · exact ⟨value % 16, Nat.mod_lt _ (by decide), last⟩

theorem doubleQuote_notMem_hexPadded
    (width value : Nat) : '\x22' ∉ hexPadded width value := by
  have noDigit : ∀ digit < 16, '\x22' ≠ Nat.digitChar digit := by decide
  intro member
  rcases List.mem_append.1 member with zeros | digits
  · exact absurd (List.eq_of_mem_replicate zeros) (by decide)
  · obtain ⟨digit, small, same⟩ := exists_digit_of_mem_toDigits digits
    exact noDigit digit small same

theorem doubleQuote_notMem_codePointEscape
    (character : Char) : '\x22' ∉ codePointEscape character := by
  have noDigits := doubleQuote_notMem_hexPadded
  unfold codePointEscape
  dsimp only
  split
  · simp [noDigits]
  · split <;> simp [noDigits]

/-- Only a double quote is shown with one. -/
theorem eq_of_mem_quotedCharacter
    {quote character : Char}
    (member : '\x22' ∈ quotedCharacter quote character) : character = '\x22' := by
  unfold quotedCharacter at member
  split_ifs at member
  case neg => exact absurd member (doubleQuote_notMem_codePointEscape character)
  all_goals simp at member
  all_goals exact member.symm

theorem quotedCharacter_ne_nil
    (quote character : Char) : quotedCharacter quote character ≠ [] := by
  have escaped : codePointEscape character ≠ [] := by
    unfold codePointEscape
    dsimp only
    split
    · exact List.cons_ne_nil _ _
    · split <;> exact List.cons_ne_nil _ _
  unfold quotedCharacter
  split_ifs
  case neg => exact escaped
  all_goals exact List.cons_ne_nil _ _

theorem length_le_flatMap_quotedCharacter
    (quote : Char)
    (text : List Char) : text.length ≤ (text.flatMap (quotedCharacter quote)).length := by
  induction text with
  | nil => exact Nat.le_refl 0
  | cons character rest ih =>
    have filled := List.length_pos_of_ne_nil (quotedCharacter_ne_nil quote character)
    rw [List.flatMap_cons, List.length_append, List.length_cons]
    omega

/-- A text that holds its own enclosing quote holds both kinds of quotes, and the single ones enclose
it. -/
theorem enclosingQuote_of_mem
    {text : List Char}
    (member : enclosingQuote text ∈ text) : enclosingQuote text = '\x27' ∧ '\x22' ∈ text := by
  unfold enclosingQuote at *
  by_cases double : '\x22' ∈ text
  · simp [double]
  · by_cases single : '\x27' ∈ text
    · simp [double, single] at member
    · simp [double, single] at member

/-- What may stand behind an item: nothing, or a comma and more. -/
def EndsItem (rest : List Char) : Prop :=
  ∀ first ∈ rest.head?, first = ','

/-- What stands behind a text and some brackets is in the text. -/
theorem exists_rest_of_brackets
    {count : Nat}
    {text separator rest : List Char}
    {quote : Char}
    (noComma : quote ≠ ',')
    (ends : EndsItem separator)
    (same : text ++ separator = List.replicate count '[' ++ quote :: rest) :
    ∃ more, text = List.replicate count '[' ++ quote :: more ∧ more ++ separator = rest := by
  rcases List.append_eq_append_iff.1 same with ⟨behind, brackets, after⟩ | ⟨more, whole, after⟩
  · exfalso
    cases behind with
    | nil => exact noComma (ends quote (after ▸ rfl))
    | cons first others =>
      have bracket : first = '[' := by
        have member : first ∈ List.replicate count '[' := by
          rw [brackets]
          simp
        exact List.eq_of_mem_replicate member
      have comma : first = ',' := ends first (after ▸ rfl)
      rw [bracket] at comma
      exact absurd comma (by decide)
  · cases more with
    | nil =>
      rw [List.nil_append] at after
      exact absurd (ends quote (after ▸ rfl)) noComma
    | cons first others =>
      rw [List.cons_append, List.cons.injEq] at after
      obtain ⟨rfl, rfl⟩ := after
      exact ⟨others, whole, rfl⟩

/-- A text does not start with its own quoted form, also not behind brackets. -/
theorem append_ne_quoted
    (count : Nat)
    (text rest : List Char)
    {separator : List Char}
    (ends : EndsItem separator) :
    text ++ separator ≠ List.replicate count '[' ++ (quoted text ++ rest) := by
  intro same
  have noComma : enclosingQuote text ≠ ',' := by
    unfold enclosingQuote
    split <;> decide
  unfold quoted at same
  dsimp only at same
  rw [List.cons_append, List.cons_append, List.append_assoc] at same
  obtain ⟨more, whole, after⟩ := exists_rest_of_brackets noComma ends same
  generalize shown : enclosingQuote text = quote at *
  have member : quote ∈ text := by
    rw [whole]
    simp
  subst shown
  obtain ⟨single, double⟩ := enclosingQuote_of_mem member
  rw [single] at whole after
  have inMore : '\x22' ∈ more := by
    rw [whole, List.mem_append, List.mem_cons] at double
    rcases double with bracket | quote | inMore
    · exact absurd (List.eq_of_mem_replicate bracket) (by decide)
    · exact absurd quote (by decide)
    · exact inMore
  -- The first double quote stands at two places, since the quoted form holds all that is before it.
  obtain ⟨before, behind, split, first⟩ := List.eq_append_cons_of_mem inMore
  generalize opening : List.replicate count '[' ++ '\x27' :: before = front at *
  have parts : text = front ++ '\x22' :: behind := by
    rw [whole, split, ← opening, List.append_assoc, List.cons_append]
  have longer : before.length < (front.flatMap (quotedCharacter '\x27')).length := by
    have shown := length_le_flatMap_quotedCharacter '\x27' front
    rw [← opening, List.length_append, List.length_cons] at shown
    rw [← opening]
    omega
  have noQuote : '\x22' ∉ front.flatMap (quotedCharacter '\x27') := by
    intro within
    obtain ⟨character, isThere, shown⟩ := List.mem_flatMap.1 within
    rw [eq_of_mem_quotedCharacter shown, ← opening, List.mem_append, List.mem_cons] at isThere
    rcases isThere with bracket | quote | inBefore
    · exact absurd (List.eq_of_mem_replicate bracket) (by decide)
    · exact absurd quote (by decide)
    · exact first inBefore
  rw [parts, split, List.flatMap_append, List.flatMap_cons,
    show quotedCharacter '\x27' '\x22' = ['\x22'] by decide] at after
  simp only [List.append_assoc, List.cons_append, List.nil_append] at after
  rcases List.append_eq_append_iff.1 after with ⟨between, longerBy, next⟩ | ⟨between, longerBy, next⟩
  · cases between with
    | nil =>
      rw [longerBy, List.append_nil] at longer
      exact lt_irrefl _ longer
    | cons own others =>
      cases (List.cons.inj next).1
      refine noQuote ?_
      rw [longerBy]
      simp
  · rw [longerBy, List.length_append] at longer
    omega

theorem EndsItem.append_ne_brackets
    {text separator : List Char}
    (ends : EndsItem separator)
    (noBracket : '[' ∉ text)
    (rest : List Char) : text ++ separator ≠ '[' :: rest := by
  intro same
  cases text with
  | nil => exact absurd (ends '[' (by rw [← List.nil_append separator, same]; rfl)) (by decide)
  | cons first more => exact noBracket ((List.cons.inj same).1 ▸ List.mem_cons_self)

end Text

namespace Binary64

theorem bracket_notMem_of_areDigits
    {digits : List Char}
    (areDigits : Json.Reader.AreDigits digits) : '[' ∉ digits :=
  fun member => absurd (areDigits '[' member) (by decide)

theorem bracket_notMem_scriptText_decimal
    {decimal : Decimal}
    (areDigits : Json.Reader.AreDigits decimal.digits) : '[' ∉ decimal.scriptText := by
  have digits := bracket_notMem_of_areDigits areDigits
  have exponent := bracket_notMem_of_areDigits
    (Json.Reader.areDigits_decimalDigits (decimal.point - 1).natAbs)
  have pointed : '[' ∉ pointedDigits decimal.digits := by
    unfold pointedDigits
    split
    · rename_i shown
      rw [shown] at digits
      simpa using digits
    · exact digits
  have taken : '[' ∉ decimal.digits.take decimal.point.toNat :=
    fun member => digits (List.mem_of_mem_take member)
  have dropped : '[' ∉ decimal.digits.drop decimal.point.toNat :=
    fun member => digits (List.mem_of_mem_drop member)
  unfold Decimal.scriptText
  dsimp only
  split
  · simp [digits]
  · split
    · simp [taken, dropped]
    · split
      · simp [digits]
      · simp only [List.mem_append, List.mem_cons, pointed, exponent]
        split <;> decide

theorem bracket_notMem_scriptText
    (number : Binary64) : '[' ∉ number.scriptText := by
  cases number with
  | finite negative rank =>
    have digits := bracket_notMem_scriptText_decimal (readsBack_shortest rank).areDigits
    unfold scriptText
    dsimp only
    split
    · simpa using digits
    · exact digits
  | infinite negative => cases negative <;> decide
  | nan => decide

end Binary64

namespace Json

/-! ## Lists and objects -/

/-- A list is shown with its first item behind a bracket. -/
theorem exists_displayInner_cons
    (item : Json)
    (others : List Json) :
    ∃ behind, displayInner (.arr (item :: others)) = '[' :: (displayInner item ++ behind) := by
  cases others with
  | nil => exact ⟨[']'], by simp [displayInner, displayItems]⟩
  | cons next more =>
    exact ⟨',' :: ' ' :: (displayItems (next :: more) ++ [']']), by
      simp [displayInner, displayItems]⟩

theorem objectText_eq : objectText = '[' :: 'o' :: "bject Object]".toList := by
  decide

mutual

/-- An item of a list is shown in other words than a script makes of it: behind the brackets in front of
it there never stands what the script writes. -/
theorem script_ne_item :
    ∀ (item : Json) (count : Nat) {text separator : List Char} (rest : List Char),
      (if item.isNull then some [] else item.scriptText?) = some text -> Text.EndsItem separator ->
        text ++ separator ≠ List.replicate (count + 1) '[' ++ (displayInner item ++ rest)
  | .null, count, text, separator, rest, written, ends => by
      cases written
      exact ends.append_ne_brackets List.not_mem_nil _
  | .bool value, count, text, separator, rest, written, ends => by
      cases written
      exact ends.append_ne_brackets (by cases value <;> decide) _
  | .int value, count, text, separator, rest, written, ends => by
      cases written
      exact ends.append_ne_brackets (Binary64.bracket_notMem_scriptText _) _
  | .float value, count, text, separator, rest, written, ends => by
      cases written
      exact ends.append_ne_brackets (Binary64.bracket_notMem_scriptText _) _
  | .str value, count, text, separator, rest, written, ends => by
      cases written
      exact Text.append_ne_quoted (count + 1) value.toList rest ends
  | .arr items, count, text, separator, rest, written, ends =>
      script_ne_items items (count + 1) rest written ends
  | .obj members, count, text, separator, rest, written, ends => by
      have isText : text = objectText := by
        simp only [isNull, Bool.false_eq_true, if_false, scriptText?] at written
        split at written
        · cases written
        · exact (Option.some.inj written).symm
      intro same
      rw [isText, objectText_eq, List.replicate_succ, displayInner] at same
      have next := (List.cons.inj same).2
      cases count with
      | zero => exact absurd (List.cons.inj next).1 (by decide)
      | succ count =>
        rw [List.replicate_succ] at next
        exact absurd (List.cons.inj next).1 (by decide)

theorem script_ne_items :
    ∀ (items : List Json) (count : Nat) {text separator : List Char} (rest : List Char),
      scriptItems? items = some text -> Text.EndsItem separator ->
        text ++ separator ≠ List.replicate count '[' ++ (displayInner (.arr items) ++ rest)
  | [], count, text, separator, rest, written, ends => by
      cases written
      have brackets : List.replicate count '[' ++ (displayInner (.arr []) ++ rest) =
          '[' :: (List.replicate count '[' ++ (']' :: rest)) := by
        rw [← List.cons_append, ← List.replicate_succ, List.replicate_succ', List.append_assoc]
        rfl
      rw [brackets]
      exact ends.append_ne_brackets List.not_mem_nil _
  | item :: others, count, text, separator, rest, written, ends => by
      rw [scriptItems?, Option.bind_eq_bind, Option.bind_eq_some_iff] at written
      obtain ⟨first, firstText, written⟩ := written
      obtain ⟨further, furtherText, written⟩ := Option.bind_eq_some_iff.1 written
      cases written
      have endsFirst :
          Text.EndsItem ((if others.isEmpty then [] else ',' :: further) ++ separator) := by
        cases others with
        | nil => exact ends
        | cons next more =>
          rintro _ ⟨⟩
          rfl
      obtain ⟨behind, shown⟩ := exists_displayInner_cons item others
      have brackets : List.replicate count '[' ++ (displayInner (.arr (item :: others)) ++ rest) =
          List.replicate (count + 1) '[' ++ (displayInner item ++ (behind ++ rest)) := by
        rw [shown, List.replicate_succ']
        simp only [List.cons_append, List.append_assoc, List.nil_append]
      rw [List.append_assoc, brackets]
      exact script_ne_item item count _ firstText endsFirst

end

/-- A list or an object is shown in other words than a script makes of it. -/
theorem script_ne_liveText
    {value : Json}
    (compound : value.isScalar = false) : value.scriptText? ≠ some value.liveText.toList := by
  intro written
  cases value with
  | arr items =>
    have same : (liveText (.arr items)).toList = displayInner (.arr items) := String.toList_ofList
    rw [same] at written
    refine script_ne_items items 0 [] written (nofun : Text.EndsItem []) ?_
    rw [List.append_nil]
    rfl
  | obj members =>
    have same : (liveText (.obj members)).toList = displayInner (.obj members) := String.toList_ofList
    rw [same, scriptText?] at written
    split at written
    · cases written
    · rw [objectText_eq, displayInner] at written
      exact absurd (List.cons.inj (Option.some.inj written)).1 (by decide)
  | _ => cases compound

end Json

/-! ## Values that are shown alike -/

/-- A number has one text in live text and in a script: as an integer that keeps its digits, or as a
fraction that is not between the two notations. -/
@[irreducible] def Binary64.ShownAlike : Binary64 -> Prop
  | .finite negative rank =>
      match (Binary64.finite negative rank).whole? with
      | some value => Binary64.KeepsDigits value
      | none => -3 ≤ (Binary64.shortest rank).point ∨ (Binary64.shortest rank).point ≤ -9
  | .infinite _ => False
  | .nan => False

/-- A value has one text in live text and in a script. -/
def Json.ShownAlike : Json -> Prop
  | .null => True
  | .bool _ => True
  | .int value => Binary64.KeepsDigits value
  | .float value => value.ShownAlike
  | .str _ => True
  | .arr _ => False
  | .obj _ => False

namespace Binary64

theorem shownAlike_of_whole
    {number : Binary64}
    {value : Int}
    (whole : number.whole? = some value) : number.ShownAlike ↔ KeepsDigits value := by
  cases number with
  | finite negative rank =>
    unfold ShownAlike
    dsimp only
    rw [whole]
  | infinite negative => cases whole
  | nan => cases whole

/-- What a script makes of a number is its live text just if the number is shown alike. -/
theorem scriptText_eq_liveText_iff
    (number : Binary64) :
    number.scriptText = (Json.liveText (.float number)).toList ↔ number.ShownAlike := by
  cases whole : number.whole? with
  | some value =>
    rw [shownAlike_of_whole whole, scriptText_of_whole whole, Json.liveText, whole]
    exact scriptText_ofInt_iff value
  | none =>
    rw [Json.liveText, whole]
    cases number with
    | finite negative rank =>
      unfold ShownAlike
      dsimp only
      rw [whole]
      exact scriptText_fraction_iff whole Json.displayNames
    | infinite negative =>
      exact iff_of_false (by cases negative <;> decide) (by simp only [ShownAlike, not_false_iff])
    | nan => exact iff_of_false (by decide) (by simp only [ShownAlike, not_false_iff])

end Binary64

namespace Json

/-- What a script makes of a value is its live text just if the value is shown alike. -/
theorem scriptText?_eq_liveText_iff
    {value : Json}
    (something : value ≠ .null) :
    value.scriptText? = some value.liveText.toList ↔ value.ShownAlike := by
  cases value with
  | null => exact absurd rfl something
  | bool truth => exact iff_of_true (by cases truth <;> rfl) trivial
  | int number =>
    rw [scriptText?, Option.some.injEq]
    have shown : (liveText (.int number)).toList = (integerText number).toList := String.toList_ofList
    rw [shown]
    exact Binary64.scriptText_ofInt_iff number
  | float number =>
    rw [scriptText?, Option.some.injEq]
    exact number.scriptText_eq_liveText_iff
  | str text => exact iff_of_true rfl trivial
  | arr items => exact iff_of_false (script_ne_liveText rfl) id
  | obj members => exact iff_of_false (script_ne_liveText rfl) id

end Json

/-! ## Placeholders -/

namespace Placeholder

/-- A name stands for one text in live text and in a playing component: its value is shown alike, or it
has no value and is not a name that every object knows. -/
def Alike (data : Table Json) (name : String) : Prop :=
  match Table.get? data name with
  | some value => value.ShownAlike
  | none => name ∉ ScriptEngine.inheritedFunctions ∧ name ≠ ScriptEngine.prototypeName

/-- The text of what every object has is not a placeholder. -/
theorem inheritedText?_ne_source
    {engine : ScriptEngine}
    {name : String}
    {text : List Char}
    (inherited : engine.inheritedText? name = some text)
    (token : List Char) : text ≠ (Piece.token token).source := by
  intro same
  unfold ScriptEngine.inheritedText? at inherited
  split at inherited
  · obtain ⟨more, opens⟩ := engine.startsWithFunction name
    rw [← Option.some.inj inherited, ← opens] at same
    exact absurd (List.cons.inj same).1 (by decide)
  · split at inherited
    · rw [← Option.some.inj inherited, Json.objectText_eq] at same
      exact absurd (List.cons.inj same).1 (by decide)
    · cases inherited

theorem inheritedText?_eq_none_iff
    {engine : ScriptEngine}
    {name : String} :
    engine.inheritedText? name = none ↔
      name ∉ ScriptEngine.inheritedFunctions ∧ name ≠ ScriptEngine.prototypeName := by
  unfold ScriptEngine.inheritedText?
  split
  · rename_i function
    exact iff_of_false nofun fun others => others.1 function
  · rename_i noFunction
    split
    · rename_i isPrototype
      exact iff_of_false nofun fun others => others.2 isPrototype
    · rename_i other
      exact iff_of_true rfl ⟨noFunction, other⟩

/-- A placeholder becomes in a playing component what it becomes in live text just if its name stands
for one text. -/
theorem played?_eq_filled_iff
    (engine : ScriptEngine)
    (data : Table Json)
    (name : List Char) :
    (Piece.token name).played? engine data = some ((Piece.token name).filled data) ↔
      Alike data (String.ofList name) := by
  rw [Piece.played?, Piece.filled, Alike]
  cases found : Table.get? data (String.ofList name) with
  | none =>
    dsimp only
    rw [← @inheritedText?_eq_none_iff engine, Option.some.injEq]
    cases inherited : engine.inheritedText? (String.ofList name) with
    | none => exact iff_of_true rfl rfl
    | some text =>
      exact iff_of_false (inheritedText?_ne_source inherited name) (Option.some_ne_none text)
  | some value =>
    cases value with
    | null => exact iff_of_true rfl trivial
    | _ => exact Json.scriptText?_eq_liveText_iff (by simp)

theorem mapM_eq_some_map
    {α β : Type}
    {change : α -> Option β}
    {changed : α -> β}
    {items : List α}
    (each : ∀ item ∈ items, change item = some (changed item)) :
    items.mapM change = some (items.map changed) := by
  induction items with
  | nil => rfl
  | cons item rest ih =>
    obtain ⟨first, others⟩ := List.forall_mem_cons.1 each
    rw [List.mapM_cons, first, ih others]
    rfl

/-- Content all of whose names stand for one text each becomes one text. -/
theorem play?_eq_fill
    (engine : ScriptEngine)
    {data : Table Json}
    {content : Option String}
    (alike : ∀ name ∈ names content, Alike data name) :
    play? engine content data = some (fill content data) := by
  cases content with
  | none => rfl
  | some content =>
    have each : ∀ piece ∈ pieces content, piece.played? engine data = some (piece.filled data) := by
      intro piece member
      cases piece with
      | plain character => rfl
      | token name =>
        exact (played?_eq_filled_iff engine data name).2
          (alike _ ((mem_names_iff content _).2 ⟨name, member, rfl⟩))
    unfold play? fill
    dsimp only
    rw [mapM_eq_some_map each, List.flatMap_def]
    rfl

/-- A placeholder has in a playing component the text that it has in live text just if it stands for a
text, a truth value, nothing, or a number in a notation that both share, and, without a value, just if its
name is not one that every object knows; never if it stands for a list or an object.  So content in which
that holds for all names has one text.  It holds for every integer below `2 ^ 53`, also as a
double-precision number. -/
theorem live_text_is_played_iff
    (engine : ScriptEngine)
    (data : Table Json) :
    (∀ name, (Piece.token name).played? engine data = some ((Piece.token name).filled data) ↔
        Alike data (String.ofList name)) ∧
      (∀ content, (∀ name ∈ names content, Alike data name) ->
        play? engine content data = some (fill content data)) ∧
      ∀ value : Int, value.natAbs < 2 ^ 53 ->
        (Json.int value).ShownAlike ∧
          ∀ number : Binary64, number.whole? = some value -> (Json.float number).ShownAlike :=
  ⟨played?_eq_filled_iff engine data, fun _ alike => play?_eq_fill engine alike,
    fun _ small => ⟨Binary64.keepsDigits_of_small small, fun _ whole =>
      (Binary64.shownAlike_of_whole whole).2 (Binary64.keepsDigits_of_small small)⟩⟩

/-- An engine that shows its functions with their names. -/
def namingEngine : ScriptEngine where
  functionText name := "function ".toList ++ (name ++ "() \x7b [native code] \x7d").toList
  startsWithFunction name := by
    change "function".toList <+: "function".toList ++ [' '] ++ _
    rw [List.append_assoc]
    exact List.prefix_append _ _

/-- Texts and small numbers are played as in live text; a list is not, nor is a name without a value that
every object knows. -/
theorem score_is_played_and_list_is_not :
    play? namingEngine (some "\x7b\x7btitle\x7d\x7d: \x7b\x7bscore\x7d\x7d")
        [("title", .str "Final"), ("score", .float (.ofInt 3))] = some "Final: 3" ∧
      (Piece.token "goals".toList).played? namingEngine [("goals", .arr [.int 1, .int 2])] ≠
        some ((Piece.token "goals".toList).filled [("goals", .arr [.int 1, .int 2])]) ∧
      (Piece.token "constructor".toList).played? namingEngine [] ≠
        some ((Piece.token "constructor".toList).filled []) := by
  have found : names (some "\x7b\x7btitle\x7d\x7d: \x7b\x7bscore\x7d\x7d") = ["title", "score"] := by
    decide +kernel
  have bothAlike (number : Binary64) (shown : number.ShownAlike) :
      ∀ name ∈ ["title", "score"], Alike [("title", .str "Final"), ("score", .float number)] name :=
    List.forall_mem_cons.2 ⟨trivial, List.forall_mem_singleton.2 shown⟩
  refine ⟨?_, ?_, ?_⟩
  · obtain ⟨_, alike, small⟩ := live_text_is_played_iff namingEngine
      [("title", .str "Final"), ("score", .float (.ofInt 3))]
    have whole : (Binary64.ofInt 3).whole? = some 3 := by
      have measured := @Binary64.whole?_ofInt 3 (by decide)
      rwa [Nat.cast_ofNat] at measured
    have score := (small 3 (by decide)).2 _ whole
    refine (alike _ ?_).trans (congrArg some (by decide +kernel))
    rw [found]
    exact bothAlike _ score
  · intro same
    exact ((live_text_is_played_iff namingEngine _).1 _).1 same
  · intro same
    have others := ((live_text_is_played_iff namingEngine _).1 _).1 same
    exact others.1 (by decide +kernel)

end Placeholder
end BroadcastGraphics
