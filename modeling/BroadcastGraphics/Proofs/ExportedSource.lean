import BroadcastGraphics.Exchange.ComponentSource
import BroadcastGraphics.Proofs.ComponentText

/-!
# Component source without its export

Component source ends with the export of its class.  When the source comes back in an import, it looks
like a component and is kept, but the words of the export are taken out of it.  Nothing else is taken
out but the line break at the end: no other line of the source starts with the first letter of these
words, whatever the texts and names in it are.
-/

namespace BroadcastGraphics

namespace Text

/-! ## Searching -/

theorem occursIn_prefix
    (part rest : List Char) : occursIn part (part ++ rest) = true := by
  cases joined : part ++ rest with
  | nil =>
    rw [List.append_eq_nil_iff] at joined
    rw [joined.1]
    rfl
  | cons first more =>
    rw [occursIn, ← joined, List.isPrefixOf_iff_prefix.2 (List.prefix_append part rest)]
    rfl

/-- What occurs in a text occurs in every text around it. -/
theorem occursIn_append
    {part text : List Char}
    (occurs : occursIn part text = true)
    (before after : List Char) : occursIn part (before ++ (text ++ after)) = true := by
  have behind : occursIn part (text ++ after) = true := by
    induction text with
    | nil =>
      rw [occursIn, List.isEmpty_iff] at occurs
      exact occurs ▸ occursIn_prefix [] after
    | cons character rest ih =>
      rw [occursIn, Bool.or_eq_true] at occurs
      rw [List.cons_append, occursIn, Bool.or_eq_true]
      refine occurs.imp (fun here => ?_) ih
      exact List.isPrefixOf_iff_prefix.2
        ((List.isPrefixOf_iff_prefix.1 here).trans (List.prefix_append (character :: rest) after))
  induction before with
  | nil => exact behind
  | cons character rest ih =>
    rw [List.cons_append, occursIn, ih, Bool.or_true]

theorem contains_append
    {whole part : String}
    (within : contains whole part = true)
    (before after : String) : contains (before ++ (whole ++ after)) part = true := by
  unfold contains
  rw [String.toList_append, String.toList_append]
  exact occursIn_append within _ _

theorem contains_join
    {pieces : List String}
    {piece part : String}
    (member : piece ∈ pieces)
    (within : contains piece part = true) : contains (String.join pieces) part = true := by
  obtain ⟨before, after, rfl⟩ := List.append_of_mem member
  rw [String.join_append, String.join_cons]
  exact contains_append within _ _

theorem contains_intercalate
    {lines : List String}
    {line part : String}
    (member : line ∈ lines)
    (within : contains line part = true) :
    contains (String.intercalate "\n" lines) part = true := by
  induction lines with
  | nil => cases member
  | cons first rest ih =>
    cases rest with
    | nil =>
      rw [String.intercalate_singleton, ← List.mem_singleton.1 member]
      exact within
    | cons second rest =>
      rw [String.intercalate_cons_cons, String.append_assoc]
      rcases List.mem_cons.1 member with rfl | later
      · simpa using contains_append within "" _
      · simpa [String.append_assoc] using contains_append (ih later) (first ++ "\n") ""

/-! ## Lines -/

/-- No line of the text starts with the first letter of an export. -/
structure Calm (text : List Char) : Prop where
  start : text.head? ≠ some 'e'
  lines : KeepsApart (· = '\n') (· = 'e') text

instance : DecidablePred Calm := fun text =>
  have : DecidableRel fun before after : Char => ¬ (before = '\n' ∧ after = 'e') :=
    fun _ _ => inferInstance
  have : Decidable (KeepsApart (· = '\n') (· = 'e') text) :=
    inferInstanceAs (Decidable (List.IsChain _ text))
  decidable_of_iff (text.head? ≠ some 'e' ∧ KeepsApart (· = '\n') (· = 'e') text)
    ⟨fun ⟨start, lines⟩ => ⟨start, lines⟩, fun ⟨start, lines⟩ => ⟨start, lines⟩⟩

theorem calm_of_unbroken
    {text : List Char}
    (start : text.head? ≠ some 'e')
    (unbroken : '\n' ∉ text) : Calm text where
  start := start
  lines := keepsApart_of_no_first fun _ member isBreak => unbroken (isBreak ▸ member)

theorem Calm.append
    {first second : List Char}
    (calmFirst : Calm first)
    (calmSecond : Calm second) : Calm (first ++ second) where
  start := by
    cases first with
    | nil => exact calmSecond.start
    | cons character rest => exact calmFirst.start
  lines := calmFirst.lines.append calmSecond.lines fun _ _ _ isHead both =>
    calmSecond.start (both.2 ▸ isHead)

/-- A line break may stand in front of a calm text. -/
theorem Calm.newline
    {text : List Char}
    (calm : Calm text) : Calm ('\n' :: text) :=
  have alone : Calm ['\n'] := ⟨by decide, List.isChain_singleton _⟩
  alone.append calm

end Text

/-! ## Taking exports out -/

namespace ComponentSource

theorem afterWord?_word
    (word rest : List Char)
    {blank : Char}
    (isBlank : Text.isBlank blank = true) :
    afterWord? word (word ++ blank :: rest) = some (rest.dropWhile Text.isBlank) := by
  unfold afterWord?
  rw [if_pos (List.isPrefixOf_iff_prefix.2 (List.prefix_append _ _)), List.drop_left]
  exact if_pos isBlank

/-- Only what starts with the first letter of an export is one. -/
theorem afterExport?_eq_none
    {text : List Char}
    (other : text.head? ≠ some 'e') : afterExport? text = none := by
  refine if_neg fun starts => other ?_
  obtain ⟨rest, rfl⟩ := List.isPrefixOf_iff_prefix.1 starts
  rfl

theorem afterDefaultExport?_eq_none
    {text : List Char}
    (other : text.head? ≠ some 'e') : afterDefaultExport? text = none := by
  rw [afterDefaultExport?, afterExport?_eq_none other]
  rfl

section WithoutFirst

variable {after? : List Char -> Option (List Char)}
  (onlyExports : ∀ {text : List Char}, text.head? ≠ some 'e' -> after? text = none)
  {lineStart : Bool}
include onlyExports

theorem withoutFirst_cons
    {first : Char}
    (start : lineStart = true -> first ≠ 'e')
    (rest : List Char) :
    withoutFirst after? lineStart (first :: rest) =
      first :: withoutFirst after? (first == '\n') rest := by
  have noExport : (if lineStart then after? (first :: rest) else none) = none := by
    cases lineStart with
    | false => rfl
    | true => exact onlyExports fun same => start rfl (Option.some.inj same)
  rw [withoutFirst, noExport]

/-- Lines that do not start like an export are passed over. -/
theorem withoutFirst_lines
    {before : List Char}
    (lines : Text.KeepsApart (· = '\n') (· = 'e') before)
    (start : lineStart = true -> before.head? ≠ some 'e')
    (rest : List Char) :
    withoutFirst after? lineStart (before ++ '\n' :: rest) =
      before ++ '\n' :: withoutFirst after? true rest := by
  induction before generalizing lineStart with
  | nil => exact withoutFirst_cons onlyExports (fun _ => by decide) rest
  | cons first more ih =>
    rw [List.cons_append, withoutFirst_cons onlyExports fun isStart same =>
      start isStart (congrArg some same)]
    refine congrArg (first :: ·) (ih lines.tail fun isBreak isHead => ?_)
    exact (List.isChain_cons.1 lines).1 _ isHead ⟨beq_iff_eq.1 isBreak, rfl⟩

end WithoutFirst

/-- A default export is taken out with the blanks behind it. -/
theorem withoutFirst_export (rest : List Char) :
    withoutFirst afterDefaultExport? true ("export default ".toList ++ rest) =
      rest.dropWhile Text.isBlank := by
  have found : afterDefaultExport? ('e' :: ("xport default ".toList ++ rest)) =
      some (rest.dropWhile Text.isBlank) := by
    change (afterWord? _ ("export".toList ++ ' ' :: ("default ".toList ++ rest))).bind _ = _
    rw [afterWord?_word _ _ (by decide)]
    change afterWord? _ ("default".toList ++ ' ' :: rest) = _
    exact afterWord?_word _ _ (by decide)
  change withoutFirst afterDefaultExport? true ('e' :: ("xport default ".toList ++ rest)) = _
  rw [withoutFirst, if_pos rfl, found]

/-- Of a text that starts with something, one more character at the end is trimmed. -/
theorem trimBy_of_ends
    {drop : Char -> Bool}
    {first last more : Char}
    (starts : drop first = false)
    (ends : drop last = false)
    (dropped : drop more = true)
    (between : List Char) :
    Text.trimBy drop (first :: (between ++ [last, more])) = first :: (between ++ [last]) := by
  unfold Text.trimBy
  rw [List.dropWhile_cons_of_neg (by simp [starts])]
  have reversed : (first :: (between ++ [last, more])).reverse =
      more :: last :: (between.reverse ++ [first]) := by simp
  rw [reversed, List.dropWhile_cons_of_pos dropped, List.dropWhile_cons_of_neg (by simp [ends])]
  simp

/-- Of a text that ends with the export of a name, the words of the export and the last line break are
taken out, with any blanks in front of the name. -/
theorem cleaned_export
    {body name : String}
    {first : Char}
    (starts : first ∈ body.toList.head?)
    (inked : Text.isBlank first = false)
    (calm : Text.Calm body.toList)
    (calmName : Text.Calm (name.toList.dropWhile Text.isBlank)) :
    cleaned (body ++ ("\nexport default " ++ (name ++ ";\n"))) =
      body ++ ("\n" ++ (String.ofList (name.toList.dropWhile Text.isBlank) ++ ";")) := by
  obtain ⟨lines, begins⟩ := List.head?_eq_some_iff.1 starts
  rw [begins] at calm
  generalize shownName : name.toList.dropWhile Text.isBlank = shown at calmName
  have shows : (name.toList ++ [';', '\n']).dropWhile Text.isBlank = shown ++ [';', '\n'] := by
    rw [List.dropWhile_append, shownName]
    split
    · rename_i allBlank
      rw [List.isEmpty_iff.1 allBlank]
      rfl
    · rfl
  have opened : (body ++ ("\nexport default " ++ (name ++ ";\n"))).toList =
      first :: lines ++ '\n' :: ("export default ".toList ++ (name.toList ++ [';', '\n'])) := by
    simp only [String.toList_append, begins]
    rfl
  have taken : withoutFirst afterDefaultExport? true
      (first :: lines ++ '\n' :: ("export default ".toList ++ (name.toList ++ [';', '\n']))) =
        first :: lines ++ '\n' :: (shown ++ [';', '\n']) := by
    rw [withoutFirst_lines afterDefaultExport?_eq_none calm.lines fun _ => calm.start,
      withoutFirst_export, shows]
  have noMore : withoutFirst afterExport? true
      (first :: lines ++ '\n' :: (shown ++ [';', '\n'])) =
        first :: lines ++ '\n' :: (shown ++ [';', '\n']) := by
    have calmEnd : Text.Calm [';'] := Text.calm_of_unbroken (by decide) (by decide)
    have whole := calm.append (calmName.append calmEnd).newline
    have starts (_ : true = true) := whole.start
    have passed := withoutFirst_lines afterExport?_eq_none whole.lines starts []
    simpa [withoutFirst] using passed
  have unended : Text.isBlank ';' = false := by decide
  have trimmed := trimBy_of_ends inked unended (by decide : Text.isBlank '\n' = true)
    (lines ++ '\n' :: shown)
  have closed : first :: (lines ++ '\n' :: shown ++ [';']) =
      (body ++ ("\n" ++ (String.ofList shown ++ ";"))).toList := by
    simp only [String.toList_append, String.toList_ofList, begins, List.cons_append,
      List.append_assoc]
    rfl
  unfold cleaned
  dsimp only
  rw [opened, taken, noMore, ← String.ofList_toList (s := body ++ _), ← closed, ← trimmed]
  simp only [List.cons_append, List.append_assoc]

end ComponentSource

/-! ## Literals and names -/

namespace Json

theorem Reader.head?_number
    (negative : Bool)
    {first : Char}
    (between : '0' ≤ first ∧ first ≤ '9')
    (more : List Char) : (signText negative ++ first :: more).head? ≠ some 'e' := by
  cases negative with
  | true => exact fun same => absurd (Option.some.inj same) (by decide)
  | false =>
    intro same
    rw [show first = 'e' from Option.some.inj same] at between
    exact absurd between.2 (by decide)

/-- The text of a value is calm whatever its texts hold: only spaces and the ends of lists and objects
stand behind line breaks. -/
theorem composes_calm (indent : Option Nat) : Composes ⟨true, indent⟩ Text.Calm where
  append := Text.Calm.append
  mark := by
    intro mark isMark
    refine Text.calm_of_unbroken ?_ ?_ <;> revert mark <;> decide
  lineBreak level := by
    unfold Layout.lineBreak
    cases indent with
    | none => exact Text.calm_of_unbroken nofun List.not_mem_nil
    | some width =>
      refine (Text.calm_of_unbroken ?_ fun isBreak => ?_).newline
      · rw [List.head?_replicate]
        split <;> decide
      · exact absurd (List.eq_of_mem_replicate isBreak) (by decide)
  scalar {value} isScalar level := by
    cases value with
    | str text =>
      rw [render]
      exact Text.calm_of_unbroken (by rw [stringLiteral]; simp) fun isBreak =>
        (ascii_stringLiteral text _ isBreak).2 rfl
    | null => exact Text.calm_of_unbroken (by rw [render]; decide) (by rw [render]; decide)
    | bool value =>
      rw [render]
      cases value <;> exact Text.calm_of_unbroken (by decide) (by decide)
    | int value =>
      rw [render]
      refine Text.calm_of_unbroken ?_ fun isBreak => (still_integerText value _ isBreak).2 rfl
      obtain ⟨first, more, between, start⟩ := Reader.exists_number_start value
      rw [start]
      exact Reader.head?_number _ between more
    | float value =>
      rw [render]
      refine Text.calm_of_unbroken ?_ fun isBreak => (still_floatText value _ isBreak).2 rfl
      cases value with
      | finite negative rank =>
        obtain ⟨first, more, between, start⟩ :=
          Reader.exists_text_start (Binary64.readsBack_shortest rank)
        rw [Reader.toList_text_finite, start]
        exact Reader.head?_number _ between more
      | infinite negative => cases negative <;> decide
      | nan => decide
    | arr _ => cases isScalar
    | obj _ => cases isScalar

theorem calm_literal
    (value : Json)
    (indent : Option Nat) : Text.Calm (value.literal indent).toList := by
  unfold literal text
  rw [String.toList_ofList]
  exact (composes_calm indent).render value 0

end Json

namespace Naming

/-- A capital letter or a digit starts neither an export nor a blank. -/
theorem upper_of_isSlugCharacter
    {character : Char}
    (allowed : Identifier.isSlugCharacter character = true) :
    Text.isBlank character = false ∧ Text.upper character ≠ [] ∧
      ∀ capital ∈ Text.upper character, capital ≠ 'e' ∧ Text.isBlank capital = false := by
  have small := Identifier.toNat_le_of_isSlugCharacter allowed
  revert allowed
  refine Identifier.of_ascii character (Nat.lt_of_le_of_lt small (by decide)) ?_
  decide +kernel

/-- The words of an id are capitalised without blanks; a line break behind them stays. -/
theorem exists_capitalizeWords
    {core tail : List Char}
    (allowed : ∀ character ∈ core, Identifier.isSlugCharacter character = true)
    (ends : tail = [] ∨ tail = ['\n'])
    (startsWord : Bool) :
    ∃ words, capitalizeWords startsWord (core ++ tail) = words ++ tail ∧
      (∀ character ∈ words, Text.isBlank character = false) ∧
      (startsWord = true -> words.head? ≠ some 'e') := by
  induction core generalizing startsWord with
  | nil =>
    refine ⟨[], ?_, List.forall_mem_nil _, fun _ => nofun⟩
    rcases ends with rfl | rfl
    · rfl
    · cases startsWord <;> decide
  | cons first rest ih =>
    obtain ⟨here, later⟩ := List.forall_mem_cons.1 allowed
    obtain ⟨noBlank, some, capitals⟩ := upper_of_isSlugCharacter here
    rw [List.cons_append, capitalizeWords]
    split
    · obtain ⟨words, same, unblank, start⟩ := ih later true
      exact ⟨words, same, unblank, fun _ => start rfl⟩
    · obtain ⟨words, same, unblank, _⟩ := ih later false
      rw [same, ← List.append_assoc]
      refine ⟨_, rfl, List.forall_mem_append.2 ⟨?_, unblank⟩, ?_⟩
      · cases startsWord with
        | true => exact fun capital member => (capitals capital member).2
        | false => exact List.forall_mem_singleton.2 noBlank
      · rintro rfl isHead
        obtain ⟨capital, more, upper⟩ := List.exists_cons_of_ne_nil some
        rw [if_pos rfl, upper] at isHead
        rw [upper] at capitals
        exact (capitals capital List.mem_cons_self).1 (Option.some.inj isHead)

/-- The name of a class is calm, with and without the blanks in front of it. -/
theorem calm_componentClassName
    {id : String}
    (slug : Identifier.isSlug id = true) :
    Text.Calm (componentClassName id).toList ∧
      Text.Calm ((componentClassName id).toList.dropWhile Text.isBlank) := by
  obtain ⟨core, tail, same, allowed, ends⟩ := Identifier.exists_core slug
  obtain ⟨words, capitalized, unblank, start⟩ := exists_capitalizeWords allowed ends true
  have named : (pascalCase id ++ "Graphic").toList = words ++ (tail ++ "Graphic".toList) := by
    rw [String.toList_append, pascalCase, String.toList_ofList, same, capitalized,
      List.append_assoc]
  have calmWords : Text.Calm words := Text.calm_of_unbroken (start rfl) fun isBreak =>
    absurd (unblank '\n' isBreak) (by decide)
  have calmKind : Text.Calm "Graphic".toList := Text.calm_of_unbroken (by decide) (by decide)
  have calmEnd : Text.Calm (tail ++ "Graphic".toList) := by
    rcases ends with rfl | rfl
    · exact calmKind
    · exact calmKind.newline
  have calmName : Text.Calm (words ++ (tail ++ "Graphic".toList)) := calmWords.append calmEnd
  have calmShown : Text.Calm ((words ++ (tail ++ "Graphic".toList)).dropWhile Text.isBlank) := by
    cases words with
    | nil => rcases ends with rfl | rfl <;> exact calmKind
    | cons first rest =>
      rw [List.cons_append, List.dropWhile_cons_of_neg (by simp [unblank first List.mem_cons_self])]
      exact calmName
  have calmMark : Text.Calm ['_'] := Text.calm_of_unbroken (by decide) (by decide)
  have underscored : Text.Calm ('_' :: (words ++ (tail ++ "Graphic".toList))) :=
    calmMark.append calmName
  unfold componentClassName
  dsimp only
  split
  · split
    · rw [String.toList_append, named]
      exact ⟨underscored, underscored⟩
    · rw [named]
      exact ⟨calmName, calmShown⟩
  · rw [named]
    exact ⟨calmName, calmShown⟩

/-- So is a tag behind the slashes of a comment. -/
theorem calm_comment
    {id : String}
    (slug : Identifier.isSlug id = true) : Text.Calm ("// ".toList ++ (tagName id).toList) := by
  obtain ⟨core, tail, same, allowed, ends⟩ := Identifier.exists_core slug
  have calmCore : Text.Calm ("// ".toList ++ core) := by
    refine Text.calm_of_unbroken (show some '/' ≠ some 'e' by decide) ?_
    rw [List.mem_append, not_or]
    exact ⟨by decide, fun isBreak => absurd (allowed '\n' isBreak) (by decide)⟩
  have calmTail : Text.Calm (tail ++ "-graphic".toList) := by
    rcases ends with rfl | rfl
    · exact Text.calm_of_unbroken (by decide) (by decide)
    · exact (Text.calm_of_unbroken (by decide) (by decide)).newline
  unfold tagName
  rw [String.toList_append, same]
  simpa only [List.append_assoc] using calmCore.append calmTail

end Naming

namespace Text

theorem unbroken_of_bytes
    {text : String}
    (unbroken : 10 ∉ text.toByteArray.data.toList) : '\n' ∉ text.toList := by
  intro isBreak
  refine unbroken ?_
  rw [bytes_eq_flatMap]
  exact List.mem_flatMap.2 ⟨_, isBreak, by decide⟩

theorem calm_of_bytes
    {text : String}
    (start : text.toByteArray.data.toList.head? ≠ some 101)
    (unbroken : '\n' ∉ text.toList) : Calm text.toList := by
  refine calm_of_unbroken (fun isHead => start ?_) unbroken
  obtain ⟨rest, same⟩ := List.head?_eq_some_iff.1 isHead
  rw [bytes_eq_flatMap, same]
  rfl

theorem calm_intercalate
    {lines : List String}
    (calm : ∀ line ∈ lines, Calm line.toList) :
    Calm (String.intercalate "\n" lines).toList := by
  induction lines with
  | nil => exact calm_of_unbroken nofun List.not_mem_nil
  | cons line rest ih =>
    obtain ⟨here, later⟩ := List.forall_mem_cons.1 calm
    cases rest with
    | nil =>
      rw [String.intercalate_singleton]
      exact here
    | cons second rest =>
      rw [String.intercalate_cons_cons, String.toList_append, String.toList_append,
        List.append_assoc]
      exact here.append (ih later).newline

theorem calm_join
    {pieces : List String}
    (calm : ∀ piece ∈ pieces, Calm piece.toList) : Calm (String.join pieces).toList := by
  induction pieces with
  | nil => exact calm_of_unbroken nofun List.not_mem_nil
  | cons piece rest ih =>
    obtain ⟨here, later⟩ := List.forall_mem_cons.1 calm
    rw [String.join_cons, String.toList_append]
    exact here.append (ih later)

end Text

namespace Component

theorem calm_of_mem_script : ∀ line ∈ ComponentScript.lines,
    Text.Calm line.toList ∧ '\n' ∉ line.toList := by
  have bytes : ∀ line ∈ ComponentScript.lines,
      line.toByteArray.data.toList.head? ≠ some 101 ∧ 10 ∉ line.toByteArray.data.toList := by
    decide +kernel
  intro line member
  have unbroken := Text.unbroken_of_bytes (bytes line member).2
  exact ⟨Text.calm_of_bytes (bytes line member).1 unbroken, unbroken⟩

theorem calm_script : Text.Calm ComponentScript.text.toList :=
  Text.calm_intercalate fun line member => (calm_of_mem_script line member).1

/-- The texts of which component source consists, up to the line of its export. -/
def piecesOfBody (component : Component) : List String := [
  "// " ++ component.tag,
  ": generated OGraf graphic component. Edits are overwritten on regeneration.\n\n",
  "const ELEMENTS = ", component.elements, ";\n\n",
  "const ANIMATION_SETTINGS = ", component.animation, ";\n\n",
  "const ELEMENT_STYLES = ", component.stylesLiteral, ";\n\n",
  "const CANVAS = \x7b width: ", Canvas.width, ", height: ", Canvas.height, ", fontFamily: ",
  (Json.str Canvas.fontFamily).literal none, " \x7d;\n\n",
  "class ", component.className, " extends HTMLElement \x7b\n\n",
  ComponentScript.text,
  "\n\nif (!customElements.get(", component.tagLiteral, ")) \x7b\n",
  "    customElements.define(", component.tagLiteral, ", ", component.className, ");\n", "\x7d\n"]

/-- Component source up to the line of its export. -/
def body (component : Component) : String :=
  String.join component.piecesOfBody

theorem text_eq_body (component : Component) :
    component.text = component.body ++ ("\nexport default " ++ (component.className ++ ";\n")) := by
  unfold text body piecesOfBody opening closing
  simp only [String.join_cons, String.join_nil, String.append_assoc]
  rfl

theorem calm_body
    {manifest : Manifest}
    (slug : Identifier.isSlug manifest.id = true)
    (elements : List Element)
    (settings : Option AnimationSettings) :
    Text.Calm (of manifest elements settings).body.toList := by
  have comment : Text.Calm ("// " ++ (of manifest elements settings).tag).toList := by
    rw [String.toList_append]
    exact Naming.calm_comment slug
  have name := (Naming.calm_componentClassName slug).1
  refine Text.calm_join ?_
  unfold piecesOfBody
  simp only [List.forall_mem_cons]
  exact ⟨comment, by decide +kernel, by decide, Json.calm_literal _ _, by decide, by decide,
    Json.calm_literal _ _, by decide, by decide, Json.calm_literal _ _, by decide, by decide,
    by decide, by decide, by decide, by decide, Json.calm_literal _ _, by decide, by decide, name,
    by decide, calm_script, by decide, Json.calm_literal _ _, by decide, by decide,
    Json.calm_literal _ _, by decide, name, by decide, by decide, List.forall_mem_nil _⟩

/-- Component source looks like a component. -/
theorem isPlausible_text (component : Component) :
    ComponentSource.isPlausible component.text = true := by
  have within (piece : String) {part : String} (member : piece ∈ component.piecesOfBody)
      (found : Text.contains piece part = true) : Text.contains component.text part = true := by
    rw [text_eq_body, body]
    simpa using Text.contains_append (Text.contains_join member found) "" _
  have isClass : Text.contains component.text "class" = true :=
    within "class " (by simp [piecesOfBody]) (by decide)
  have isElement : Text.contains component.text "HTMLElement" = true :=
    within " extends HTMLElement \x7b\n\n" (by simp [piecesOfBody]) (by decide)
  have loads : Text.contains component.text "load" = true := by
    refine within ComponentScript.text (by simp [piecesOfBody]) ?_
    have line : "    async load() \x7b" ∈ ComponentScript.lines := by decide +kernel
    exact Text.contains_intercalate line (by decide)
  unfold ComponentSource.isPlausible
  rw [isClass, isElement, loads, Bool.or_true]
  rfl

/-- Component source that comes back from an import is what it was without its export: the name of the
class stands alone in the last line, which is not ended. -/
theorem cleaned_text
    {manifest : Manifest}
    (slug : Identifier.isSlug manifest.id = true)
    (elements : List Element)
    (settings : Option AnimationSettings) :
    let component := of manifest elements settings
    ComponentSource.cleaned component.text =
      component.body ++ ("\n" ++ (String.ofList (component.className.toList.dropWhile Text.isBlank) ++
        ";")) := by
  intro component
  rw [text_eq_body]
  have starts : '/' ∈ component.body.toList.head? := by
    unfold body piecesOfBody
    rw [String.join_cons, String.toList_append, String.toList_append]
    rfl
  exact ComponentSource.cleaned_export starts (by decide)
    (calm_body slug elements settings) (Naming.calm_componentClassName slug).2

/-- So component source does not come back as it was. -/
theorem cleaned_text_ne
    {manifest : Manifest}
    (slug : Identifier.isSlug manifest.id = true)
    (elements : List Element)
    (settings : Option AnimationSettings) :
    ComponentSource.cleaned (source manifest elements settings) ≠
      source manifest elements settings := by
  intro same
  have lasts := congrArg (fun text : String => text.toList.getLast?)
    ((cleaned_text slug elements settings).symm.trans (same.trans (text_eq_body _)))
  have semicolon : ";".toList.getLast? = some ';' := rfl
  have lineBreak : ";\n".toList.getLast? = some '\n' := rfl
  simp only [String.toList_append, List.getLast?_append, semicolon, lineBreak, Option.some_or] at lasts
  exact absurd (Option.some.inj lasts) (by decide)

end Component

end BroadcastGraphics
