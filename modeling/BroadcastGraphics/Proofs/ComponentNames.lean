import BroadcastGraphics.Proofs.RecordWriting
import BroadcastGraphics.Proofs.SourceLines

/-!
# The names in component source

The class, the registration and the export of a component have one name, which is made of the words of
the template id.  An id may have a line break at its end, and it is the only character of an id that
spoils the name, the tag and the lines in which they stand.
-/

namespace BroadcastGraphics

namespace Text

/-- The characters that end a line of a script. -/
def endsLine (character : Char) : Bool :=
  character == '\n' || character == '\r' || character == '\u2028' || character == '\u2029'

end Text

namespace Naming

/-! ## Class names -/

/-- The words of an id have no characters but those of the id and their capitals. -/
theorem exists_of_mem_capitalizeWords
    {startsWord : Bool}
    {text : List Char}
    {character : Char}
    (member : character ∈ capitalizeWords startsWord text) :
    ∃ source ∈ text, isSeparator source = false ∧
      (character = source ∨ character ∈ Text.upper source) := by
  induction text generalizing startsWord with
  | nil => cases member
  | cons first rest ih =>
    have later {next : Bool} (member : character ∈ capitalizeWords next rest) :
        ∃ source ∈ first :: rest, isSeparator source = false ∧
          (character = source ∨ character ∈ Text.upper source) := by
      obtain ⟨source, isThere, made⟩ := ih member
      exact ⟨source, List.mem_cons_of_mem _ isThere, made⟩
    rw [capitalizeWords] at member
    split at member
    · exact later member
    · rename_i inWord
      rcases List.mem_append.1 member with here | behind
      · refine ⟨first, List.mem_cons_self, by simpa using inWord, ?_⟩
        split at here
        · exact Or.inr here
        · exact Or.inl (List.mem_singleton.1 here)
      · exact later behind

/-- A line break is no separator and stays among the words. -/
theorem newline_mem_capitalizeWords
    {text : List Char}
    (broken : '\n' ∈ text)
    (startsWord : Bool) : '\n' ∈ capitalizeWords startsWord text := by
  induction text generalizing startsWord with
  | nil => cases broken
  | cons first rest ih =>
    rw [capitalizeWords]
    rcases List.mem_cons.1 broken with rfl | later
    · rw [if_neg (by decide)]
      exact List.mem_append_left _ (by cases startsWord <;> decide)
    · split
      · exact ih later true
      · exact List.mem_append_right _ (ih later false)

theorem continues_of_isSlugCharacter
    {character : Char}
    (allowed : Identifier.isSlugCharacter character = true)
    (inWord : isSeparator character = false) :
    ∀ written ∈ character :: Text.upper character,
      startsIdentifier written = true ∨ Text.isAsciiDigit written = true := by
  have small := Identifier.toNat_le_of_isSlugCharacter allowed
  revert allowed inWord
  refine Identifier.of_ascii character (Nat.lt_of_le_of_lt small (by decide)) ?_
  decide +kernel

theorem isDigit_of_isAsciiDigit
    {character : Char}
    (digit : Text.isAsciiDigit character = true) : Text.isDigit character = true := by
  have small := Identifier.toNat_le_of_isAsciiDigit digit
  revert digit
  refine Identifier.of_ascii character (Nat.lt_of_le_of_lt small (by decide)) ?_
  decide +kernel

/-- The name without the underscore has only characters of identifiers. -/
theorem continues_of_mem_name
    {id : String}
    (slug : Identifier.isSlug id = true)
    (unbroken : '\n' ∉ id.toList) :
    ∀ character ∈ (pascalCase id ++ "Graphic").toList,
      startsIdentifier character = true ∨ Text.isAsciiDigit character = true := by
  intro character member
  rw [String.toList_append, pascalCase, String.toList_ofList] at member
  rcases List.mem_append.1 member with words | kind
  · obtain ⟨source, isThere, inWord, made⟩ := exists_of_mem_capitalizeWords words
    have allowed := (Identifier.mem_of_isSlug slug isThere).resolve_right fun isBreak =>
      unbroken (isBreak ▸ isThere)
    exact continues_of_isSlugCharacter allowed inWord character (List.mem_cons.2 made)
  · exact (by decide : ∀ character ∈ "Graphic".toList,
      startsIdentifier character = true ∨ Text.isAsciiDigit character = true) character kind

/-- The name of a class is an identifier just if the id has no line break. -/
theorem isIdentifier_componentClassName_iff
    {id : String}
    (slug : Identifier.isSlug id = true) :
    IsIdentifier (componentClassName id) ↔ '\n' ∉ id.toList := by
  constructor
  · rintro ⟨first, rest, same, start, continues⟩ broken
    have named : '\n' ∈ (componentClassName id).toList := by
      have inWords : '\n' ∈ (pascalCase id ++ "Graphic").toList := by
        rw [String.toList_append, pascalCase, String.toList_ofList]
        exact List.mem_append_left _ (newline_mem_capitalizeWords broken true)
      unfold componentClassName
      dsimp only
      split
      · split
        · rw [String.toList_append]
          exact List.mem_append_right _ inWords
        · exact inWords
      · exact inWords
    rw [same] at named
    rcases List.mem_cons.1 named with rfl | later
    · exact absurd start (by decide)
    · exact absurd (continues '\n' later) (by decide)
  · intro unbroken
    have continues := continues_of_mem_name slug unbroken
    unfold componentClassName
    dsimp only
    cases shown : (pascalCase id ++ "Graphic").toList with
    | nil =>
      rw [String.toList_append] at shown
      exact absurd (List.append_eq_nil_iff.1 shown).2 (by decide)
    | cons first rest =>
      rw [shown] at continues
      dsimp only [List.head?_cons]
      split
      · refine ⟨'_', first :: rest, ?_, by decide, continues⟩
        rw [String.toList_append, shown]
        rfl
      · rename_i noDigit
        obtain ⟨start, later⟩ := List.forall_mem_cons.1 continues
        refine ⟨first, rest, shown, start.resolve_right fun digit => ?_, later⟩
        exact noDigit (isDigit_of_isAsciiDigit digit)

/-- The tag is one line just if the id has no line break. -/
theorem endsLine_tagName_iff
    {id : String}
    (slug : Identifier.isSlug id = true) :
    (∀ character ∈ (tagName id).toList, Text.endsLine character = false) ↔ '\n' ∉ id.toList := by
  rw [tagName, String.toList_append, List.forall_mem_append, and_iff_left (by decide)]
  constructor
  · intro single broken
    exact absurd (single '\n' broken) (by decide)
  · intro unbroken character member
    have allowed := (Identifier.mem_of_isSlug slug member).resolve_right fun isBreak =>
      unbroken (isBreak ▸ member)
    cases ends : Text.endsLine character with
    | false => rfl
    | true =>
      simp only [Text.endsLine, Bool.or_eq_true, beq_iff_eq] at ends
      rcases ends with ((rfl | rfl) | rfl) | rfl <;> exact absurd allowed (by decide)

end Naming

namespace Component

/-! ## Lines -/

/-- The comment in front of everything. -/
def commentLine (tag : String) : String :=
  "// " ++ tag ++ ": generated OGraf graphic component. Edits are overwritten on regeneration."

/-- The line in which a class is declared. -/
def classLine (name : String) : String :=
  "class " ++ name ++ " extends HTMLElement \x7b"

/-- The line in which a class is registered for a tag. -/
def registrationLine (tag name : String) : String :=
  "    customElements.define(" ++ (Json.str tag).literal none ++ ", " ++ name ++ ");"

/-- The line in which a class is exported. -/
def exportLine (name : String) : String :=
  "export default " ++ name ++ ";"

/-- The source starts with one line about the tag, and there is one line each in which a class is
declared, in which a component is registered and in which something is exported: the class has the
name, and it is registered for the tag and exported. -/
structure Announces (source tag name : String) : Prop where
  comment : (Text.lines source).head? = some (commentLine tag)
  declared : Text.linesStarting "class " source = [classLine name]
  registered : Text.linesStarting "    customElements.define(" source = [registrationLine tag name]
  exported : Text.linesStarting "export " source = [exportLine name]

/-- The source in blocks: single lines, declarations and the fixed script. -/
def blocks (component : Component) : List String := [
  commentLine component.tag, "",
  "const ELEMENTS = " ++ (component.elements ++ ";"), "",
  "const ANIMATION_SETTINGS = " ++ (component.animation ++ ";"), "",
  "const ELEMENT_STYLES = " ++ (component.stylesLiteral ++ ";"), "",
  "const CANVAS = " ++ ("\x7b width: " ++ Canvas.width ++ ", height: " ++ Canvas.height ++
    ", fontFamily: " ++ (Json.str Canvas.fontFamily).literal none ++ " \x7d;"), "",
  classLine component.className, "",
  ComponentScript.text, "",
  "if (!customElements.get(" ++ (component.tagLiteral ++ ")) \x7b"),
  registrationLine component.tag component.className,
  "\x7d" ++ "", "",
  exportLine component.className, ""]

theorem text_eq_blocks (component : Component) :
    component.text = String.intercalate "\n" component.blocks := by
  have comment : ": generated OGraf graphic component. Edits are overwritten on regeneration.\n\n" =
      ": generated OGraf graphic component. Edits are overwritten on regeneration." ++ "\n\n" := rfl
  have constant : ";\n\n" = ";" ++ "\n\n" := rfl
  have canvas : "const CANVAS = \x7b width: " = "const CANVAS = " ++ "\x7b width: " := rfl
  have canvasEnd : " \x7d;\n\n" = " \x7d;" ++ "\n\n" := rfl
  have declared : " extends HTMLElement \x7b\n\n" = " extends HTMLElement \x7b" ++ "\n\n" := rfl
  have asked : "\n\nif (!customElements.get(" = "\n\n" ++ "if (!customElements.get(" := rfl
  have answered : ")) \x7b\n" = ")) \x7b" ++ "\n" := rfl
  have registered : ");\n" = ");" ++ "\n" := rfl
  have closed : "\x7d\n\n" = "\x7d" ++ "\n\n" := rfl
  have exported : ";\n" = ";" ++ "\n" := rfl
  have blank : "\n\n" = "\n" ++ "\n" := rfl
  unfold text blocks opening closing commentLine classLine registrationLine exportLine tagLiteral
  simp only [comment, constant, canvas, canvasEnd, declared, asked, answered, registered, closed,
    exported, blank, String.intercalate_cons_cons, String.intercalate_singleton, String.append_assoc,
    String.empty_append, String.append_empty]

/-- What the lines of component source start with, except for the class, the registration, the export
and the fixed script. -/
def otherStarts : List String := [
  "// ", "const ELEMENTS = ", "const ANIMATION_SETTINGS = ", "const ELEMENT_STYLES = ",
  "const CANVAS = ", "if (!customElements.get(", "\x7d"]

theorem linesStarting_script
    {words : String}
    (none : ∀ line ∈ ComponentScript.lines, ¬ words.toList <+: line.toList) :
    Text.linesStarting words ComponentScript.text = [] := by
  have some : ComponentScript.lines ≠ [] := by
    unfold ComponentScript.lines
    decide
  rw [ComponentScript.text, Text.linesStarting_intercalate some, List.flatMap_eq_nil_iff]
  intro line member
  rw [Text.linesStarting_eq_nil_iff,
    Text.splitAt_of_notMem (calm_of_mem_script line member).2, List.forall_mem_singleton]
  exact none line member

/-- Only the class, the registration and the export are in lines that start with words other than
those of the others. -/
theorem linesStarting_text
    {component : Component}
    (tag : '\n' ∉ component.tag.toList)
    (elements : Text.Wordless true component.elements.toList)
    (animation : Text.Wordless true component.animation.toList)
    {words : String}
    (isWord : ¬ Text.Wordless true words.toList)
    (apart : ∀ start ∈ otherStarts, Text.Apart words start)
    (script : Text.linesStarting words ComponentScript.text = []) :
    Text.linesStarting words component.text =
      Text.linesStarting words (classLine component.className) ++
        (Text.linesStarting words (registrationLine component.tag component.className) ++
          Text.linesStarting words (exportLine component.className)) := by
  have others : ∀ start ∈ otherStarts, ∀ rest : String, Text.Wordless false rest.toList ->
      Text.linesStarting words (start ++ rest) = [] := by
    have unbroken : ∀ start ∈ otherStarts, '\n' ∉ start.toList := by decide
    intro start isStart rest wordless
    exact Text.linesStarting_of_wordless isWord (apart start isStart) (unbroken start isStart)
      wordless
  simp only [otherStarts, List.forall_mem_cons] at others
  obtain ⟨comment, ofElements, ofAnimation, ofStyles, ofCanvas, ofQuestion, ofBrace, _⟩ := others
  have ended {literal ending : String} (wordless : Text.Wordless true literal.toList)
      (endingWordless : Text.Wordless true ending.toList) :
      Text.Wordless false (literal ++ ending).toList := by
    rw [String.toList_append]
    exact wordless.of_true.append endingWordless
  have styles : Text.Wordless true component.stylesLiteral.toList := Json.wordless_literal _ _
  have tagLiteral : Text.Wordless true component.tagLiteral.toList := Json.wordless_literal _ _
  have semicolon : Text.Wordless true ";".toList := by decide
  have parenthesis : Text.Wordless true ")) \x7b".toList := by decide
  have commented : Text.linesStarting words (commentLine component.tag) = [] := by
    rw [commentLine, String.append_assoc]
    refine comment _ (Text.Wordless.of_unbroken ?_)
    rw [String.toList_append, List.mem_append, not_or]
    exact ⟨tag, by decide⟩
  have blank : Text.linesStarting words "" = [] := by
    rw [Text.linesStarting_eq_nil_iff, String.toList_empty, Text.splitAt, List.forall_mem_singleton,
      List.prefix_nil]
    intro empty
    rw [empty] at isWord
    exact isWord (by decide)
  have elementLines := ofElements _ (ended elements semicolon)
  have animationLines := ofAnimation _ (ended animation semicolon)
  have styleLines := ofStyles _ (ended styles semicolon)
  have canvasLine := ofCanvas ("\x7b width: " ++ Canvas.width ++ ", height: " ++ Canvas.height ++
    ", fontFamily: " ++ (Json.str Canvas.fontFamily).literal none ++ " \x7d;") (by decide)
  have questionLine := ofQuestion _ (ended tagLiteral parenthesis)
  have braceLine := ofBrace "" (Text.Wordless.of_unbroken (by decide))
  rw [text_eq_blocks, Text.linesStarting_intercalate (by exact List.cons_ne_nil _ _), blocks]
  simp only [List.flatMap_cons, List.flatMap_nil, blank, commented, script, elementLines,
    animationLines, styleLines, canvasLine, questionLine, braceLine, List.nil_append, List.append_nil]

theorem unbroken_commentLine_iff
    {tag : String} :
    '\n' ∉ (commentLine tag).toList ↔ '\n' ∉ tag.toList := by
  rw [commentLine, String.toList_append, String.toList_append, List.mem_append, List.mem_append,
    not_or, not_or, and_iff_left (by decide), and_iff_right (by decide)]

section Lines

variable {name : String} (unbroken : '\n' ∉ name.toList)
include unbroken

theorem linesStarting_classLine :
    Text.linesStarting "class " (classLine name) = [classLine name] ∧
      ∀ words, Text.Apart words "class " -> Text.linesStarting words (classLine name) = [] := by
  have line : '\n' ∉ ("class " ++ (name ++ " extends HTMLElement \x7b")).toList := by
    simp only [String.toList_append, List.mem_append, not_or]
    exact ⟨by decide, unbroken, by decide⟩
  unfold classLine
  rw [String.append_assoc]
  exact ⟨Text.linesStarting_of_starts line, fun _ apart => Text.linesStarting_of_apart apart line⟩

theorem linesStarting_registrationLine
    (tag : String) :
    Text.linesStarting "    customElements.define(" (registrationLine tag name) =
        [registrationLine tag name] ∧
      ∀ words, Text.Apart words "    customElements.define(" ->
        Text.linesStarting words (registrationLine tag name) = [] := by
  have line : '\n' ∉ ("    customElements.define(" ++
      ((Json.str tag).literal none ++ (", " ++ (name ++ ");")))).toList := by
    simp only [String.toList_append, List.mem_append, not_or]
    exact ⟨by decide, Json.unbroken_literal_str tag, by decide, unbroken, by decide⟩
  unfold registrationLine
  rw [String.append_assoc, String.append_assoc, String.append_assoc]
  exact ⟨Text.linesStarting_of_starts line, fun _ apart => Text.linesStarting_of_apart apart line⟩

theorem linesStarting_exportLine :
    Text.linesStarting "export " (exportLine name) = [exportLine name] ∧
      ∀ words, Text.Apart words "export " -> Text.linesStarting words (exportLine name) = [] := by
  have line : '\n' ∉ ("export " ++ ("default " ++ (name ++ ";"))).toList := by
    simp only [String.toList_append, List.mem_append, not_or]
    exact ⟨by decide, by decide, unbroken, by decide⟩
  have words : "export default " = "export " ++ "default " := rfl
  unfold exportLine
  rw [words, String.append_assoc, String.append_assoc]
  exact ⟨Text.linesStarting_of_starts line, fun _ apart => Text.linesStarting_of_apart apart line⟩

end Lines

/-- Source in which neither the tag nor the name has a line break announces its component. -/
theorem announces_text
    {component : Component}
    (tag : '\n' ∉ component.tag.toList)
    (className : '\n' ∉ component.className.toList)
    (elements : Text.Wordless true component.elements.toList)
    (animation : Text.Wordless true component.animation.toList) :
    Announces component.text component.tag component.className := by
  obtain ⟨isClass, notClass⟩ := linesStarting_classLine className
  obtain ⟨isRegistration, notRegistration⟩ :=
    linesStarting_registrationLine className component.tag
  obtain ⟨isExport, notExport⟩ := linesStarting_exportLine className
  have ofText {words : String} := @linesStarting_text component tag elements animation words
  refine ⟨?_, ?_, ?_, ?_⟩
  · rw [text_eq_blocks, blocks, String.intercalate_cons_cons, String.append_assoc, Text.lines_append,
      Text.lines_of_unbroken (unbroken_commentLine_iff.2 tag), List.singleton_append, List.head?_cons]
  · have script : ∀ line ∈ ComponentScript.lines,
        ¬ "class ".toByteArray.data.toList <+: line.toByteArray.data.toList := by
      decide +kernel
    rw [ofText (by decide) (by decide) (linesStarting_script fun line member =>
        Text.not_prefix_of_bytes (script line member)),
      isClass, notRegistration _ (by decide), notExport _ (by decide)]
    rfl
  · have script : ∀ line ∈ ComponentScript.lines,
        ¬ "    customElements.define(".toByteArray.data.toList <+:
          line.toByteArray.data.toList := by
      decide +kernel
    rw [ofText (by decide) (by decide) (linesStarting_script fun line member =>
        Text.not_prefix_of_bytes (script line member)),
      notClass _ (by decide), isRegistration, notExport _ (by decide)]
    rfl
  · have script : ∀ line ∈ ComponentScript.lines, ¬ "export ".toList <+: line.toList := by
      rintro line member ⟨rest, starts⟩
      refine (calm_of_mem_script line member).1.start ?_
      rw [← starts]
      rfl
    rw [ofText (by decide) (by decide) (linesStarting_script script), notClass _ (by decide),
      notRegistration _ (by decide), isExport]
    rfl

/-- Whatever the elements and the settings are, the source of a template announces its component just
if the id has no line break. -/
theorem announces_source_iff
    {manifest : Manifest}
    (slug : Identifier.isSlug manifest.id = true)
    (elements : List Element)
    (settings : Option AnimationSettings) :
    Announces (source manifest elements settings) (Naming.tagName manifest.id)
        (Naming.componentClassName manifest.id) ↔ '\n' ∉ manifest.id.toList := by
  constructor
  · intro announces broken
    have line := Text.unbroken_of_mem_lines (List.mem_of_head? announces.comment)
    rw [unbroken_commentLine_iff, Naming.tagName, String.toList_append, List.mem_append, not_or] at line
    exact line.1 broken
  · intro unbroken
    have tag : '\n' ∉ (Naming.tagName manifest.id).toList := fun isBreak =>
      absurd ((Naming.endsLine_tagName_iff slug).2 unbroken '\n' isBreak) (by decide)
    have className : '\n' ∉ (Naming.componentClassName manifest.id).toList := by
      obtain ⟨first, rest, same, start, continues⟩ :=
        (Naming.isIdentifier_componentClassName_iff slug).2 unbroken
      rw [same, List.mem_cons, not_or]
      refine ⟨?_, fun isBreak => absurd (continues '\n' isBreak) (by decide)⟩
      rintro rfl
      exact absurd start (by decide)
    have ofElements := Json.wordless_literal (.arr (elements.map Element.toJson)) (some 4)
    have ofSettings := Json.wordless_literal (settings.getD .standard).toJson (some 4)
    unfold source of
    generalize Naming.componentClassName manifest.id = name at className ⊢
    exact announces_text tag className ofElements ofSettings

/-- For an id that is accepted, the name of the class is an identifier, the tag is one line and every
source generated under the id announces its component, each of them just if the id does not end with
the line break that is accepted there. -/
theorem names_wellFormed_iff
    {id : String}
    (accepted : Manifest.checkId (.str id) = .accepted id) :
    (Naming.IsIdentifier (Naming.componentClassName id) ↔ '\n' ∉ id.toList) ∧
      ((∀ character ∈ (Naming.tagName id).toList, Text.endsLine character = false) ↔
        '\n' ∉ id.toList) ∧
      ∀ (manifest : Manifest) (elements : List Element) (settings : Option AnimationSettings),
        manifest.id = id ->
          (Announces (source manifest elements settings) (Naming.tagName id)
            (Naming.componentClassName id) ↔ '\n' ∉ id.toList) := by
  have slug := Manifest.isSlug_of_checkId accepted
  refine ⟨Naming.isIdentifier_componentClassName_iff slug, Naming.endsLine_tagName_iff slug, ?_⟩
  rintro manifest elements settings rfl
  exact announces_source_iff slug elements settings

/-- An id with a line break at its end is accepted, and nothing that is generated under it is in order;
without the line break everything is. -/
theorem names_with_and_without_break :
    (Manifest.checkId (.str "demo\n") = .accepted "demo\n" ∧
      ¬ Naming.IsIdentifier (Naming.componentClassName "demo\n") ∧
      (∃ character ∈ (Naming.tagName "demo\n").toList, Text.endsLine character = true) ∧
      ∀ elements settings,
        ¬ Announces (source { id := "demo\n", name := "Demo" } elements settings)
          (Naming.tagName "demo\n") (Naming.componentClassName "demo\n")) ∧
    Manifest.checkId (.str "demo") = .accepted "demo" ∧
      Naming.IsIdentifier (Naming.componentClassName "demo") ∧
      ∀ elements settings,
        Announces (source { id := "demo", name := "Demo" } elements settings)
          (Naming.tagName "demo") (Naming.componentClassName "demo") := by
  have broken : Manifest.checkId (.str "demo\n") = .accepted "demo\n" :=
    Manifest.checkId_slug (by decide)
  have whole : Manifest.checkId (.str "demo") = .accepted "demo" := Manifest.checkId_slug (by decide)
  obtain ⟨brokenName, _, brokenSource⟩ := names_wellFormed_iff broken
  obtain ⟨name, _, wholeSource⟩ := names_wellFormed_iff whole
  refine ⟨⟨broken, ?_, ⟨'\n', by decide, by decide⟩, fun elements settings => ?_⟩,
    whole, name.2 (by decide), fun elements settings => ?_⟩
  · rw [brokenName, not_not]
    decide
  · rw [brokenSource _ elements settings rfl, not_not]
    decide
  · exact (wholeSource _ elements settings rfl).2 (by decide)

end Component
end BroadcastGraphics
