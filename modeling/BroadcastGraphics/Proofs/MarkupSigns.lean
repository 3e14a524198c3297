import BroadcastGraphics.Markup
import BroadcastGraphics.Proofs.Identifiers

/-!
# Which characters of a preview are markup

Angle brackets and quotes are what tags and attributes are made of.  Those of a preview all come
from its fixed parts, because escaping leaves none in a shown part; so no choice of contents and of
live data makes a difference to them.  The style rules are a fixed part: their angle brackets are
those of the names and values of the styles, and they stand in the preview as they are.
-/

namespace BroadcastGraphics
namespace Markup

/-- A character that begins or ends a tag. -/
def isBracket (character : Char) : Bool :=
  character == '<' || character == '>'

/-- A character that begins or ends a tag or the value of an attribute. -/
def isSign (character : Char) : Bool :=
  isBracket character || character == '\x22' || character == '\x27'

/-- The angle brackets and quotes of a text, in order. -/
def signs (text : String) : List Char :=
  text.toList.filter isSign

/-- The angle brackets of a text, in order. -/
def brackets (text : String) : List Char :=
  text.toList.filter isBracket

/-- The angle brackets and quotes of a part. -/
def Part.signs : Part -> List Char
  | fixed text => Markup.signs text
  | shown _ => []

/-- The elements with contents given by place. -/
def withContents (contents : Nat -> Option String) (elements : List Element) : List Element :=
  elements.mapIdx fun place element => { element with content := contents place }

/-- The elements with styles given by place. -/
def withStyles (styles : Nat -> Table String) (elements : List Element) : List Element :=
  elements.mapIdx fun place element => { element with style := styles place }

/-- The angle brackets of the names and values of a style, in order. -/
def styleBrackets (style : Table String) : List Char :=
  style.flatMap fun property => brackets property.1 ++ brackets property.2

/-! ## Escaped text -/

theorem filter_escapeCharacter (character : Char) :
    (escapeCharacter character).filter isSign = [] := by
  unfold escapeCharacter
  split_ifs with ampersand opening closing single double
  · decide
  · decide
  · decide
  · decide
  · decide
  · rw [List.filter_cons_of_neg, List.filter_nil]
    simp only [isSign, isBracket, opening, closing, single, double]
    decide

/-- The signs of a part are those of its fixed text. -/
theorem filter_characters (part : Part) : part.characters.filter isSign = part.signs := by
  cases part with
  | fixed text => rfl
  | shown text =>
    change (text.toList.flatMap escapeCharacter).filter isSign = []
    rw [List.filter_flatMap]
    exact List.flatMap_eq_nil_iff.2 fun character _ => filter_escapeCharacter character

theorem signs_written (parts : List Part) : signs (written parts) = parts.flatMap Part.signs := by
  unfold signs written
  rw [String.toList_ofList, List.filter_flatMap]
  exact List.flatMap_congr fun part _ => filter_characters part

/-- The signs of an element are those of the markup for its kind. -/
theorem flatMap_signs_elementParts
    (data other : Table Json)
    (element : Element)
    (content : Option String)
    (style : Table String) :
    (elementParts data { element with content, style }).flatMap Part.signs =
      (elementParts other element).flatMap Part.signs := by
  unfold elementParts
  cases element.kind <;> rfl

/-! ## Contents and data -/

/-- What does not look at a change of the elements is the same after it. -/
theorem map_mapIdx
    {Result : Type}
    {view : Element -> Result}
    {change : Nat -> Element -> Element}
    (blind : ∀ place element, view (change place element) = view element)
    (elements : List Element) : (elements.mapIdx change).map view = elements.map view := by
  induction elements generalizing change with
  | nil => rfl
  | cons element rest ih =>
    rw [List.mapIdx_cons, List.map_cons, List.map_cons, blind, ih fun place => blind (place + 1)]

/-- What does not look at contents is the same for all contents. -/
theorem map_withContents
    {Result : Type}
    {view : Element -> Result}
    (blind : ∀ element content, view { element with content := content } = view element)
    (contents : Nat -> Option String)
    (elements : List Element) : (withContents contents elements).map view = elements.map view :=
  map_mapIdx (fun place element => blind element (contents place)) elements

theorem rules_withContents (contents : Nat -> Option String) (elements : List Element) :
    Style.rules (withContents contents elements) = Style.rules elements := by
  unfold Style.rules
  rw [map_withContents fun _ _ => rfl]

/-- Whatever the elements contain and whatever data they are filled with, the signs of the preview
are those of the elements without data. -/
theorem signs_preview_withContents
    (elements : List Element)
    (contents : Nat -> Option String)
    (data : Table Json)
    (transform transition : String) :
    signs (preview (withContents contents elements) data transform transition) =
      signs (preview elements [] transform transition) := by
  have lines : ((withContents contents elements).flatMap (elementParts data)).flatMap Part.signs =
      (elements.flatMap (elementParts [])).flatMap Part.signs := by
    rw [List.flatMap_assoc, List.flatMap_assoc, List.flatMap_def, List.flatMap_def]
    rw [map_withContents fun element content =>
      flatMap_signs_elementParts data data element content element.style]
    congr 1
    exact List.map_congr_left fun element _ =>
      flatMap_signs_elementParts data [] element element.content element.style
  unfold preview previewParts headParts
  rw [signs_written, signs_written, rules_withContents]
  simp only [List.flatMap_append, lines]

/-- Neither contents nor live data can add, close or reorder a tag or an attribute: for any two
choices of the contents of the elements and of the data, the previews have the same angle brackets
and quotes in the same order. -/
theorem preview_signs_independent
    (elements : List Element)
    (transform transition : String)
    (left right : Nat -> Option String)
    (leftData rightData : Table Json) :
    signs (preview (withContents left elements) leftData transform transition) =
      signs (preview (withContents right elements) rightData transform transition) := by
  rw [signs_preview_withContents, signs_preview_withContents]

/-! ## Styles -/

theorem isSign_of_isBracket
    {character : Char}
    (bracket : isBracket character = true) : isSign character = true := by
  simp [isSign, bracket]

theorem toNat_le_of_isBracket
    {character : Char}
    (bracket : isBracket character = true) : character.toNat ≤ '>'.toNat := by
  simp only [isBracket, Bool.or_eq_true, beq_iff_eq] at bracket
  rcases bracket with rfl | rfl <;> decide

/-- The brackets of a text are found among its signs. -/
theorem filter_signs (text : String) : (signs text).filter isBracket = brackets text := by
  unfold signs brackets
  rw [List.filter_filter]
  refine List.filter_congr fun character _ => ?_
  cases bracket : isBracket character with
  | false => rfl
  | true => rw [isSign_of_isBracket bracket]; rfl

theorem brackets_append (left right : String) :
    brackets (left ++ right) = brackets left ++ brackets right := by
  unfold brackets
  rw [String.toList_append, List.filter_append]

theorem brackets_intercalate
    {separator : String}
    (bare : brackets separator = [])
    (parts : List String) :
    brackets (String.intercalate separator parts) = parts.flatMap brackets := by
  induction parts with
  | nil => rfl
  | cons part rest ih =>
    cases rest with
    | nil =>
      rw [String.intercalate_singleton, List.flatMap_cons, List.flatMap_nil, List.append_nil]
    | cons second rest =>
      rw [String.intercalate_cons_cons, brackets_append, brackets_append, ih, bare,
        List.append_nil, ← List.flatMap_cons]

end Markup

namespace Text

open Markup (isBracket)

/-- No run of small and capital letters leads down to the angle brackets. -/
theorem lowerRuns_above : ∀ run ∈ lowerRuns, ('>'.toNat : Int) < run.1 + run.2.2.2 := by
  decide +kernel

theorem isBracket_ofNat
    {point : Nat}
    (above : '>'.toNat < point) : isBracket (Char.ofNat point) = false := by
  by_cases valid : point.isValidChar
  · have same : (Char.ofNat point).toNat = point := by
      rw [Char.ofNat, dif_pos valid]
      rfl
    refine Bool.eq_false_iff.2 fun bracket => ?_
    have small := Markup.toNat_le_of_isBracket bracket
    omega
  · rw [Char.ofNat, dif_neg valid]
    decide

/-- A code point above the angle brackets stays above them. -/
theorem mapRuns_above
    {point : Nat}
    (above : '>'.toNat < point) : '>'.toNat < mapRuns lowerRuns point := by
  unfold mapRuns
  split
  · rename_i run found
    have bound := lowerRuns_above run (List.mem_of_find?_eq_some found)
    have inside := List.find?_some found
    simp only [Bool.and_eq_true, decide_eq_true_eq] at inside
    omega
  · exact above

theorem filter_isBracket_above
    {character : Char}
    (above : '>'.toNat < character.toNat) : [character].filter isBracket = [] := by
  refine List.filter_eq_nil_iff.2 fun other member bracket => ?_
  have small := Markup.toNat_le_of_isBracket bracket
  rw [List.mem_singleton.1 member] at small
  omega

/-- The first character of a text is lowered to characters with the same angle brackets. -/
theorem lowerAfter_cons_brackets
    (before : List Char)
    (character : Char)
    (rest : List Char) :
    ∃ lowered, lowered.filter isBracket = [character].filter isBracket ∧
      lowerAfter before (character :: rest) = lowered ++ lowerAfter (character :: before) rest := by
  refine ⟨_, ?_, rfl⟩
  by_cases ascii : character.toNat < 0x80
  · rw [if_pos ascii]
    split_ifs with capital
    · simp only [Bool.and_eq_true, decide_eq_true_eq, Char.le_def, UInt32.le_iff_toNat_le]
        at capital
      have above : '>'.toNat < character.toNat := Nat.lt_of_lt_of_le (by decide) capital.1
      rw [filter_isBracket_above above, List.filter_cons, isBracket_ofNat (by omega)]
      rfl
    · rfl
  · have above : '>'.toNat < character.toNat := Nat.lt_of_lt_of_le (by decide) (not_lt.1 ascii)
    rw [if_neg ascii, filter_isBracket_above above]
    split_ifs with sigma final dotted
    · decide
    · decide
    · decide
    · rw [List.filter_cons, isBracket_ofNat (mapRuns_above above)]
      rfl

theorem filter_isBracket_lowerAfter (before text : List Char) :
    (lowerAfter before text).filter isBracket = text.filter isBracket := by
  induction text generalizing before with
  | nil => rfl
  | cons character rest ih =>
    obtain ⟨lowered, same, split⟩ := lowerAfter_cons_brackets before character rest
    rw [split, List.filter_append, same, ih, ← List.filter_append, List.singleton_append]

end Text

namespace Naming

open Markup (isBracket brackets)

theorem filter_isBracket_hyphenate (afterWord : Bool) (text : List Char) :
    (hyphenate afterWord text).filter isBracket = text.filter isBracket := by
  induction text generalizing afterWord with
  | nil => rfl
  | cons character rest ih =>
    have tail : (character :: hyphenate (endsWord character) rest).filter isBracket =
        (character :: rest).filter isBracket := by
      rw [List.filter_cons, List.filter_cons, ih]
    rw [hyphenate]
    split
    · rw [List.filter_cons, tail]
      rfl
    · exact tail

/-- The CSS name of a property has the angle brackets of the property's name. -/
theorem brackets_kebabCase (name : String) : brackets (kebabCase name) = brackets name := by
  unfold brackets kebabCase Text.lower
  rw [String.toList_ofList, Text.filter_isBracket_lowerAfter, filter_isBracket_hyphenate]

end Naming

namespace Style

open Markup (brackets styleBrackets)

theorem brackets_declarations (style : Table String) :
    brackets (declarations style) = styleBrackets style := by
  have space : brackets " " = [] := by decide
  unfold declarations styleBrackets
  rw [Markup.brackets_intercalate space, List.flatMap_map]
  refine List.flatMap_congr fun property _ => ?_
  have colon : brackets ": " = [] := by decide
  have semicolon : brackets ";" = [] := by decide
  unfold declaration
  rw [Markup.brackets_append, Markup.brackets_append, Markup.brackets_append,
    Naming.brackets_kebabCase, colon, semicolon, List.append_nil, List.append_nil]

/-- The rule of an element has the angle brackets of the id and of the style. -/
theorem brackets_rule (element : Element) :
    brackets (rule element) = brackets element.id ++ styleBrackets element.style := by
  have selector : brackets ".element-" = [] := by decide
  have opening : brackets " \x7b " = [] := by decide
  have closing : brackets " \x7d" = [] := by decide
  have both : brackets " \x7b \x7d" = [] := by decide
  have inner := brackets_declarations element.style
  unfold rule
  dsimp only
  split
  · rename_i empty
    rw [String.isEmpty_iff.1 empty] at inner
    rw [← inner, Markup.brackets_append, Markup.brackets_append, selector, both]
    rfl
  · rw [Markup.brackets_append, Markup.brackets_append, Markup.brackets_append,
      Markup.brackets_append, inner, selector, opening, closing]
    simp

theorem brackets_rules (elements : List Element) :
    brackets (rules elements) =
      elements.flatMap fun element => brackets element.id ++ styleBrackets element.style := by
  have newline : brackets "\n" = [] := by decide
  unfold rules
  rw [Markup.brackets_intercalate newline, List.flatMap_map]
  exact List.flatMap_congr fun element _ => brackets_rule element

end Style

namespace Markup

/-- An element id has no angle brackets. -/
theorem brackets_of_isElementId
    {id : String}
    (valid : Identifier.isElementId id = true) : brackets id = [] := by
  refine List.filter_eq_nil_iff.2 fun character member bracket => ?_
  have foreign : Identifier.isElementIdCharacter character = false ∧ character ≠ '\n' := by
    simp only [isBracket, Bool.or_eq_true, beq_iff_eq] at bracket
    rcases bracket with rfl | rfl <;> decide
  rcases Identifier.mem_of_isElementId valid member with allowed | isBreak
  · exact Bool.false_ne_true (foreign.1.symm.trans allowed)
  · exact foreign.2 isBreak

/-- What does not look at styles is the same for all styles. -/
theorem map_withStyles
    {Result : Type}
    {view : Element -> Result}
    (blind : ∀ element style, view { element with style := style } = view element)
    (styles : Nat -> Table String)
    (elements : List Element) : (withStyles styles elements).map view = elements.map view :=
  map_mapIdx (fun place element => blind element (styles place)) elements

/-- Whatever the styles are, the brackets of the preview are some fixed ones around those of the
style rules. -/
theorem exists_brackets_preview
    (elements : List Element)
    (data : Table Json)
    (transform transition : String) :
    ∃ before after : List Char, ∀ styles : Nat -> Table String,
      brackets (preview (withStyles styles elements) data transform transition) =
        before ++ (brackets (Style.rules (withStyles styles elements)) ++ after) := by
  have lines : ∀ styles : Nat -> Table String,
      ((withStyles styles elements).flatMap (elementParts data)).flatMap Part.signs =
        (elements.flatMap (elementParts data)).flatMap Part.signs := by
    intro styles
    rw [List.flatMap_assoc, List.flatMap_assoc, List.flatMap_def, List.flatMap_def]
    rw [map_withStyles fun element style =>
      flatMap_signs_elementParts data data element element.content style]
  have parts : ∃ before after : List Part, ∀ elements : List Element,
      headParts elements transform transition =
        before ++ .fixed (Style.rules elements) :: after :=
    ⟨[_, _, _, _, _, _, _, _], _, fun _ => rfl⟩
  obtain ⟨before, after, head⟩ := parts
  refine ⟨(before.flatMap Part.signs).filter isBracket,
    (after.flatMap Part.signs ++ (elements.flatMap (elementParts data)).flatMap Part.signs ++
      Part.signs (.fixed "</div>")).filter isBracket, fun styles => ?_⟩
  rw [← filter_signs, ← filter_signs, preview, signs_written, previewParts, head]
  simp only [List.flatMap_append, List.flatMap_cons, List.flatMap_nil, List.filter_append, lines,
    List.append_assoc, List.append_nil]
  rfl

/-- The brackets of the style rules of elements are those of their styles. -/
theorem brackets_rules_of_isElementId
    {elements : List Element}
    (valid : ∀ element ∈ elements, Identifier.isElementId element.id = true) :
    brackets (Style.rules elements) = elements.flatMap fun element => styleBrackets element.style := by
  rw [Style.brackets_rules]
  refine List.flatMap_congr fun element member => ?_
  rw [brackets_of_isElementId (valid element member), List.nil_append]

theorem isElementId_withStyles
    {elements : List Element}
    (valid : ∀ element ∈ elements, Identifier.isElementId element.id = true)
    (styles : Nat -> Table String) :
    ∀ element ∈ withStyles styles elements, Identifier.isElementId element.id = true := by
  have ids : (withStyles styles elements).map Element.id = elements.map Element.id :=
    map_withStyles (fun _ _ => rfl) styles elements
  intro element member
  obtain ⟨other, there, same⟩ := List.mem_map.1 (ids ▸ List.mem_map_of_mem member)
  exact same ▸ valid other there

/-- The style block is written as it is, so its angle brackets are the styles' own: for two
choices of the styles of valid elements, the previews have the same angle brackets in the same
order exactly if the names and values of the styles, read element by element, have. -/
theorem preview_brackets_eq_iff
    {elements : List Element}
    (valid : ∀ element ∈ elements, Identifier.isElementId element.id = true)
    (data : Table Json)
    (transform transition : String)
    (left right : Nat -> Table String) :
    brackets (preview (withStyles left elements) data transform transition) =
        brackets (preview (withStyles right elements) data transform transition) ↔
      ((withStyles left elements).flatMap fun element => styleBrackets element.style) =
        (withStyles right elements).flatMap fun element => styleBrackets element.style := by
  obtain ⟨before, after, whole⟩ := exists_brackets_preview elements data transform transition
  rw [whole, whole, List.append_right_inj, List.append_left_inj,
    brackets_rules_of_isElementId (isElementId_withStyles valid left),
    brackets_rules_of_isElementId (isElementId_withStyles valid right)]

/-- A rectangle whose style has angle brackets only outside the values that are chosen. -/
theorem preview_brackets_eq_iff_rect :
    (∀ element ∈ [{ id := "a", kind := .rect : Element }],
        Identifier.isElementId element.id = true) ∧
      brackets (preview (withStyles (fun _ => [("color", "red")])
          [{ id := "a", kind := .rect }]) [] "none" "none") =
        brackets (preview (withStyles (fun _ => [("backgroundColor", "blue")])
          [{ id := "a", kind := .rect }]) [] "none" "none") := by
  have valid : ∀ element ∈ [{ id := "a", kind := .rect : Element }],
      Identifier.isElementId element.id = true := by decide
  exact ⟨valid, (preview_brackets_eq_iff valid [] "none" "none" _ _).2 (by decide)⟩

/-- A style value can end the style block and begin a script. -/
theorem not_preview_brackets_independent_of_styles :
    ¬ ∀ (elements : List Element) (data : Table Json) (transform transition : String)
      (left right : Nat -> Table String),
      (∀ element ∈ elements, Identifier.isElementId element.id = true) ->
      brackets (preview (withStyles left elements) data transform transition) =
        brackets (preview (withStyles right elements) data transform transition) := by
  intro independent
  have valid : ∀ element ∈ [{ id := "a", kind := .rect : Element }],
      Identifier.isElementId element.id = true := by decide
  obtain ⟨before, after, whole⟩ :=
    exists_brackets_preview [{ id := "a", kind := .rect : Element }] [] "none" "none"
  have same := independent _ [] "none" "none" (fun _ => [("color", "</style><script>")])
    (fun _ => []) valid
  rw [whole, whole, List.append_right_inj, List.append_left_inj] at same
  exact absurd same (by decide +kernel)

end Markup
end BroadcastGraphics
