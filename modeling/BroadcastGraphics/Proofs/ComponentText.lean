import BroadcastGraphics.Component
import BroadcastGraphics.Proofs.Identifiers
import BroadcastGraphics.Proofs.LiteralText
import BroadcastGraphics.Proofs.StyleText
import BroadcastGraphics.Proofs.TemplateText

/-!
# Component source holds the template

Component source declares the elements, the settings and the style rules of a template as constants.
Whoever reads it in order finds each of them between the name of its constant and the end of the
declaration: the comment in front holds no name of a constant, and no literal holds the end of a
declaration.  From the literals the template is read back.
-/

namespace BroadcastGraphics

namespace Text

/-! ## Searching -/

/-- The text before and the text behind the first place where a mark stands. -/
def splitFirst? (mark : List Char) : List Char -> Option (List Char × List Char)
  | [] => if mark.isEmpty then some ([], []) else none
  | character :: rest =>
      if mark.isPrefixOf (character :: rest) then some ([], (character :: rest).drop mark.length)
      else (splitFirst? mark rest).map fun parts => (character :: parts.1, parts.2)

variable {mark : List Char}

theorem splitFirst?_mark
    (nonempty : mark ≠ [])
    (rest : List Char) :
    splitFirst? mark (mark ++ rest) = some ([], rest) := by
  obtain ⟨first, more, rfl⟩ := List.exists_cons_of_ne_nil nonempty
  have starts : (first :: more).isPrefixOf (first :: (more ++ rest)) = true :=
    List.isPrefixOf_iff_prefix.2 (List.prefix_append (first :: more) rest)
  rw [List.cons_append, splitFirst?, if_pos starts, ← List.cons_append, List.drop_left]

theorem splitFirst?_cons
    {character : Char}
    {rest : List Char}
    (other : ¬ mark <+: character :: rest) :
    splitFirst? mark (character :: rest) =
      (splitFirst? mark rest).map fun parts => (character :: parts.1, parts.2) := by
  rw [splitFirst?, if_neg]
  rwa [List.isPrefixOf_iff_prefix]

/-- A mark that starts in front of a character that it does not have ends there. -/
theorem prefix_of_prefix_append
    {stop : Char}
    (foreign : stop ∉ mark)
    (before : List Char)
    {rest : List Char}
    (starts : mark <+: before ++ stop :: rest) : mark <+: before := by
  rcases List.prefix_or_prefix_of_prefix starts (List.prefix_append before _) with
    inside | ⟨more, rfl⟩
  · exact inside
  · cases more with
    | nil => exact (List.append_nil before).symm ▸ List.prefix_rfl
    | cons next more =>
      have same := (List.cons_prefix_cons.1 ((List.prefix_append_right_inj before).1 starts)).1
      exact absurd (List.mem_append_right before (same ▸ List.mem_cons_self)) foreign

/-- A mark is found behind a text that lacks one of its characters and ends with one foreign to
it. -/
theorem splitFirst?_behind
    {stop wanted : Char}
    (foreign : stop ∉ mark)
    (needed : wanted ∈ mark)
    {before : List Char}
    (absent : wanted ∉ before)
    (rest : List Char) :
    splitFirst? mark (before ++ stop :: (mark ++ rest)) = some (before ++ [stop], rest) := by
  induction before with
  | nil =>
    have other : ¬ mark <+: stop :: (mark ++ rest) := fun starts =>
      absent ((prefix_of_prefix_append foreign [] starts).subset needed)
    rw [List.nil_append, splitFirst?_cons other, splitFirst?_mark (List.ne_nil_of_mem needed)]
    rfl
  | cons character before ih =>
    have other : ¬ mark <+: character :: (before ++ stop :: (mark ++ rest)) := fun starts =>
      absent ((prefix_of_prefix_append foreign (character :: before) starts).subset needed)
    rw [List.cons_append, splitFirst?_cons other, ih (List.not_mem_of_not_mem_cons absent)]
    rfl

end Text

/-! ## Declarations -/

namespace Component

/-- The end of a declaration. -/
def declarationEnd : List Char := [';', '\n']

/-- The literals of declarations: each from behind its mark up to the end of the declaration, the
next one behind it. -/
def literalsAfter? : List String -> List Char -> Option (List String)
  | [], _ => some []
  | mark :: marks, text => do
      let (_, declared) <- Text.splitFirst? mark.toList text
      let (literal, rest) <- Text.splitFirst? declarationEnd declared
      let later <- literalsAfter? marks rest
      some (String.ofList literal :: later)

/-- What stands in front of the literals of a template. -/
def declarationMarks : List String :=
  ["const ELEMENTS = ", "const ANIMATION_SETTINGS = ", "const ELEMENT_STYLES = "]

/-- No end of a declaration starts in an inert text. -/
theorem not_declarationEnd_of_inert
    {character : Char}
    {text : List Char}
    (inert : Json.Inert (character :: text))
    (rest : List Char) :
    ¬ declarationEnd <+: character :: (text ++ (declarationEnd ++ rest)) := by
  intro ends
  obtain ⟨rfl, breaks⟩ := List.cons_prefix_cons.1 ends
  cases text with
  | nil => exact inert.unended rfl
  | cons next text =>
    have same := (List.cons_prefix_cons.1 breaks).1
    exact inert.unbroken.rel_head? rfl ⟨rfl, same.symm⟩

/-- An inert text is passed over as a whole. -/
theorem splitFirst?_inert
    {text : List Char}
    (inert : Json.Inert text)
    (rest : List Char) :
    Text.splitFirst? declarationEnd (text ++ (declarationEnd ++ rest)) = some (text, rest) := by
  induction text with
  | nil => exact Text.splitFirst?_mark (List.cons_ne_nil _ _) rest
  | cons character text ih =>
    rw [List.cons_append, Text.splitFirst?_cons (not_declarationEnd_of_inert inert rest),
      ih inert.tail]
    rfl

/-- One literal is found behind a text without a character of its mark. -/
theorem literalsAfter?_cons
    {mark literal : String}
    {stop wanted : Char}
    (foreign : stop ∉ mark.toList)
    (needed : wanted ∈ mark.toList)
    {before : List Char}
    (absent : wanted ∉ before)
    (inert : Json.Inert literal.toList)
    (marks : List String)
    (rest : List Char) :
    literalsAfter? (mark :: marks)
        (before ++ stop :: (mark.toList ++ (literal.toList ++ (declarationEnd ++ rest)))) =
      (literalsAfter? marks rest).map (literal :: ·) := by
  rw [literalsAfter?, Text.splitFirst?_behind foreign needed absent]
  simp only [Option.bind_eq_bind, Option.bind_some, splitFirst?_inert inert, String.ofList_toList]
  cases literalsAfter? marks rest <;> rfl

/-- The comment in front of the declarations. -/
def heading (component : Component) : String :=
  "// " ++ component.tag ++
    ": generated OGraf graphic component. Edits are overwritten on regeneration.\n"

/-- The declarations of component source behind the comment. -/
theorem exists_toList_text
    (component : Component) :
    ∃ rest : List Char, component.text.toList =
      component.heading.toList ++ '\n' ::
        ("const ELEMENTS = ".toList ++ (component.elements.toList ++ (declarationEnd ++
      ([] ++ '\n' :: ("const ANIMATION_SETTINGS = ".toList ++ (component.animation.toList ++
        (declarationEnd ++
      ([] ++ '\n' :: ("const ELEMENT_STYLES = ".toList ++ (component.stylesLiteral.toList ++
        (declarationEnd ++ rest))))))))))) := by
  have whole : ∃ later : String, component.text =
      component.heading ++ ("\n" ++ ("const ELEMENTS = " ++ (component.elements ++ (";\n" ++
      ("\n" ++ ("const ANIMATION_SETTINGS = " ++ (component.animation ++ (";\n" ++
      ("\n" ++ ("const ELEMENT_STYLES = " ++ (component.stylesLiteral ++ (";\n" ++
        later)))))))))))) := by
    have ended : ";\n\n" = ";\n" ++ "\n" := rfl
    have commented : ": generated OGraf graphic component. Edits are overwritten on regeneration.\n\n" =
        ": generated OGraf graphic component. Edits are overwritten on regeneration.\n" ++ "\n" := rfl
    refine ⟨?later, ?same⟩
    case same =>
      unfold text opening heading
      rw [ended, commented]
      simp only [String.append_assoc]
      rfl
  obtain ⟨later, same⟩ := whole
  refine ⟨later.toList, ?_⟩
  rw [same]
  simp only [String.toList_append]
  rfl

/-- The literals of component source are found whatever they hold. -/
theorem literalsAfter?_text
    {component : Component}
    (tag : '=' ∉ component.tag.toList)
    (elements : Json.Inert component.elements.toList)
    (animation : Json.Inert component.animation.toList) :
    literalsAfter? declarationMarks component.text.toList =
      some [component.elements, component.animation, component.stylesLiteral] := by
  have absent : '=' ∉ component.heading.toList := by
    rw [heading, String.toList_append, String.toList_append, List.mem_append, List.mem_append,
      not_or, not_or]
    exact ⟨⟨by decide, tag⟩, by decide⟩
  have none : '=' ∉ ([] : List Char) := List.not_mem_nil
  have styles : Json.Inert component.stylesLiteral.toList := Json.inert_literal _ _
  obtain ⟨rest, same⟩ := component.exists_toList_text
  rw [same, declarationMarks, literalsAfter?_cons (by decide) (by decide) absent elements,
    literalsAfter?_cons (by decide) (by decide) none animation,
    literalsAfter?_cons (by decide) (by decide) none styles]
  rfl

end Component

/-! ## Characters -/

/-- The bytes of a text are those of its characters; of a long text they are read off faster. -/
theorem Text.bytes_eq_flatMap (text : String) :
    text.toByteArray.data.toList = text.toList.flatMap String.utf8EncodeChar := by
  rw [← String.utf8Encode_toList, List.utf8Encode, List.data_toByteArray]

namespace Json

theorem isPlain_append
    (first second : String) :
    IsPlain (first ++ second) ↔ IsPlain first ∧ IsPlain second := by
  unfold IsPlain
  rw [String.toList_append, List.forall_mem_append]

theorem isPlain_intercalate
    {separator : String}
    (plain : IsPlain separator)
    {parts : List String}
    (plainParts : ∀ part ∈ parts, IsPlain part) :
    IsPlain (String.intercalate separator parts) := by
  induction parts with
  | nil => exact fun _ member => nomatch member
  | cons part rest ih =>
    rw [List.forall_mem_cons] at plainParts
    cases rest with
    | nil =>
      rw [String.intercalate_singleton]
      exact plainParts.1
    | cons second rest =>
      rw [String.intercalate_cons_cons, isPlain_append, isPlain_append]
      exact ⟨⟨plainParts.1, plain⟩, ih plainParts.2⟩

/-- A text is in ASCII if its bytes are. -/
theorem isPlain_of_bytes
    {text : String}
    (small : ∀ byte ∈ text.toByteArray.data.toList, byte.toNat < 128) : IsPlain text := by
  intro character member
  have bytes : ∀ byte ∈ String.utf8EncodeChar character, byte.toNat < 128 := by
    intro byte isByte
    refine small byte ?_
    rw [Text.bytes_eq_flatMap]
    exact List.mem_flatMap.2 ⟨character, member, isByte⟩
  -- the first byte of a character beyond ASCII tells how many more there are
  unfold String.utf8EncodeChar at bytes
  dsimp only at bytes
  split at bytes
  · rename_i single
    exact Nat.lt_succ_of_le single
  · split at bytes
    · have first := bytes _ List.mem_cons_self
      simp only [UInt8.toNat_ofNat'] at first
      omega
    · split at bytes
      · have first := bytes _ List.mem_cons_self
        simp only [UInt8.toNat_ofNat'] at first
        omega
      · have first := bytes _ List.mem_cons_self
        simp only [UInt8.toNat_ofNat'] at first
        omega

theorem isPlain_literal
    (value : Json)
    (indent : Option Nat) :
    IsPlain (value.literal indent) :=
  (inert_literal value indent).ascii

end Json

namespace Naming

theorem ascii_upper
    {character : Char}
    (ascii : character.toNat < 128) :
    ∀ capital ∈ Text.upper character, capital.toNat < 128 := by
  refine Identifier.of_ascii character ascii ?_
  decide +kernel

theorem ascii_capitalizeWords
    {text : List Char}
    (ascii : ∀ character ∈ text, character.toNat < 128)
    (startsWord : Bool) :
    ∀ character ∈ capitalizeWords startsWord text, character.toNat < 128 := by
  induction text generalizing startsWord with
  | nil => exact fun _ member => nomatch member
  | cons first rest ih =>
    rw [List.forall_mem_cons] at ascii
    rw [capitalizeWords]
    split
    · exact ih ascii.2 true
    · refine List.forall_mem_append.2 ⟨?_, ih ascii.2 false⟩
      split
      · exact ascii_upper ascii.1
      · exact List.forall_mem_singleton.2 ascii.1

theorem isPlain_componentClassName
    {id : String}
    (plain : Json.IsPlain id) :
    Json.IsPlain (componentClassName id) := by
  have named : Json.IsPlain (pascalCase id ++ "Graphic") := by
    rw [Json.isPlain_append]
    refine ⟨?_, by decide⟩
    unfold Json.IsPlain pascalCase
    rw [String.toList_ofList]
    exact ascii_capitalizeWords plain true
  unfold componentClassName
  dsimp only
  split
  · split
    · exact (Json.isPlain_append _ _).2 ⟨by decide, named⟩
    · exact named
  · exact named

end Naming

namespace Component

theorem isPlain_script : Json.IsPlain ComponentScript.text := by
  have lines : ∀ line ∈ ComponentScript.lines,
      ∀ byte ∈ line.toByteArray.data.toList, byte.toNat < 128 := by decide +kernel
  exact Json.isPlain_intercalate (by decide) fun line member =>
    Json.isPlain_of_bytes (lines line member)

/-- Component source is in ASCII if the names and the literals in it are. -/
theorem isPlain_text
    {component : Component}
    (className : Json.IsPlain component.className)
    (tag : Json.IsPlain component.tag)
    (elements : Json.IsPlain component.elements)
    (animation : Json.IsPlain component.animation) :
    Json.IsPlain component.text := by
  have literals : Json.IsPlain component.tagLiteral ∧ Json.IsPlain component.stylesLiteral :=
    ⟨Json.isPlain_literal _ _, Json.isPlain_literal _ _⟩
  have font := Json.isPlain_literal (.str Canvas.fontFamily) none
  unfold text opening closing Canvas.width Canvas.height
  simp only [Json.isPlain_append, className, tag, elements, animation, literals, font,
    isPlain_script, and_true]
  decide

end Component

/-! ## The template in the source -/

namespace Json

/-- A reader that reads longer integers reads whatever records have of themselves. -/
theorem Standard.basic_carried_of_le
    {asciiOnly : Bool}
    {limits : Reader.Limits}
    (within : Reader.Limits.standard.digits ≤ limits.digits) :
    (Standard.carried asciiOnly limits).Basic where
  plain := (@basic_carried asciiOnly).plain
  small value near := Nat.le_trans ((@basic_carried asciiOnly).small value near) within
  whole number value isWhole :=
    Nat.le_trans ((@basic_carried asciiOnly).whole number value isWhole) within

end Json

namespace Component

section Carried

variable {elements : List Element}
  (carried : ∀ element ∈ elements, element.Meets (.carried true .standard))
include carried

/-- A list of elements is carried by its literal if the texts of every element are, which is to say
that no two halves of one pair stand next to each other in them. -/
theorem parse_elements :
    Json.parse ((Json.arr (elements.map Element.toJson)).literal (some 4)) =
      .ok (.arr (elements.map Element.toJson)) := by
  have meets : (Json.arr (elements.map Element.toJson)).Meets (.carried true .standard) := by
    rw [Json.meets_arr, Json.meetsItems_iff]
    intro item member
    obtain ⟨element, isThere, rfl⟩ := List.mem_map.1 member
    exact (carried element isThere).toJson Json.Standard.basic_carried
  have shallow : (Json.arr (elements.map Element.toJson)).levels ≤ 4 := by
    refine Json.levels_arr_le fun item member => ?_
    obtain ⟨element, _, rfl⟩ := List.mem_map.1 member
    exact element.levels_toJson
  exact Json.parseWithin_text ⟨true, some 4⟩ meets (shallow.trans (by decide))

/-- So are the style rules. -/
theorem parse_rules :
    Json.parse ((Json.str (Style.rules elements)).literal none) =
      .ok (.str (Style.rules elements)) := by
  have unpaired : Text.HalfPair.Unpaired (Style.rules elements).toList := by
    refine Style.unpaired_rules (fun element member => (carried element member).id rfl)
      fun element member property isThere => ?_
    have held := (carried element member).style.each (property.1, .str property.2)
      (List.mem_map_of_mem isThere)
    exact ⟨held.1 rfl, (Json.meets_str _).1 held.2 rfl⟩
  exact Json.parse_literal none unpaired trivial (show 1 ≤ Json.Reader.Limits.standard.depth by decide)

end Carried

/-- Settings are read from their literal by every reader for which the durations are not too long. -/
theorem parse_settings
    {settings : AnimationSettings}
    {limits : Json.Reader.Limits}
    (digits : Json.Reader.Limits.standard.digits ≤ limits.digits)
    (depth : Json.Reader.Limits.standard.depth ≤ limits.depth)
    (carried : settings.Meets (.carried true limits)) :
    Json.parseWithin limits (settings.toJson.literal (some 4)) = .ok settings.toJson := by
  have meets := carried.toJson (Json.Standard.basic_carried_of_le digits)
  have shallow := settings.levels_toJson.trans ((by decide : 2 ≤ 985).trans depth)
  exact Json.parseWithin_text ⟨true, some 4⟩ meets shallow

/-- Component source is in ASCII, and it holds the template whatever the texts in it are: the literals
behind the names of its three constants are JSON texts of the elements, of the settings and of the
style rules.  That a text is carried says that it is one of characters, in which no two halves of a
pair stand next to each other; integers are carried by every reader that reads as many digits. -/
theorem source_holds_template
    {manifest : Manifest}
    (valid : manifest.Valid)
    {elements : List Element}
    (carried : ∀ element ∈ elements, element.Meets (.carried true .standard))
    (settings : Option AnimationSettings) :
    Json.IsPlain (source manifest elements settings) ∧
      ∃ elementsText settingsText rulesText,
        literalsAfter? declarationMarks (source manifest elements settings).toList =
          some [elementsText, settingsText, rulesText] ∧
        Json.parse elementsText = .ok (.arr (elements.map Element.toJson)) ∧
        (∀ limits : Json.Reader.Limits,
          Json.Reader.Limits.standard.digits ≤ limits.digits ->
          Json.Reader.Limits.standard.depth ≤ limits.depth ->
          (settings.getD .standard).Meets (.carried true limits) ->
          Json.parseWithin limits settingsText = .ok (settings.getD .standard).toJson) ∧
        Json.parse rulesText = .ok (.str (Style.rules elements)) := by
  have plainId : Json.IsPlain manifest.id := fun character member =>
    Nat.lt_of_le_of_lt (Identifier.toNat_le_of_isSlug valid.id character member) (by decide)
  have plainTag : Json.IsPlain (Naming.tagName manifest.id) :=
    (Json.isPlain_append _ _).2 ⟨plainId, by decide⟩
  have noEquals : '=' ∉ (Naming.tagName manifest.id).toList := by
    rw [Naming.tagName, String.toList_append, List.mem_append, not_or]
    exact ⟨Identifier.notMem_of_isSlug valid.id (by decide) (by decide), by decide⟩
  refine ⟨?_, _, _, _, ?_, parse_elements carried, fun limits digits depth meets =>
    parse_settings digits depth meets, parse_rules carried⟩
  · exact isPlain_text (Naming.isPlain_componentClassName plainId) plainTag
      (Json.isPlain_literal _ _) (Json.isPlain_literal _ _)
  · exact literalsAfter?_text noEquals (Json.inert_literal _ _) (Json.inert_literal _ _)

/-- An element with everything in its texts that could end a literal, a line or a script. -/
def hostileElement : Element where
  id := "title"
  kind := .text
  content := some "</script>\x22;\n'\x5c const ELEMENT_STYLES = \u2028😀"
  style := [("fontFamily", "a\x22;\nb"), ("X;\n", "\x7d </style>")]

theorem hostile_texts_read_back :
    ∃ elementsText settingsText rulesText,
      literalsAfter? declarationMarks
          (source { id := "demo\n", name := "Demo" } [hostileElement] none).toList =
        some [elementsText, settingsText, rulesText] ∧
      Json.parse elementsText = .ok (.arr [hostileElement.toJson]) ∧
      Json.parse settingsText = .ok AnimationSettings.standard.toJson ∧
      Json.parse rulesText = .ok (.str (Style.rules [hostileElement])) := by
  have valid : ({ id := "demo\n", name := "Demo" } : Manifest).Valid :=
    { id := by decide
      steps := by decide
      schema := ⟨fun _ _ => List.not_mem_nil, fun _ member => nomatch member⟩
      actions := fun _ member => nomatch member
      extras := fun _ _ => List.not_mem_nil }
  have carried : ∀ element ∈ [hostileElement], element.Meets (.carried true .standard) := by
    rw [List.forall_mem_singleton]
    refine ⟨fun _ => by decide, fun content given _ => ?_,
      Json.meets_of_legible _ (by decide) (by decide)⟩
    cases given
    decide
  obtain ⟨_, elementsText, settingsText, rulesText, found, elements, settings, rules⟩ :=
    source_holds_template valid carried none
  exact ⟨elementsText, settingsText, rulesText, found, elements,
    settings .standard (Nat.le_refl _) (Nat.le_refl _)
      (AnimationSettings.meets_standard Json.Standard.basic_carried), rules⟩

end Component
end BroadcastGraphics
