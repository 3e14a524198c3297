import BroadcastGraphics.Proofs.AcceptedRecords
import BroadcastGraphics.Proofs.LayoutIds
import BroadcastGraphics.Proofs.PlaceholderText
import BroadcastGraphics.Proofs.WholeTime

/-!
# What layouts made from a schema contain

A layout has one text for every text property, in the order of the properties, and each shows the
placeholder for its property.  Together with the ids this makes a layout acceptable in the snapshot
of any accepted manifest.  The placeholder stands for its property exactly if the property's name is
one that placeholders can hold; under any other name the text shows the placeholder itself.
-/

namespace BroadcastGraphics

namespace Binary64

/-- A whole number that is not negative is represented without the sign of a negative zero. -/
theorem withoutZeroSign_ofInt
    {value : Int}
    (positive : 0 ≤ value) : (ofInt value).withoutZeroSign = ofInt value := by
  unfold ofInt
  rw [decide_eq_false (not_lt.2 positive), ofSteps_eq]
  split <;> rfl

theorem isFinite_ofInt_of_lt
    {value : Int}
    (small : value.natAbs < 2 ^ 128) : (ofInt value).isFinite = true := by
  have measured : nearest? value ≠ none := by
    rw [Ne, nearest?_eq_none_iff]
    omega
  obtain ⟨delay, found⟩ := Option.ne_none_iff_exists'.1 measured
  exact nearest?_finite found

end Binary64

/-- A coordinate on the canvas or beyond it, far from the largest numbers. -/
def Preset.Reachable (number : Int) : Prop :=
  0 ≤ number ∧ number.natAbs < 2 ^ 128

instance (number : Int) : Decidable (Preset.Reachable number) :=
  inferInstanceAs (Decidable (0 ≤ number ∧ number.natAbs < 2 ^ 128))

theorem Preset.Reachable.isFinite
    {number : Int}
    (reachable : Reachable number) : (Binary64.ofInt number).isFinite = true :=
  Binary64.isFinite_ofInt_of_lt reachable.2

theorem Preset.Reachable.withoutZeroSign
    {number : Int}
    (reachable : Reachable number) :
    (Binary64.ofInt number).withoutZeroSign = Binary64.ofInt number :=
  Binary64.withoutZeroSign_ofInt reachable.1

/-- An element that is read back as it is written. -/
structure Element.Stable (element : Element) : Prop where
  valid : element.Valid
  settled : element.settled = element

theorem Preset.stable_placed
    {id : String}
    (isId : Identifier.isElementId id = true)
    (kind : ElementKind)
    {x y width height : Int}
    (left : Reachable x)
    (top : Reachable y)
    (across : Reachable width)
    (down : Reachable height)
    (content : Option String)
    (style : Table String) :
    (placed id kind x y width height content style).Stable := by
  unfold placed
  refine ⟨⟨isId, left.isFinite, top.isFinite, across.isFinite, down.isFinite⟩, ?_⟩
  unfold Element.settled
  dsimp only
  rw [left.withoutZeroSign, top.withoutZeroSign, across.withoutZeroSign, down.withoutZeroSign]

namespace Layout

/-- The properties that hold texts, in order. -/
def textProperties (properties : Table SchemaProperty) : Table SchemaProperty :=
  properties.filter fun property => property.2.kind == "string"

theorem mem_textRows
    {properties : Table SchemaProperty}
    {index row : Nat}
    (member : row ∈ textRows index properties) :
    index ≤ row ∧ row < index + properties.length := by
  induction properties generalizing index with
  | nil => cases member
  | cons property rest ih =>
    rw [textRows] at member
    rw [List.length_cons]
    split at member
    · rcases List.mem_cons.1 member with rfl | later
      · omega
      · have := ih later
        omega
    · have := ih member
      omega

/-- The rows of the texts are ordered, so the first is the smallest. -/
theorem first_le_of_textRows
    {properties : Table SchemaProperty}
    {index first row : Nat}
    {rest : List Nat}
    (rows : textRows index properties = first :: rest)
    (member : row ∈ first :: rest) : first ≤ row := by
  induction properties generalizing index with
  | nil => cases rows
  | cons property others ih =>
    rw [textRows] at rows
    split at rows
    · obtain ⟨rfl, rfl⟩ := List.cons.inj rows
      rcases List.mem_cons.1 member with rfl | later
      · exact Nat.le_refl _
      · exact Nat.le_of_lt (mem_textRows later).1
    · exact ih rows

/-- The texts of a layout show the placeholders of the text properties, in order. -/
theorem textElements_content
    (properties : Table SchemaProperty)
    (taken : List String)
    (index : Nat) :
    (textElements taken index properties).map (fun element => (element.kind, element.content)) =
      (textProperties properties).map fun property =>
        (ElementKind.text, some (placeholder property.1)) := by
  induction properties generalizing taken index with
  | nil => rfl
  | cons property rest ih =>
    unfold textElements textProperties
    rw [List.filter_cons]
    split
    · rw [List.map_cons, List.map_cons, ih]
      rfl
    · exact ih taken (index + 1)

theorem textRows_ne_nil
    {properties : Table SchemaProperty}
    (some : textProperties properties ≠ [])
    (index : Nat) : textRows index properties ≠ [] := by
  induction properties generalizing index with
  | nil => exact absurd rfl some
  | cons property rest ih =>
    unfold textRows
    unfold textProperties at some
    rw [List.filter_cons] at some
    split
    · exact List.cons_ne_nil _ _
    · rename_i other
      rw [if_neg other] at some
      exact ih some (index + 1)

/-- A layout with texts is a background and the texts. -/
theorem ofSchema_eq_cons
    {properties : Table SchemaProperty}
    (some : textProperties properties ≠ [])
    (name : String) :
    ∃ first last, ofSchema properties name =
      background ((textElements [] 0 properties).map Element.id) first last ::
        textElements [] 0 properties := by
  have nonempty : properties.isEmpty = false := by
    cases properties with
    | nil => exact absurd rfl some
    | cons property rest => rfl
  unfold ofSchema
  rw [nonempty, if_neg Bool.false_ne_true]
  dsimp only
  split
  · rename_i none
    exact absurd none (textRows_ne_nil some 0)
  · exact ⟨_, _, rfl⟩

/-! ## Layouts in snapshots -/

/-- Numbers up to a row are reachable if the row is within `2 ^ 64`. -/
theorem reachable_of_row
    {row : Nat}
    (small : row ≤ 2 ^ 64)
    {number : Int}
    (positive : 0 ≤ number)
    (near : number ≤ 60 * row + 1000) : Preset.Reachable number := by
  unfold Preset.Reachable
  omega

theorem stable_textElements
    {properties : Table SchemaProperty}
    {taken : List String}
    {index : Nat}
    (small : index + properties.length ≤ 2 ^ 64) :
    ∀ element ∈ textElements taken index properties, element.Stable := by
  induction properties generalizing taken index with
  | nil => exact fun _ none => nomatch none
  | cons property rest ih =>
    rw [List.length_cons] at small
    have row : index ≤ 2 ^ 64 := by omega
    have others := fun taken => @ih taken (index + 1) (by omega)
    unfold textElements
    split
    · refine List.forall_mem_cons.2 ⟨?_, others _⟩
      apply Preset.stable_placed (idFor_spec property.1 taken).1
      · exact reachable_of_row row (by decide) (by omega)
      · unfold rowTop
        exact reachable_of_row row (by omega) (by omega)
      · exact reachable_of_row row (by decide) (by omega)
      · exact reachable_of_row row (by decide) (by omega)
    · exact others _

theorem stable_background
    (taken : List String)
    {first last : Nat}
    (ordered : first ≤ last)
    (small : last ≤ 2 ^ 64) : (background taken first last).Stable := by
  apply Preset.stable_placed (background_spec taken first last).1
  · exact reachable_of_row small (by decide) (by omega)
  · unfold rowTop
    exact reachable_of_row small (by omega) (by omega)
  · exact reachable_of_row small (by decide) (by omega)
  · unfold rowTop
    exact reachable_of_row small (by omega) (by omega)

/-- The elements of a layout are valid and are read back as they are. -/
theorem stable_ofSchema
    {properties : Table SchemaProperty}
    (small : properties.length ≤ 2 ^ 64)
    (name : String) : ∀ element ∈ ofSchema properties name, element.Stable := by
  unfold ofSchema
  split
  · split
    · intro element member
      rw [List.mem_singleton.1 member]
      exact Preset.stable_placed (by decide) _ (by decide) (by decide) (by decide) (by decide) _ _
    · exact fun _ none => nomatch none
  · have texts : ∀ element ∈ textElements [] 0 properties, element.Stable :=
      stable_textElements (by omega)
    dsimp only
    split
    · exact texts
    · rename_i first rest rows
      have last : (first :: rest).getLast (by simp) ∈ first :: rest := List.getLast_mem _
      refine List.forall_mem_cons.2 ⟨?_, texts⟩
      refine stable_background _ (first_le_of_textRows rows last) ?_
      have bounded : ∀ row ∈ first :: rest, row ≤ 2 ^ 64 := by
        intro row member
        rw [← rows] at member
        have inside := (mem_textRows member).2
        omega
      exact bounded _ last

/-- The snapshot of an accepted manifest and a list of elements is accepted as it is, if the
elements are valid, are read back as they are and have distinct ids. -/
theorem snapshot_accepted
    {value : Json}
    {manifest : Manifest}
    (accepted : Manifest.check value = .accepted manifest)
    {elements : List Element}
    (stable : ∀ element ∈ elements, element.Stable)
    (distinct : (elements.map Element.id).Nodup) :
    Snapshot.check (.obj [("manifest", value), ("elements", .arr (elements.map Element.toJson))]) =
      .accepted { manifest, elements } := by
  obtain ⟨_, _, described⟩ := (Check.record_accepted_iff _ _ _ _).1 accepted
  have valid : Snapshot.Valid { manifest, elements } :=
    ⟨Manifest.valid_of_ofMembers described, fun element member => (stable element member).valid,
      distinct, fun _ none => nomatch none⟩
  have same : elements.map Element.settled = elements := by
    rw [List.map_congr_left fun element member => (stable element member).settled, List.map_id']
  have read := Snapshot.checkElements_toJson valid
  rw [same] at read
  refine (Snapshot.ofMembers_accepted_iff _ _).2 ⟨?_, ?_, ?_, ?_⟩
  · exact Field.required_found (Field.find?_written rfl) accepted
  · exact Field.withDefault_found (Field.find?_written rfl) read
  · exact Field.withDefault_absent rfl
  · exact Field.withDefault_absent rfl

/-- A layout made from a schema is always valid.  Its ids are distinct and have the form of element
ids, and the snapshot of any accepted manifest accepts it as it is; only a schema of `2 ^ 64`
properties and more, which no table holds, could lead to rows beyond all numbers.  With a text
property the layout is a rectangle and then exactly one text for each text property, in the order
of the properties and with the property's placeholder as content. -/
theorem layout_is_valid
    (properties : Table SchemaProperty)
    (name : String) :
    ((ofSchema properties name).map Element.id).Nodup ∧
      (∀ element ∈ ofSchema properties name, Identifier.isElementId element.id = true) ∧
      Snapshot.duplicateId? [] (ofSchema properties name) = none ∧
      (properties.length ≤ 2 ^ 64 ->
        ∀ value manifest, Manifest.check value = .accepted manifest ->
          Snapshot.check (.obj [("manifest", value),
              ("elements", .arr ((ofSchema properties name).map Element.toJson))]) =
            .accepted { manifest, elements := ofSchema properties name }) ∧
      (textProperties properties ≠ [] ->
        ∃ background texts, ofSchema properties name = background :: texts ∧
          background.kind = .rect ∧
          texts.map (fun element => (element.kind, element.content)) =
            (textProperties properties).map fun property =>
              (ElementKind.text, some (placeholder property.1))) := by
  have named := named_ofSchema properties name
  refine ⟨named.distinct, named.ids, ?_, fun small value manifest accepted => ?_, fun some => ?_⟩
  · exact (Snapshot.duplicateId?_eq_none_iff _ _).2 ⟨named.distinct, named.fresh⟩
  · exact snapshot_accepted accepted (stable_ofSchema small name) named.distinct
  · obtain ⟨first, last, whole⟩ := ofSchema_eq_cons some name
    exact ⟨_, _, whole, rfl, textElements_content properties [] 0⟩

/-- A schema in which two names come to one id and the third is the usual id of the background. -/
def clashingProperties : Table SchemaProperty :=
  [("a b", {}), ("a_b", {}), ("background", {})]

/-- Names that clash with each other and with the background give a layout that is accepted. -/
theorem layout_is_valid_of_clashing_names :
    clashingProperties.length ≤ 2 ^ 64 ∧ textProperties clashingProperties ≠ [] ∧
      ((ofSchema clashingProperties "Demo").map Element.id).Nodup ∧
      ∃ manifest, Manifest.check (.obj [("id", .str "demo"), ("name", .str "Demo")]) =
          .accepted manifest ∧
        Snapshot.check (.obj [("manifest", .obj [("id", .str "demo"), ("name", .str "Demo")]),
            ("elements", .arr ((ofSchema clashingProperties "Demo").map Element.toJson))]) =
          .accepted { manifest, elements := ofSchema clashingProperties "Demo" } := by
  have small : clashingProperties.length ≤ 2 ^ 64 := by decide
  obtain ⟨distinct, _, _, accepts, _⟩ := layout_is_valid clashingProperties "Demo"
  exact ⟨small, by decide, distinct, _, rfl, accepts small _ _ rfl⟩

/-! ## Placeholders of properties -/

/-- A text made of one placeholder has one piece. -/
theorem pieces_placeholder
    {name : String}
    (isName : Placeholder.IsName name.toList) :
    Placeholder.pieces (placeholder name) = [.token name.toList] := by
  have source : (placeholder name).toList = (Placeholder.Piece.token name.toList).source ++ [] := by
    unfold placeholder Placeholder.Piece.source
    simp
  unfold Placeholder.pieces
  rw [source, Placeholder.cut_token isName]
  rfl

/-- The placeholder for a property shows every text under the property's name exactly if the name
is one that placeholders can hold. -/
theorem placeholder_shows_iff (name : String) :
    (∀ (data : Table Json) (value : String), Table.get? data name = some (.str value) ->
        Placeholder.fill (some (placeholder name)) data = value) ↔
      Placeholder.IsName name.toList := by
  constructor
  · intro shows
    by_contra other
    -- Nothing that is found in the text is called like the property, so its value goes unused.
    have unused : ∀ found ∈ Placeholder.names (some (placeholder name)),
        Json.memberOrNull [(name, .str "")] found = Json.memberOrNull [] found := by
      intro found member
      have isName := Placeholder.isName_of_mem_names member
      have apart : name ≠ found := fun same => other (same ▸ isName)
      unfold Json.memberOrNull
      simp only [Table.get?, if_neg apart]
    have shown := shows [(name, .str "")] "" (by simp [Table.get?])
    rw [Placeholder.fill_congr unused, Placeholder.fill_nil] at shown
    have length := congrArg String.length shown
    unfold placeholder at length
    simp at length
  · intro isName data value present
    have filled : (Placeholder.Piece.token name.toList).filled data = value.toList := by
      rw [Placeholder.filled_token, String.ofList_toList, Json.memberOrNull, present]
      rfl
    rw [Placeholder.fill, pieces_placeholder isName, List.flatMap_cons, List.flatMap_nil,
      List.append_nil, filled, String.ofList_toList]

/-- The text that a layout has for a text property shows the live value of the property exactly if
the property's name is made of ASCII letters, digits and underscores and is not empty. -/
theorem layout_text_shows_iff
    {properties : Table SchemaProperty}
    {place : Nat}
    {key : String}
    {property : SchemaProperty}
    (isText : (textProperties properties)[place]? = some (key, property))
    (name : String) :
    ∃ element, (ofSchema properties name)[place + 1]? = some element ∧ element.kind = .text ∧
      ((∀ (data : Table Json) (value : String), Table.get? data key = some (.str value) ->
          Placeholder.fill element.content data = value) ↔
        Placeholder.IsName key.toList) := by
  have some : textProperties properties ≠ [] := by
    intro none
    rw [none] at isText
    cases isText
  obtain ⟨first, last, whole⟩ := ofSchema_eq_cons some name
  have contents := congrArg (·[place]?) (textElements_content properties [] 0)
  simp only [List.getElem?_map, isText, Option.map_some, Option.map_eq_some_iff] at contents
  obtain ⟨element, found, same⟩ := contents
  obtain ⟨kind, content⟩ := Prod.mk.inj same
  refine ⟨element, ?_, kind, ?_⟩
  · rw [whole, List.getElem?_cons_succ, found]
  · rw [content]
    exact placeholder_shows_iff key

/-- The text for a property with a blank in its name does not show it. -/
theorem layout_text_shows_iff_of_blank :
    (textProperties [("name", {}), ("first name", {})])[1]? =
        some ("first name", ({} : SchemaProperty)) ∧
      ∃ element, (ofSchema [("name", {}), ("first name", {})] "Demo")[2]? = some element ∧
        ¬ ∀ (data : Table Json) (value : String),
          Table.get? data "first name" = some (.str value) ->
            Placeholder.fill element.content data = value := by
  have isText : (textProperties [("name", {}), ("first name", {})])[1]? =
      some ("first name", ({} : SchemaProperty)) := by decide
  obtain ⟨element, found, _, shows⟩ := layout_text_shows_iff isText "Demo"
  exact ⟨isText, element, found, fun all => absurd (shows.1 all) (by decide)⟩

end Layout
end BroadcastGraphics
