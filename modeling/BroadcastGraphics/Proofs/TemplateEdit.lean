import BroadcastGraphics.Template.Call

/-!
# What edits of a template do

An edit either leaves the content of a template alone and is not announced, or it is carried out: the
component source is dropped, and the content is revised in one of a few ways.  A revision says what
was read and under which guards, so that properties of templates follow from it without opening the
edits again.
-/

namespace BroadcastGraphics
namespace Template

/-- Two templates have one content: manifest, elements and animation settings. -/
structure SameContent (left right : Template) : Prop where
  manifest : left.manifest = right.manifest
  elements : left.elements = right.elements
  animation : left.animation = right.animation

theorem SameContent.refl (template : Template) : SameContent template template :=
  ⟨rfl, rfl, rfl⟩

theorem SameContent.trans
    {first second third : Template}
    (before : SameContent first second)
    (after : SameContent second third) : SameContent first third :=
  ⟨before.manifest.trans after.manifest, before.elements.trans after.elements,
    before.animation.trans after.animation⟩

/-- What a call makes of a template when it is carried out. -/
inductive Revision (before : Template) : Call -> Template -> Prop where
  | add {spec : Table Json} {kind : ElementKind} {element : Element}
      (read : Element.ofMembers (("id", .str (numberedId before.freeNumber)) ::
        Table.merge kind.startingMembers (Table.remove spec "id")) = .accepted element) :
      Revision before (.addElement (.obj spec))
        { before with
          elements := before.elements ++ [element]
          component := none
          nextNumber := before.freeNumber + 1 }
  | addValid {spec : Json} {element : Element} {after : Template}
      (valid : Element.check spec = .accepted element)
      (added : Revision before (.addElement (.obj element.members)) after) :
      Revision before (.addValidElement spec) after
  | remove {id : String}
      (present : (before.elements.filter fun element => element.id != id).length ≠
        before.elements.length) :
      Revision before (.removeElement id)
        { before with
          elements := before.elements.filter fun element => element.id != id
          component := none }
  | update {id : String} {updates : Json} {given : Table Json} {current element : Element}
      (present : before.element? id = some current)
      (members : updates.toMembers = .ok given)
      (free : before.isTaken id (Json.memberOrNull (Table.merge current.members given) "id")
        = false)
      (read : Element.ofMembers (Table.merge current.members given) = .accepted element)
      (differs : element.sameValue current = false) :
      Revision before (.updateElement id updates)
        { before with
          elements := replaceElement id element before.elements
          component := none }
  | restyle {id : String} {style : Table Json} {current : Element} {after : Template}
      (present : before.element? id = some current)
      (updated : Revision before (.updateElement id (.obj [("style",
        .obj (mergedStyle (Table.mapEntries Json.str current.style) style))])) after) :
      Revision before (.updateStyle id (.obj style)) after
  | putProperty {name : String} {kind title default : Json} {property : SchemaProperty}
      (read : SchemaProperty.ofMembers [("type", kind),
        ("title", if title.isTruthy then title else .str name), ("default", default)]
          = .accepted property) :
      Revision before (.addProperty name kind title default)
        { before.withProperties (Table.put before.properties name property) with
          component := none }
  | removeProperty {name : String}
      (present : Table.has before.properties name = true) :
      Revision before (.removeProperty name)
        { before.withProperties (Table.remove before.properties name) with component := none }
  | describe {updates : Table Json} {manifest : Manifest}
      (read : before.manifest.edited updates = .accepted manifest)
      (differs : manifest.sameValue before.manifest = false ∨
        manifest.takesFailed updates = true) :
      Revision before (.updateManifest (.obj updates))
        { before with manifest := manifest, component := none }
  | animate {updates : Table Json} {settings : AnimationSettings}
      (read : before.effectiveAnimation.edited updates = .accepted settings)
      (differs : before.animation ≠ some settings) :
      Revision before (.updateAnimation (.obj updates))
        { before with animation := some settings, component := none }

/-- A carried out call drops the component source. -/
theorem Revision.component_eq
    {before after : Template}
    {request : Call}
    (revision : Revision before request after) : after.component = none := by
  induction revision with
  | addValid _ _ ih => exact ih
  | restyle _ _ ih => exact ih
  | _ => rfl

end Template

open Template

/-- An edit is refused or changes nothing, or it is carried out as a call and announced. -/
def Edit.Performs
    {α : Type}
    (edit : Edit α)
    (before : Template)
    (request : Call) : Prop :=
  (edit.announced = false ∧ SameContent before edit.template ∧
    edit.template.component = before.component) ∨
  (edit.announced = true ∧ (∃ answer, edit.outcome = .ok answer) ∧
    Revision before request edit.template)

/-- An edit leaves the content of a template alone and is not announced, or it is carried out as a
call. -/
def Edit.Carries
    {α : Type}
    (edit : Edit α)
    (before : Template)
    (request : Call) : Prop :=
  (edit.announced = false ∧ SameContent before edit.template) ∨
  (edit.announced = true ∧ (∃ answer, edit.outcome = .ok answer) ∧
    Revision before request edit.template)

namespace Edit

variable {α β : Type} {before : Template} {request : Call}

theorem Performs.carries
    {edit : Edit α}
    (performs : edit.Performs before request) : edit.Carries before request :=
  performs.imp_left fun ⟨quiet, same, _⟩ => ⟨quiet, same⟩

theorem performs_refused
    {template : Template}
    (same : SameContent before template)
    (kept : template.component = before.component)
    (fault : Fault) : (refused template fault : Edit α).Performs before request :=
  Or.inl ⟨rfl, same, kept⟩

theorem performs_quiet (answer : α) : (quiet before answer).Performs before request :=
  Or.inl ⟨rfl, SameContent.refl before, rfl⟩

theorem performs_changed
    {template : Template}
    (revision : Revision before request { template with component := none })
    (answer : α) : (changed template answer).Performs before request :=
  Or.inr ⟨rfl, ⟨answer, rfl⟩, revision⟩

/-- What an edit performs does not depend on the form of its answer. -/
theorem Performs.map
    {edit : Edit α}
    (performs : edit.Performs before request)
    (change : α -> β) : (edit.map change).Performs before request := by
  rcases performs with quiet | ⟨announced, ⟨answer, answered⟩, revision⟩
  · exact Or.inl quiet
  · refine Or.inr ⟨announced, ⟨change answer, ?_⟩, revision⟩
    change edit.outcome.map change = _
    rw [answered]
    rfl

/-- What is performed as one call is performed as another one that is carried out in the same way. -/
theorem Performs.mono
    {edit : Edit α}
    {other : Call}
    (performs : edit.Performs before request)
    (carried : ∀ after, Revision before request after -> Revision before other after) :
    edit.Performs before other :=
  performs.imp_right fun ⟨announced, answered, revision⟩ =>
    ⟨announced, answered, carried _ revision⟩

end Edit

namespace Template

variable (template : Template)

/-! ## Elements -/

theorem addElement_performs
    (spec : Table Json) :
    (template.addElement spec).Performs template (.addElement (.obj spec)) := by
  unfold addElement
  dsimp only
  split
  · exact Edit.performs_refused (SameContent.refl _) rfl _
  split
  · exact Edit.performs_refused (SameContent.refl _) rfl _
  · unfold append
    dsimp only
    split
    · exact Or.inl ⟨rfl, ⟨rfl, rfl, rfl⟩, rfl⟩
    · rename_i read
      exact Edit.performs_changed (.add ((Checked.orInvalid_eq_ok _ _ _).1 read)) _

theorem addSpec_performs
    (spec : Json) : (template.addSpec spec).Performs template (.addElement spec) := by
  cases spec with
  | obj spec => exact template.addElement_performs spec
  | _ => exact Edit.performs_refused (SameContent.refl _) rfl _

theorem addValidSpec_performs
    (spec : Json) : (template.addValidSpec spec).Performs template (.addValidElement spec) := by
  unfold addValidSpec
  split
  · exact Edit.performs_refused (SameContent.refl _) rfl _
  · rename_i valid
    exact (template.addElement_performs _).mono
      fun after => .addValid ((Checked.orInvalid_eq_ok _ _ _).1 valid)

theorem removeElement_performs
    (id : String) : (template.removeElement id).Performs template (.removeElement id) := by
  unfold removeElement
  dsimp only
  split
  · exact Edit.performs_quiet _
  · rename_i fewer
    exact Edit.performs_changed (.remove fun same => fewer (beq_iff_eq.2 same)) _

theorem updateElement_performs
    (id : String)
    (updates : Json) :
    (template.updateElement id updates).Performs template (.updateElement id updates) := by
  unfold updateElement
  split
  · exact Edit.performs_quiet _
  rename_i current present
  split
  · exact Edit.performs_refused (SameContent.refl _) rfl _
  rename_i given members
  dsimp only
  split
  · exact Edit.performs_refused (SameContent.refl _) rfl _
  rename_i free
  split
  · exact Edit.performs_refused (SameContent.refl _) rfl _
  rename_i element read
  split
  · exact Edit.performs_quiet _
  · rename_i differs
    exact Edit.performs_changed (.update present members (Bool.eq_false_iff.2 free)
      ((Checked.orInvalid_eq_ok _ _ _).1 read) (Bool.eq_false_iff.2 differs)) _

theorem updateStyle_performs
    (id : String)
    (style : Json) :
    (template.updateStyle id style).Performs template (.updateStyle id style) := by
  unfold updateStyle
  split
  · exact Edit.performs_quiet _
  rename_i current present
  split
  · exact (template.updateElement_performs _ _).mono fun after => .restyle present
  · exact Edit.performs_refused (SameContent.refl _) rfl _

/-! ## Properties, manifest and settings -/

theorem propertyKind_eq_ok
    {value : Json}
    {kind : String}
    (isKind : propertyKind value = .ok kind) : value = .str kind := by
  unfold propertyKind at isKind
  split at isKind
  · split at isKind
    · cases isKind
      rfl
    · cases isKind
  · cases isKind

theorem addProperty_performs
    (name : String)
    (kind title default : Json) :
    (template.addProperty name kind title default).Performs template
      (.addProperty name kind title default) := by
  unfold addProperty
  split
  · exact Edit.performs_refused (SameContent.refl _) rfl _
  rename_i known isKind
  rw [propertyKind_eq_ok isKind]
  dsimp only
  split
  · exact Edit.performs_refused (SameContent.refl _) rfl _
  · rename_i read
    exact Edit.performs_changed (.putProperty ((Checked.orInvalid_eq_ok _ _ _).1 read)) _

theorem removeProperty_performs
    (name : String) :
    (template.removeProperty name).Performs template (.removeProperty name) := by
  unfold removeProperty
  split
  · rename_i present
    exact Edit.performs_changed (.removeProperty present) _
  · exact Edit.performs_quiet _

theorem updateManifest_performs
    (updates : Json)
    (fromText : Bool) :
    (template.updateManifest updates fromText).Performs template (.updateManifest updates) := by
  unfold updateManifest
  split
  · rename_i updates
    split
    · exact Edit.performs_refused (SameContent.refl _) rfl _
    rename_i manifest read
    dsimp only
    split
    · exact Edit.performs_quiet _
    · rename_i differs
      have accepted := (Checked.orInvalid_eq_ok _ _ _).1 read
      have differs : manifest.sameValue template.manifest = false ∨
          manifest.takesFailed updates = true := by
        cases same : manifest.sameValue template.manifest with
        | false => exact Or.inl rfl
        | true =>
          have given : fromText = false ∧ manifest.takesFailed updates = true := by
            simpa [same] using differs
          exact Or.inr given.2
      have revision := Revision.describe accepted differs
      exact Edit.performs_changed revision _
  · exact Edit.performs_refused (SameContent.refl _) rfl _

theorem updateAnimation_performs
    (updates : Json) :
    (template.updateAnimation updates).Performs template (.updateAnimation updates) := by
  unfold updateAnimation
  split
  · split
    · exact Edit.performs_refused (SameContent.refl _) rfl _
    rename_i settings read
    split
    · exact Edit.performs_quiet _
    · rename_i differs
      exact Edit.performs_changed (.animate ((Checked.orInvalid_eq_ok _ _ _).1 read) differs) _
  · exact Edit.performs_refused (SameContent.refl _) rfl _

/-! ## Calls -/

/-- Component source is put into a template, or read from it. -/
def Call.isOfComponent : Call -> Bool
  | .setComponent _ => true
  | .readComponent => true
  | _ => false

/-- Every call other than those of the component source is performed as an edit. -/
theorem run_performs
    (request : Call)
    (notOfComponent : request.isOfComponent = false) :
    (template.run request).Performs template request := by
  cases request with
  | addElement spec => exact (template.addSpec_performs spec).map _
  | addValidElement spec => exact (template.addValidSpec_performs spec).map _
  | removeElement id => exact (template.removeElement_performs id).map _
  | updateElement id updates => exact (template.updateElement_performs id updates).map _
  | updateStyle id style => exact (template.updateStyle_performs id style).map _
  | addProperty name kind title default =>
    exact (template.addProperty_performs name kind title default).map _
  | removeProperty name => exact (template.removeProperty_performs name).map _
  | updateManifest updates => exact (template.updateManifest_performs updates false).map _
  | updateAnimation updates => exact (template.updateAnimation_performs updates).map _
  | setComponent source => cases notOfComponent
  | readComponent => cases notOfComponent
  | getElement id => exact Edit.performs_quiet _
  | effectiveAnimation => exact Edit.performs_quiet _
  | description => exact Edit.performs_quiet _
  | whole =>
    rw [run]
    split
    · exact Edit.performs_quiet _
    · exact Edit.performs_refused (SameContent.refl _) rfl _
  | audit =>
    rw [run]
    split
    · exact Edit.performs_quiet _
    · exact Edit.performs_refused (SameContent.refl _) rfl _
  | reload =>
    rw [run]
    split
    · exact Edit.performs_quiet _
    · exact Edit.performs_refused (SameContent.refl _) rfl _

/-- The calls of the component source leave the content alone. -/
theorem sameContent_of_isOfComponent
    {request : Call}
    (ofComponent : request.isOfComponent = true) :
    SameContent template (template.run request).template := by
  cases request with
  | setComponent source => exact ⟨rfl, rfl, rfl⟩
  | readComponent =>
    change SameContent template template.readComponent.template
    unfold readComponent
    split <;> exact ⟨rfl, rfl, rfl⟩
  | _ => cases ofComponent

theorem sameContent_readComponent : SameContent template template.readComponent.template :=
  template.sameContent_of_isOfComponent (show Call.readComponent.isOfComponent = true from rfl)

theorem readComponent_announced : template.readComponent.announced = false := by
  unfold readComponent
  split <;> rfl

theorem readComponent_carries
    (request : Call) : template.readComponent.Carries template request :=
  Or.inl ⟨template.readComponent_announced, template.sameContent_readComponent⟩

/-- Every call leaves the content alone or is carried out. -/
theorem run_carries
    (request : Call) : (template.run request).Carries template request := by
  cases ofComponent : request.isOfComponent with
  | true =>
    refine Or.inl ⟨?_, template.sameContent_of_isOfComponent ofComponent⟩
    cases request with
    | setComponent source => rfl
    | readComponent => exact template.readComponent_announced
    | _ => cases ofComponent
  | false => exact (template.run_performs request ofComponent).carries

end Template
end BroadcastGraphics
