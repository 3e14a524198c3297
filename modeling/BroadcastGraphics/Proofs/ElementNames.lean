import BroadcastGraphics.Proofs.TemplateValidity

/-!
# Elements after an edit

An edited element is found under the id that the edit asks for, or under its old one if the edit asks
for none.  An edit of the style leaves all ids alone.
-/

namespace BroadcastGraphics

/-- Elements of one value have one id. -/
theorem Element.id_eq_of_sameValue
    {left right : Element}
    (same : left.sameValue right = true) : left.id = right.id := by
  simp [sameValue, members, Json.sameValue, Json.sameMembers, Json.sameScalar, Table.get?] at same
  exact same.1

namespace Template

variable {template : Template}

/-- A template has an element under every id among those of its elements. -/
theorem isSome_element?_iff
    (id : String) :
    (template.element? id).isSome = true ↔ id ∈ template.elements.map Element.id := by
  rw [Option.isSome_iff_ne_none, Ne, element?_eq_none_iff, not_not]

theorem id_of_element?
    {id : String}
    {element : Element}
    (present : template.element? id = some element) : element.id = id := by
  have here := List.find?_some present
  exact beq_iff_eq.1 here

theorem mem_replaceElement_self
    {id : String}
    {elements : List Element}
    (present : id ∈ elements.map Element.id)
    (replacement : Element) : replacement ∈ replaceElement id replacement elements := by
  induction elements with
  | nil => cases present
  | cons first rest ih =>
    unfold replaceElement
    split
    · exact List.mem_cons_self
    · rename_i elsewhere
      refine List.mem_cons_of_mem _ (ih ?_)
      rcases List.mem_cons.1 present with here | later
      · exact absurd (beq_iff_eq.2 here.symm) elsewhere
      · exact later

theorem map_id_replaceElement
    {id : String}
    {replacement : Element}
    (sameId : replacement.id = id)
    (elements : List Element) :
    (replaceElement id replacement elements).map Element.id = elements.map Element.id := by
  induction elements with
  | nil => rfl
  | cons first rest ih =>
    unfold replaceElement
    split
    · rename_i here
      rw [List.map_cons, List.map_cons, sameId, beq_iff_eq.1 here]
    · rw [List.map_cons, List.map_cons, ih]

/-- What an edit that finds its element does: the element that it reads is the one that was there, or
comes in its place. -/
theorem updateElement_of_found
    {id : String}
    {updates : Json} :
    (template.updateElement id updates).outcome = .ok true ->
      ∃ members current element, updates.toMembers = .ok members ∧
        template.element? id = some current ∧
        Element.ofMembers (Table.merge current.members members) = .accepted element ∧
        ((element.sameValue current = true ∧
            (template.updateElement id updates).template = template) ∨
          (template.updateElement id updates).template.elements =
            replaceElement id element template.elements) := by
  unfold updateElement
  split
  · intro answered
    cases answered
  rename_i current present
  split
  · intro answered
    cases answered
  rename_i members isMembers
  dsimp only
  split
  · intro answered
    cases answered
  split
  · intro answered
    cases answered
  rename_i element accepted
  intro _
  refine ⟨members, current, element, isMembers, present, (Checked.orInvalid_eq_ok _ _ _).1 accepted, ?_⟩
  split
  · rename_i same
    exact Or.inl ⟨same, rfl⟩
  · exact Or.inr rfl

/-- The id of an element that is read from members written over those of another one. -/
theorem id_of_ofMembers_merge
    {updates : Table Json}
    {current element : Element}
    (distinct : Table.Distinct updates)
    (read : Element.ofMembers (Table.merge current.members updates) = .accepted element) :
    element.id = (Json.memberOrNull updates "id").str?.getD current.id := by
  have given := Element.id_of_ofMembers read
  rw [Table.get?_merge distinct] at given
  unfold Json.memberOrNull
  cases asked : Table.get? updates "id" with
  | none =>
    rw [asked] at given
    have kept : some (Json.str current.id) = some (.str element.id) := given
    exact (Json.str.inj (Option.some.inj kept)).symm
  | some value =>
    rw [asked] at given
    cases given
    rfl

/-- An edited element is there under the id that the edit gives it. -/
theorem isSome_element?_updateElement
    {id : String}
    {updates : Table Json}
    (distinct : Table.Distinct updates)
    (found : (template.updateElement id (.obj updates)).outcome = .ok true) :
    ((template.updateElement id (.obj updates)).template.element?
      ((Json.memberOrNull updates "id").str?.getD id)).isSome = true := by
  obtain ⟨members, current, element, isMembers, present, read, result⟩ :=
    updateElement_of_found found
  cases isMembers
  have newId : element.id = (Json.memberOrNull updates "id").str?.getD id :=
    id_of_element? present ▸ id_of_ofMembers_merge distinct read
  rw [← newId, isSome_element?_iff]
  rcases result with ⟨same, unchanged⟩ | replaced
  · rw [unchanged, Element.id_eq_of_sameValue same]
    exact List.mem_map_of_mem (List.mem_of_find?_eq_some present)
  · rw [replaced]
    refine List.mem_map_of_mem (mem_replaceElement_self ?_ element)
    exact (isSome_element?_iff id).1 (Option.isSome_of_mem present)

theorem Revision.map_id_of_style
    {before after : Template}
    {id : String}
    {style : Json}
    (revision : Revision before (.updateStyle id style) after) :
    after.elements.map Element.id = before.elements.map Element.id := by
  cases revision with
  | restyle _ updated =>
    cases updated with
    | update present members _ read _ =>
      refine map_id_replaceElement ?_ before.elements
      cases members
      have single (style : Json) : Table.Distinct [("style", style)] := List.nodup_singleton _
      exact (id_of_ofMembers_merge (single _) read).trans (id_of_element? present)

/-- An edit of a style leaves the ids of all elements alone. -/
theorem map_id_updateStyle
    (template : Template)
    (id : String)
    (style : Json) :
    (template.updateStyle id style).template.elements.map Element.id =
      template.elements.map Element.id := by
  rcases template.updateStyle_performs id style with ⟨_, same, _⟩ | ⟨_, _, revision⟩
  · rw [same.elements]
  · exact revision.map_id_of_style

end Template
end BroadcastGraphics
