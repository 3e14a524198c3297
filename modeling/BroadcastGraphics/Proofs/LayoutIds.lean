import BroadcastGraphics.Layout
import BroadcastGraphics.Proofs.FreshNames
import BroadcastGraphics.Proofs.Identifiers

/-!
# Ids in layouts made from a schema

Whatever the properties of a schema are called, the elements of its layout have ids of the form of
element ids, and no two of them have the same.
-/

namespace BroadcastGraphics
namespace Layout

open Identifier

/-- The id made from a name spells an element id. -/
theorem spells_idBase (name : String) : SpellsElementId (idBase name).toList := by
  have allowed : ∀ character ∈ name.toList.map fun character =>
      if isElementIdCharacter character then character else '_',
      isElementIdCharacter character = true := by
    intro character member
    obtain ⟨given, _, rfl⟩ := List.mem_map.1 member
    split
    · assumption
    · rfl
  unfold idBase
  dsimp only
  split
  · rename_i first rest characters
    rw [characters] at allowed ⊢
    split
    · rename_i starts
      rw [String.toList_ofList]
      rw [Bool.or_eq_true, beq_iff_eq] at starts
      exact ⟨⟨first, rfl, starts⟩, allowed⟩
    · rw [String.toList_ofList]
      refine ⟨⟨'_', rfl, Or.inr rfl⟩, fun character member => ?_⟩
      rcases List.mem_cons.1 member with rfl | later
      · rfl
      · exact allowed character later
  · exact ⟨⟨'_', rfl, Or.inr rfl⟩, fun character member => List.mem_singleton.1 member ▸ rfl⟩

/-- The number behind a base leaves it an element id. -/
theorem spells_numbered
    {base : String}
    (spells : SpellsElementId base.toList)
    (number : Nat) : SpellsElementId (numbered base number).toList := by
  have shape : (numbered base number).toList = base.toList ++ ('_' :: decimalDigits number) := by
    unfold numbered
    rw [String.toList_append, String.toList_append, List.append_assoc]
    exact congrArg (base.toList ++ '_' :: ·) String.toList_ofList
  rw [shape]
  refine spells.append fun character member => ?_
  rcases List.mem_cons.1 member with rfl | digit
  · rfl
  · exact isElementIdCharacter_decimalDigits number character digit

theorem isElementId_of_spells
    {id : String}
    (spells : SpellsElementId id.toList) : isElementId id = true := by
  rw [← String.ofList_toList (s := id)]
  exact spells.isElementId

/-- The id for a property is an element id that is not taken. -/
theorem idFor_spec
    (name : String)
    (taken : List String) : isElementId (idFor name taken) = true ∧ idFor name taken ∉ taken := by
  have base := spells_idBase name
  unfold idFor
  dsimp only
  split
  · refine ⟨isElementId_of_spells (spells_numbered base _), ?_⟩
    exact FreshName.name_firstFree_notMem (stem_append_injective (idBase name ++ "_")) 2
  · rename_i free
    exact ⟨isElementId_of_spells base, free⟩

/-- Elements with distinct ids of the form of element ids, none of which is taken. -/
structure Named (taken : List String) (elements : List Element) : Prop where
  ids : ∀ element ∈ elements, isElementId element.id = true
  distinct : (elements.map Element.id).Nodup
  fresh : ∀ element ∈ elements, element.id ∉ taken

theorem named_nil (taken : List String) : Named taken [] :=
  ⟨fun _ none => (nomatch none), List.nodup_nil, fun _ none => (nomatch none)⟩

/-- One more element in front, if the ids of the others are made when its id is taken. -/
theorem Named.cons
    {taken : List String}
    {element : Element}
    {elements : List Element}
    (named : Named (taken ++ [element.id]) elements)
    (isId : isElementId element.id = true)
    (free : element.id ∉ taken) : Named taken (element :: elements) := by
  have others : ∀ other ∈ elements, other.id ≠ element.id ∧ other.id ∉ taken := by
    intro other member
    have fresh := named.fresh other member
    rw [List.mem_append, List.mem_singleton, not_or] at fresh
    exact ⟨fresh.2, fresh.1⟩
  refine ⟨List.forall_mem_cons.2 ⟨isId, named.ids⟩, List.nodup_cons.2 ⟨?_, named.distinct⟩,
    List.forall_mem_cons.2 ⟨free, fun other member => (others other member).2⟩⟩
  intro member
  obtain ⟨other, isThere, same⟩ := List.mem_map.1 member
  exact (others other isThere).1 same

theorem named_textElements
    (properties : Table SchemaProperty)
    (taken : List String)
    (index : Nat) : Named taken (textElements taken index properties) := by
  induction properties generalizing taken index with
  | nil => exact named_nil taken
  | cons entry rest ih =>
    obtain ⟨isId, free⟩ := idFor_spec entry.1 taken
    unfold textElements
    split
    · exact (ih (taken ++ [idFor entry.1 taken]) (index + 1)).cons isId free
    · exact ih taken (index + 1)

/-- The background of a layout has an id that no text has. -/
theorem background_spec
    (taken : List String)
    (first last : Nat) :
    isElementId (background taken first last).id = true ∧
      (background taken first last).id ∉ taken := by
  change isElementId (if "background" ∈ taken then _ else _) = true ∧ _ ∉ taken
  unfold background
  dsimp only [Preset.placed]
  split
  · exact idFor_spec "background_rect" taken
  · rename_i free
    exact ⟨by decide, free⟩

/-- The ids in a layout are distinct element ids. -/
theorem named_ofSchema
    (properties : Table SchemaProperty)
    (name : String) : Named [] (ofSchema properties name) := by
  unfold ofSchema
  split
  · split
    · exact (named_nil _).cons (by decide) List.not_mem_nil
    · exact named_nil []
  · have texts := named_textElements properties [] 0
    dsimp only
    split
    · exact texts
    · rename_i first rest _
      obtain ⟨isId, free⟩ := background_spec ((textElements [] 0 properties).map Element.id) first
        ((first :: rest).getLast (by simp))
      exact ⟨List.forall_mem_cons.2 ⟨isId, texts.ids⟩, List.nodup_cons.2 ⟨free, texts.distinct⟩,
        fun _ _ => List.not_mem_nil⟩

end Layout
end BroadcastGraphics
