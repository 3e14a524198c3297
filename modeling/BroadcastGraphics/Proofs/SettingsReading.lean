import BroadcastGraphics.Validation.Checked
import BroadcastGraphics.Yaml.Reader
import Mathlib.Data.List.Nodup

/-!
# What is read from settings files

Whatever settings file a value is read from, no mapping in it has two members of one name: an entry is
written over the one of its name that came before, also when it comes from another mapping whose
entries were taken over.
-/

namespace BroadcastGraphics

namespace Json

theorem wellFormedMembers_iff
    (members : Table Json) :
    WellFormedMembers members ↔ ∀ member ∈ members, member.2.WellFormed := by
  induction members with
  | nil => simp [WellFormedMembers]
  | cons member rest ih => simp [WellFormedMembers, ih]

theorem wellFormed_of_get?
    {members : Table Json}
    (wellFormed : WellFormedMembers members)
    {name : String}
    {value : Json}
    (present : Table.get? members name = some value) : value.WellFormed :=
  (wellFormedMembers_iff members).1 wellFormed _ (Table.mem_of_get? present)

theorem wellFormed_put
    {members : Table Json}
    {value : Json}
    (wellFormed : (obj members).WellFormed)
    (name : String)
    (valueFormed : value.WellFormed) : (obj (Table.put members name value)).WellFormed := by
  refine ⟨wellFormed.1.put name value, (wellFormedMembers_iff _).2 fun member isThere => ?_⟩
  rcases Table.mem_put isThere with new | old
  · exact new ▸ valueFormed
  · exact (wellFormedMembers_iff members).1 wellFormed.2 member old

/-- Writing under any scalar keeps an object well formed. -/
theorem Name.wellFormed_put
    {members : Table Json}
    {value : Json}
    (wellFormed : (obj members).WellFormed)
    (scalar : Json)
    (valueFormed : value.WellFormed) : (obj (Name.put members scalar value)).WellFormed := by
  unfold Name.put
  split
  · exact Json.wellFormed_put wellFormed _ valueFormed
  · split <;> exact Json.wellFormed_put wellFormed _ valueFormed

end Json

namespace Yaml

theorem wellFormed_of_momentOf
    {word : String}
    {value : Json}
    (read : momentOf word = .ok value) : value.WellFormed := by
  unfold momentOf at read
  split at read
  · cases read
  · split at read
    · cases read
    · cases read
      exact ⟨⟨List.nodup_singleton _, trivial, trivial⟩, trivial⟩

namespace Node

theorem wellFormed_of_scalarValue
    {text : String}
    {kind : ScalarKind}
    {value : Json}
    (read : scalarValue text kind = .ok value) : value.WellFormed := by
  cases kind with
  | empty => cases read; trivial
  | text => cases read; trivial
  | moment => exact wellFormed_of_momentOf read
  | truth =>
    rw [scalarValue] at read
    split at read
    · cases read; trivial
    · cases read
  | integer =>
    rw [scalarValue] at read
    cases number : integerOf text with
    | error fault => rw [number] at read; cases read
    | ok number' => rw [number] at read; cases read; trivial
  | fraction =>
    rw [scalarValue] at read
    cases number : fractionOf text with
    | error fault => rw [number] at read; cases read
    | ok number' => rw [number] at read; cases read; trivial
  | _ => cases read

/-- Entries with well-formed content make a well-formed object, whatever their names are. -/
theorem wellFormed_written
    {entries : List (Json × Json)}
    (contents : ∀ entry ∈ entries, entry.2.WellFormed)
    {members : Table Json}
    (wellFormed : (Json.obj members).WellFormed) :
    (Json.obj (written members entries)).WellFormed := by
  induction entries generalizing members with
  | nil => exact wellFormed
  | cons entry rest ih =>
    exact ih (fun other later => contents other (List.mem_cons_of_mem _ later))
      (Json.Name.wellFormed_put wellFormed entry.1 (contents entry List.mem_cons_self))

mutual

/-- The value of a node is well formed. -/
theorem wellFormed_of_value :
    ∀ (node : Node) (json : Json), node.value = .ok json -> json.WellFormed
  | .scalar tag isPlain text, json, read => by
      rw [value] at read
      split at read
      · exact wellFormed_of_scalarValue read
      · cases read
  | .sequence tag items, json, read => by
      rw [value] at read
      obtain ⟨found, readItems, read⟩ := ok_of_bind read
      split at read
      · cases read
        exact wellFormed_of_values items found readItems
      · cases read
  | .mapping tag members, json, read => by
      rw [value] at read
      obtain ⟨⟨merged, own⟩, readEntries, read⟩ := ok_of_bind read
      dsimp only at read
      split at read
      · cases read
        obtain ⟨mergedFormed, ownFormed⟩ := wellFormed_of_entries members merged own readEntries
        refine wellFormed_written (fun entry isThere => ?_) ⟨Table.distinct_nil, trivial⟩
        rcases List.mem_append.1 isThere with taken | written
        · exact mergedFormed entry taken
        · exact ownFormed entry written
      · cases read

theorem wellFormed_of_values :
    ∀ (items : List Node) (found : List Json), values items = .ok found ->
      Json.WellFormedItems found
  | [], found, read => by
      cases read
      trivial
  | item :: rest, found, read => by
      rw [values] at read
      obtain ⟨first, readFirst, read⟩ := ok_of_bind read
      obtain ⟨others, readRest, read⟩ := ok_of_bind read
      cases read
      exact ⟨wellFormed_of_value item first readFirst, wellFormed_of_values rest others readRest⟩

theorem wellFormed_of_entries :
    ∀ (members : List (Node × Node)) (merged own : List (Json × Json)),
      entries members = .ok (merged, own) ->
      (∀ entry ∈ merged, entry.2.WellFormed) ∧ ∀ entry ∈ own, entry.2.WellFormed
  | [], merged, own, read => by
      cases read
      exact ⟨List.forall_mem_nil _, List.forall_mem_nil _⟩
  | (name, content) :: rest, merged, own, read => by
      rw [entries] at read
      split at read
      · obtain ⟨taken, readTaken, read⟩ := ok_of_bind read
        obtain ⟨⟨later, laterOwn⟩, readRest, read⟩ := ok_of_bind read
        obtain ⟨rfl, rfl⟩ := Prod.mk.inj (Except.ok.inj read)
        obtain ⟨laterFormed, ownFormed⟩ := wellFormed_of_entries rest later laterOwn readRest
        refine ⟨fun entry isThere => ?_, ownFormed⟩
        rcases List.mem_append.1 isThere with here | after
        · exact wellFormed_of_takenOver content taken readTaken entry here
        · exact laterFormed entry after
      · obtain ⟨key, readKey, read⟩ := ok_of_bind read
        obtain ⟨inner, readInner, read⟩ := ok_of_bind read
        obtain ⟨⟨later, laterOwn⟩, readRest, read⟩ := ok_of_bind read
        obtain ⟨rfl, rfl⟩ := Prod.mk.inj (Except.ok.inj read)
        obtain ⟨laterFormed, ownFormed⟩ := wellFormed_of_entries rest later laterOwn readRest
        refine ⟨laterFormed, fun entry isThere => ?_⟩
        rcases List.mem_cons.1 isThere with rfl | after
        · exact wellFormed_of_value content inner readInner
        · exact ownFormed entry after

theorem wellFormed_of_takenOver :
    ∀ (node : Node) (taken : List (Json × Json)), takenOver node = .ok taken ->
      ∀ entry ∈ taken, entry.2.WellFormed
  | .mapping tag members, taken, read, entry, isThere => by
      rw [takenOver] at read
      obtain ⟨⟨merged, own⟩, readEntries, read⟩ := ok_of_bind read
      cases read
      obtain ⟨mergedFormed, ownFormed⟩ := wellFormed_of_entries members merged own readEntries
      rcases List.mem_append.1 isThere with here | after
      · exact mergedFormed entry here
      · exact ownFormed entry after
  | .sequence tag items, taken, read, entry, isThere => by
      rw [takenOver] at read
      exact wellFormed_of_takenOverAll items taken read entry isThere
  | .scalar _ _ _, taken, read, entry, isThere => by cases read

theorem wellFormed_of_takenOverAll :
    ∀ (nodes : List Node) (taken : List (Json × Json)), takenOverAll nodes = .ok taken ->
      ∀ entry ∈ taken, entry.2.WellFormed
  | [], taken, read, entry, isThere => by
      cases read
      cases isThere
  | .mapping tag members :: rest, taken, read, entry, isThere => by
      rw [takenOverAll] at read
      obtain ⟨⟨merged, own⟩, readEntries, read⟩ := ok_of_bind read
      obtain ⟨others, readRest, read⟩ := ok_of_bind read
      cases read
      obtain ⟨mergedFormed, ownFormed⟩ := wellFormed_of_entries members merged own readEntries
      rcases List.mem_append.1 isThere with front | after
      · rcases List.mem_append.1 front with later | here
        · exact wellFormed_of_takenOverAll rest others readRest entry later
        · exact mergedFormed entry here
      · exact ownFormed entry after
  | .sequence _ _ :: _, taken, read, entry, isThere => by cases read
  | .scalar _ _ _ :: _, taken, read, entry, isThere => by cases read

end

end Node

/-- The value of a settings file is well formed. -/
theorem wellFormed_of_parse
    {text : String}
    {value : Json}
    (read : parse text = .ok value) : value.WellFormed := by
  unfold parse at read
  dsimp only at read
  split at read
  · cases read
  · obtain ⟨node?, readNode, read⟩ := ok_of_bind read
    split at read
    · exact Node.wellFormed_of_value _ value read
    · cases read
      trivial

end Yaml
end BroadcastGraphics
