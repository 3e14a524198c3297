import BroadcastGraphics.Configuration.Operator
import BroadcastGraphics.Proofs.FlatDirectory
import BroadcastGraphics.Proofs.SettingsReading

/-!
# Settings laid over others

Settings are a tree of mappings, and a key leads down such a tree by the names between its points.
When settings are laid over others, what is found under a key follows from how far the key leads in
the upper ones: a value there wins, a value in the way hides what lies below, a name that is missing
leaves the lower ones in force, and two mappings are merged in their turn.
-/

namespace BroadcastGraphics

namespace Text

/-- Parts that are put together with separators between them are found again. -/
theorem split_intercalate
    {separator : Char}
    {parts : List String}
    (nonempty : parts ≠ [])
    (free : ∀ part ∈ parts, separator ∉ part.toList) :
    split separator (String.intercalate (String.singleton separator) parts) = parts := by
  unfold split
  induction parts with
  | nil => exact absurd rfl nonempty
  | cons part rest ih =>
    have partFree : separator ∉ part.toList := free part List.mem_cons_self
    cases rest with
    | nil =>
      rw [String.intercalate_singleton, splitAt_of_notMem partFree, List.map_singleton,
        String.ofList_toList]
    | cons next others =>
      have later := ih (List.cons_ne_nil next others) fun other member =>
        free other (List.mem_cons_of_mem _ member)
      rw [String.intercalate_cons_cons, String.toList_append, String.toList_append,
        String.toList_singleton, List.append_assoc, List.singleton_append,
        splitAt_append separator _ _ partFree, List.map_cons, later, String.ofList_toList]

end Text

namespace OperatorConfig

variable {below above members : Table Json} {value : Json}

/-! ## One level -/

theorem overlaid_none
    (value : Json) : overlaid none value = value := by
  cases value <;> rfl

/-- A value that is no mapping takes the place of whatever is there. -/
theorem overlaid_of_no_members
    (noMembers : value.obj? = none)
    (base : Option Json) : overlaid base value = value := by
  cases value with
  | obj members => cases noMembers
  | _ => rfl

/-- Over a value that is no mapping every value is itself. -/
theorem overlaid_over_no_members
    {lower : Json}
    (noMembers : lower.obj? = none)
    (value : Json) : overlaid (some lower) value = value := by
  cases lower with
  | obj members => cases noMembers
  | _ => cases value <;> rfl

/-- A mapping that comes on top stays one, merged with the one below if there is one. -/
theorem overlaid_obj
    (base : Option Json)
    (members : Table Json) :
    overlaid base (.obj members) =
      .obj (match base with
        | some (.obj below) => layered below members
        | _ => members) := by
  rcases base with _ | (_ | _ | _ | _ | _ | _ | _) <;> rfl

/-- What the upper settings name is laid over what the lower ones have there; the rest stays. -/
theorem get?_layered
    (distinct : Table.Distinct above)
    (below : Table Json)
    (name : String) :
    Table.get? (layered below above) name =
      match Table.get? above name with
      | some value => some (overlaid (Table.get? below name) value)
      | none => Table.get? below name := by
  induction above generalizing below with
  | nil => rfl
  | cons member rest ih =>
    obtain ⟨key, value⟩ := member
    obtain ⟨first, others⟩ := List.nodup_cons.1 distinct
    rw [layered, ih others, Table.get?_put, Table.get?]
    by_cases here : key = name
    · subst here
      rw [(Table.get?_eq_none_iff rest key).2 first, if_pos rfl, if_pos rfl]
    · rw [if_neg here, if_neg here]

mutual

/-- A well-formed value over a well-formed one is well formed. -/
theorem wellFormed_overlaid :
    ∀ (value : Json) (base : Option Json), value.WellFormed ->
      (∀ lower, base = some lower -> lower.WellFormed) -> (overlaid base value).WellFormed
  | .obj members, base, wellFormed, baseFormed => by
      rcases base with _ | (_ | _ | _ | _ | _ | _ | below)
      case some.obj => exact wellFormed_layered members below wellFormed.2 (baseFormed _ rfl)
      all_goals exact wellFormed
  | .null, _, wellFormed, _ => wellFormed
  | .bool _, _, wellFormed, _ => wellFormed
  | .int _, _, wellFormed, _ => wellFormed
  | .float _, _, wellFormed, _ => wellFormed
  | .str _, _, wellFormed, _ => wellFormed
  | .arr _, _, wellFormed, _ => wellFormed

/-- Members laid over a well-formed mapping give a well-formed one, also if a name comes twice. -/
theorem wellFormed_layered :
    ∀ (members : List (String × Json)) (below : Table Json), Json.WellFormedMembers members ->
      (Json.obj below).WellFormed -> (Json.obj (layered below members)).WellFormed
  | [], _, _, belowFormed => belowFormed
  | (name, value) :: rest, _, wellFormed, belowFormed =>
      wellFormed_layered rest _ wellFormed.2
        (Json.wellFormed_put belowFormed name (wellFormed_overlaid value _ wellFormed.1
          fun _ found => Json.wellFormed_of_get? belowFormed.2 found))

end

/-! ## Ways through the settings -/

theorem valueAt?_append
    (value : Json)
    (walked rest : List String) :
    valueAt? value (walked ++ rest) =
      (valueAt? value walked).bind fun inner => valueAt? inner rest := by
  induction walked generalizing value with
  | nil => rfl
  | cons name names ih =>
    cases value with
    | obj members =>
      rw [List.cons_append, valueAt?, valueAt?]
      cases Table.get? members name with
      | none => rfl
      | some inner => exact ih inner
    | _ => rfl

theorem valueAt?_of_no_members
    (noMembers : value.obj? = none)
    {names : List String}
    (nonempty : names ≠ []) : valueAt? value names = none := by
  cases names with
  | nil => exact absurd rfl nonempty
  | cons name rest =>
    cases value with
    | obj members => cases noMembers
    | _ => rfl

theorem wellFormed_of_valueAt?
    {top : Json}
    (wellFormed : top.WellFormed)
    {names : List String}
    (found : valueAt? top names = some value) : value.WellFormed := by
  induction names generalizing top with
  | nil =>
    cases found
    exact wellFormed
  | cons name rest ih =>
    cases top with
    | obj members =>
      obtain ⟨inner, named, found⟩ := Option.bind_eq_some_iff.1 found
      exact ih (Json.wellFormed_of_get? wellFormed.2 named) found
    | _ => cases found

/-- Where the upper settings have a value, there it lies over what the lower ones have at the same
place. -/
theorem valueAt?_overlaid
    {base : Option Json}
    {top : Json}
    (wellFormed : top.WellFormed)
    {names : List String}
    (found : valueAt? top names = some value) :
    valueAt? (overlaid base top) names =
      some (overlaid (base.bind fun lower => valueAt? lower names) value) := by
  induction names generalizing base top with
  | nil =>
    cases found
    cases base <;> rfl
  | cons name rest ih =>
    cases top with
    | obj members =>
      obtain ⟨inner, named, found⟩ := Option.bind_eq_some_iff.1 found
      rw [overlaid_obj]
      split
      · rename_i lower
        have innerFormed : inner.WellFormed := Json.wellFormed_of_get? wellFormed.2 named
        rw [valueAt?, get?_layered wellFormed.1, named]
        exact ih innerFormed found
      · rename_i noMapping
        have nothing : (base.bind fun lower => valueAt? lower (name :: rest)) = none := by
          rcases base with _ | (_ | _ | _ | _ | _ | _ | lower)
          case some.obj => exact absurd rfl (noMapping lower)
          all_goals rfl
        rw [nothing, overlaid_none, valueAt?, named]
        exact found
    | _ => cases found

/-- The same for settings that are mappings. -/
theorem valueAt?_layered
    (wellFormed : (Json.obj above).WellFormed)
    (below : Table Json)
    {names : List String}
    (found : valueAt? (.obj above) names = some value) :
    valueAt? (.obj (layered below above)) names =
      some (overlaid (valueAt? (.obj below) names) value) := by
  have overlay : valueAt? (overlaid (some (.obj below)) (.obj above)) names =
      some (overlaid (valueAt? (.obj below) names) value) := valueAt?_overlaid wellFormed found
  exact overlay

/-- Behind a value of the upper settings that is no mapping there is nothing. -/
theorem valueAt?_layered_of_blocked
    (wellFormed : (Json.obj above).WellFormed)
    (below : Table Json)
    {walked rest : List String}
    (further : rest ≠ [])
    (found : valueAt? (.obj above) walked = some value)
    (noMembers : value.obj? = none) :
    valueAt? (.obj (layered below above)) (walked ++ rest) = none := by
  rw [valueAt?_append, valueAt?_layered wellFormed below found, overlaid_of_no_members noMembers]
  exact valueAt?_of_no_members noMembers further

/-- Where a name is missing in the upper settings the lower ones are in force. -/
theorem valueAt?_layered_of_missing
    (wellFormed : (Json.obj above).WellFormed)
    (below : Table Json)
    {walked rest : List String}
    {name : String}
    (found : valueAt? (.obj above) walked = some (.obj members))
    (missing : Table.get? members name = none) :
    valueAt? (.obj (layered below above)) (walked ++ name :: rest) =
      valueAt? (.obj below) (walked ++ name :: rest) := by
  have distinct : Table.Distinct members := (wellFormed_of_valueAt? wellFormed found).1
  rw [valueAt?_append, valueAt?_append, valueAt?_layered wellFormed below found, overlaid_obj,
    Option.bind_some]
  split
  · rename_i lower found
    rw [found, Option.bind_some, valueAt?, valueAt?, get?_layered distinct, missing]
  · rename_i noMapping
    rw [valueAt?, missing]
    cases reached : valueAt? (.obj below) walked with
    | none => rfl
    | some lower =>
      refine (valueAt?_of_no_members ?_ (List.cons_ne_nil name rest)).symm
      cases lower with
      | obj lower => exact absurd reached (noMapping lower)
      | _ => rfl

/-- A way that leads to nothing is stopped by a value that is no mapping or by a missing name. -/
theorem stopped_of_valueAt?_eq_none
    {names : List String}
    (nothing : valueAt? (.obj members) names = none) :
    (∃ walked rest value, names = walked ++ rest ∧ rest ≠ [] ∧
        valueAt? (.obj members) walked = some value ∧ value.obj? = none) ∨
      ∃ walked name rest inner, names = walked ++ name :: rest ∧
        valueAt? (.obj members) walked = some (.obj inner) ∧ Table.get? inner name = none := by
  induction names generalizing members with
  | nil => cases nothing
  | cons name rest ih =>
    rw [valueAt?] at nothing
    cases named : Table.get? members name with
    | none => exact Or.inr ⟨[], name, rest, members, rfl, rfl, named⟩
    | some value =>
      rw [named, Option.bind_some] at nothing
      have further (walked : List String) :
          valueAt? (.obj members) (name :: walked) = valueAt? value walked := by
        rw [valueAt?, named, Option.bind_some]
      cases value with
      | obj inner =>
        rcases ih nothing with
          ⟨walked, later, value, split, nonempty, found, noMembers⟩ |
          ⟨walked, missing, later, table, split, found, absent⟩
        · exact Or.inl ⟨name :: walked, later, value, congrArg (name :: ·) split, nonempty,
            (further walked).trans found, noMembers⟩
        · exact Or.inr ⟨name :: walked, missing, later, table, congrArg (name :: ·) split,
            (further walked).trans found, absent⟩
      | _ =>
        refine Or.inl ⟨[name], rest, _, rfl, ?_, further [], rfl⟩
        rintro rfl
        cases nothing

/-- What the lower settings have at the end of a way, unless it is a mapping, is the default for what
the upper ones have there. -/
theorem getD_valueAt?_layered
    (wellFormed : (Json.obj above).WellFormed)
    {standard : Json}
    {names : List String}
    (lower : valueAt? (.obj below) names = some standard)
    (noMembers : standard.obj? = none) :
    (valueAt? (.obj (layered below above)) names).getD standard =
      (valueAt? (.obj above) names).getD standard := by
  cases upper : valueAt? (.obj above) names with
  | some value =>
    rw [valueAt?_layered wellFormed below upper, lower, overlaid_over_no_members noMembers]
  | none =>
    rcases stopped_of_valueAt?_eq_none upper with
      ⟨walked, rest, value, rfl, nonempty, found, blocking⟩ |
      ⟨walked, name, rest, inner, rfl, found, missing⟩
    · rw [valueAt?_layered_of_blocked wellFormed below nonempty found blocking]
    · rw [valueAt?_layered_of_missing wellFormed below found missing, lower]
      rfl

/-! ## Laying the same settings over once more -/

/-- Nothing changes where everything is there already. -/
theorem layered_of_present
    {table : Table Json}
    (present : ∀ member ∈ members, ∃ value, Table.get? table member.1 = some value ∧
      overlaid (some value) member.2 = value) : layered table members = table := by
  induction members with
  | nil => rfl
  | cons member rest ih =>
    obtain ⟨value, found, same⟩ := present member List.mem_cons_self
    rw [layered, found, same, Table.put_of_get? found]
    exact ih fun other later => present other (List.mem_cons_of_mem _ later)

theorem layered_layered_of_each
    (distinct : Table.Distinct above)
    (each : ∀ member ∈ above, ∀ base,
      overlaid (some (overlaid base member.2)) member.2 = overlaid base member.2)
    (below : Table Json) : layered (layered below above) above = layered below above := by
  refine layered_of_present fun member isThere =>
    ⟨overlaid (Table.get? below member.1) member.2, ?_, each member isThere _⟩
  rw [get?_layered distinct, Table.get?_of_mem distinct isThere]

mutual

/-- A value that is laid over twice is there as if it were laid over once. -/
theorem overlaid_overlaid :
    ∀ value : Json, value.WellFormed -> ∀ base : Option Json,
      overlaid (some (overlaid base value)) value = overlaid base value
  | .obj members, wellFormed, base => by
      have each := overlaid_overlaid_members members wellFormed.2
      have alone : layered members members = members :=
        layered_of_present fun member isThere =>
          ⟨member.2, Table.get?_of_mem wellFormed.1 isThere, by
            have twice := each member isThere none
            rw [overlaid_none] at twice
            exact twice⟩
      rcases base with _ | (_ | _ | _ | _ | _ | _ | below)
      case some.obj => exact congrArg Json.obj (layered_layered_of_each wellFormed.1 each below)
      all_goals exact congrArg Json.obj alone
  | .null, _, _ => rfl
  | .bool _, _, _ => rfl
  | .int _, _, _ => rfl
  | .float _, _, _ => rfl
  | .str _, _, _ => rfl
  | .arr _, _, _ => rfl

theorem overlaid_overlaid_members :
    ∀ members : List (String × Json), Json.WellFormedMembers members ->
      ∀ member ∈ members, ∀ base : Option Json,
        overlaid (some (overlaid base member.2)) member.2 = overlaid base member.2
  | [], _, _, isThere, _ => nomatch isThere
  | (_, value) :: rest, wellFormed, member, isThere, base => by
      rcases List.mem_cons.1 isThere with rfl | later
      · exact overlaid_overlaid value wellFormed.1 base
      · exact overlaid_overlaid_members rest wellFormed.2 member later base

end

theorem layered_layered
    (wellFormed : (Json.obj above).WellFormed)
    (below : Table Json) : layered (layered below above) above = layered below above :=
  layered_layered_of_each wellFormed.1 (overlaid_overlaid_members above wellFormed.2) below

/-! ## Keys -/

/-- A key is looked up by the names between its points. -/
theorem lookup_intercalate
    (config : OperatorConfig)
    {names : List String}
    (nonempty : names ≠ [])
    (plain : ∀ name ∈ names, '.' ∉ name.toList)
    (default : Json) :
    config.lookup (String.intercalate "." names) default =
      (valueAt? (.obj config.settings) names).getD default := by
  unfold lookup
  rw [show "." = String.singleton '.' from rfl, Text.split_intercalate nonempty plain]

/-- What a key leads to when settings are laid over others: the value of the upper settings, if it is
no mapping; the given default, if such a value stands in the way; what the lower settings have, if a
name is missing; and the mapping of the upper settings, merged with that of the lower ones if they
have one.  Laying the same settings over again changes nothing. -/
theorem lookup_layered
    (below : Table Json)
    {above : Table Json}
    (wellFormed : (Json.obj above).WellFormed)
    {names : List String}
    (nonempty : names ≠ [])
    (plain : ∀ name ∈ names, '.' ∉ name.toList)
    (default : Json) :
    let merged : OperatorConfig := ⟨layered below above⟩
    let found := merged.lookup (String.intercalate "." names) default
    (∀ value, valueAt? (.obj above) names = some value -> value.obj? = none -> found = value) ∧
      (∀ walked rest value, names = walked ++ rest -> rest ≠ [] ->
        valueAt? (.obj above) walked = some value -> value.obj? = none -> found = default) ∧
      (∀ walked name rest members, names = walked ++ name :: rest ->
        valueAt? (.obj above) walked = some (.obj members) -> Table.get? members name = none ->
        found = (valueAt? (.obj below) names).getD default) ∧
      (∀ members, valueAt? (.obj above) names = some (.obj members) ->
        found = .obj (match valueAt? (.obj below) names with
          | some (.obj under) => layered under members
          | _ => members)) ∧
      layered merged.settings above = merged.settings := by
  intro merged found
  have looked : found = (valueAt? (.obj (layered below above)) names).getD default :=
    lookup_intercalate merged nonempty plain default
  rw [looked]
  refine ⟨fun value there noMembers => ?_, fun walked rest value split further there noMembers => ?_,
    fun walked name rest members split there missing => ?_, fun members there => ?_,
    layered_layered wellFormed below⟩
  · rw [valueAt?_layered wellFormed below there, overlaid_of_no_members noMembers]
    rfl
  · rw [split, valueAt?_layered_of_blocked wellFormed below further there noMembers]
    rfl
  · rw [split, valueAt?_layered_of_missing wellFormed below there missing]
  · rw [valueAt?_layered wellFormed below there, overlaid_obj]
    rfl

/-- A port over the standard one, and a section in the place of one with mappings of its own. -/
theorem lookup_layered_over_defaults :
    let above : Table Json := [("server", .obj [("port", .int 9000)]), ("security", .int 5)]
    let config : OperatorConfig := ⟨layered defaults above⟩
    (Json.obj above).WellFormed ∧
      config.lookup "server.port" .null = .int 9000 ∧
      config.lookup "server.host" .null = .str "127.0.0.1" ∧
      config.lookup "security.cors.enabled" (.str "none") = .str "none" ∧
      config.lookup "server" .null = .obj [("host", .str "127.0.0.1"), ("port", .int 9000),
        ("log_level", .str "info")] ∧
      layered config.settings above = config.settings := by
  intro above config
  have wellFormed : (Json.obj above).WellFormed := by decide
  have port := lookup_layered defaults wellFormed (List.cons_ne_nil "server" ["port"])
    (by decide) .null
  have host := lookup_layered defaults wellFormed (List.cons_ne_nil "server" ["host"])
    (by decide) .null
  have enabled := lookup_layered defaults wellFormed (List.cons_ne_nil "security" ["cors", "enabled"])
    (by decide) (.str "none")
  have server := lookup_layered defaults wellFormed (List.cons_ne_nil "server" []) (by decide) .null
  refine ⟨wellFormed, port.1 _ rfl rfl, ?_, ?_, server.2.2.2.1 _ rfl, server.2.2.2.2⟩
  · exact host.2.2.1 ["server"] "host" [] _ rfl rfl rfl
  · exact enabled.2.1 ["security"] ["cors", "enabled"] _ rfl (List.cons_ne_nil _ _) rfl rfl

end OperatorConfig
end BroadcastGraphics
