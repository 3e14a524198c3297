import BroadcastGraphics.Proofs.LayeredSettings
import BroadcastGraphics.Proofs.SettingsReading

/-!
# Settings of any shape

A settings file can hold any value, and each of its sections too.  What the service asks of its
configuration is answered whatever stands in the file, with four exceptions: the file as a whole has
to be a mapping unless it counts as nothing, and one section or setting each can keep the policy of
imports, the token of the operator and the settings without secrets from being given.  Where they
are given, the settings without secrets differ from the settings in the secret alone.
-/

namespace BroadcastGraphics
namespace OperatorConfig

/-! ## Which shapes are endured -/

/-- The settings that a document holds: those of a mapping, and none if it counts as nothing. -/
def settingsOf? (document : Json) : Option (Table Json) :=
  if document.isTruthy then document.obj? else some []

/-- What stands in the place of the policy of imports can be shown in a warning. -/
def PolicyIsShown (settings : Table Json) : Prop :=
  ∀ value, valueAt? (.obj settings) ["import", "default_policy"] = some value ->
    value.hasLongInteger = false

/-- A value names a variable of the environment. -/
def NamesVariable (value : Json) : Prop :=
  ∃ name, value = .str name ∧ Text.HalfPair.firstRunBeyondBytes? name.toList = none

/-- What stands in the place of the variable with the token names one. -/
def TokenIsNamed (settings : Table Json) : Prop :=
  ∀ value, valueAt? (.obj settings) ["security", "admin_token_env"] = some value ->
    NamesVariable value

/-- A section can be asked for a secret, and can be written to if it seems to have one: a list and a
text can only be asked. -/
def HidesSecret : Json -> Prop
  | .obj _ => True
  | .arr items => .str secretName ∉ items ∧ Yaml.DateTime.textOf? items = none
  | .str text => Text.contains text secretName = false
  | _ => False

/-- What stands in the place of the security settings can be asked for the secret. -/
def SecretIsHidden (settings : Table Json) : Prop :=
  ∀ security, Table.get? settings "security" = some security -> HidesSecret security

/-! ## The settings in force -/

section

variable {settings : Table Json}

theorem wellFormed_defaults : (Json.obj defaults).WellFormed := by
  decide

/-- A setting whose default meets a condition meets it unless the document has another value there
that does not. -/
theorem meets_lookup_iff
    (condition : Json -> Prop)
    (wellFormed : (Json.obj settings).WellFormed)
    (names : List String)
    (nonempty : names ≠ [])
    (plain : ∀ name ∈ names, '.' ∉ name.toList)
    {standard : Json}
    (lower : valueAt? (.obj defaults) names = some standard)
    (noMembers : standard.obj? = none)
    (met : condition standard) :
    condition (lookup ⟨layered defaults settings⟩ (String.intercalate "." names) standard) ↔
      ∀ value, valueAt? (.obj settings) names = some value -> condition value := by
  rw [lookup_intercalate _ nonempty plain, getD_valueAt?_layered wellFormed lower noMembers]
  cases valueAt? (.obj settings) names with
  | none => exact iff_of_true met fun _ found => nomatch found
  | some value => simp only [Option.getD_some, Option.some.injEq, forall_eq']

/-- A result with one exception is given unless the exception holds. -/
theorem exists_ok_iff
    {α : Type}
    (exception : Prop)
    [Decidable exception]
    (fault : Fault)
    (value : α) :
    (∃ given, (if exception then Except.error fault else .ok value) = .ok given) ↔
      ¬exception := by
  split
  · exact iff_of_false (fun ⟨_, given⟩ => nomatch given) (not_not_intro ‹_›)
  · exact iff_of_true ⟨value, rfl⟩ ‹_›

/-- A value that cannot be shown is no policy. -/
theorem ofJson?_of_hasLongInteger
    {value : Json}
    (long : value.hasLongInteger = true) : ConflictPolicy.ofJson? value = none := by
  cases value with
  | str text => cases long
  | _ => rfl

/-- The policy is in force unless the value in its place cannot be shown. -/
theorem policyInForce_iff
    (config : OperatorConfig) :
    (∃ policy, config.policyInForce = .ok policy) ↔ config.policyValue.hasLongInteger = false := by
  rw [policyInForce, exists_ok_iff, Bool.not_eq_true]
  cases long : config.policyValue.hasLongInteger with
  | false => exact iff_of_true (Bool.and_false _) rfl
  | true => simp [ofJson?_of_hasLongInteger long]

theorem policyInForce_layered_iff
    (wellFormed : (Json.obj settings).WellFormed) :
    (∃ policy, policyInForce ⟨layered defaults settings⟩ = .ok policy) ↔
      PolicyIsShown settings := by
  have shown : (policyValue ⟨layered defaults settings⟩).hasLongInteger = false ↔
      PolicyIsShown settings :=
    meets_lookup_iff (fun value => value.hasLongInteger = false) wellFormed
      ["import", "default_policy"] (List.cons_ne_nil _ _) (by decide) rfl rfl rfl
  exact (policyInForce_iff _).trans shown

/-- There is a token unless the value in the place of the variable names none. -/
theorem adminToken_iff
    (config : OperatorConfig)
    (environment : Table String) :
    (∃ token, config.adminToken environment = .ok token) ↔
      NamesVariable (config.lookup "security.admin_token_env" (.str "ADMIN_TOKEN")) := by
  unfold adminToken NamesVariable
  cases config.lookup "security.admin_token_env" (.str "ADMIN_TOKEN") with
  | str name =>
    dsimp only
    cases run : Text.HalfPair.firstRunBeyondBytes? name.toList with
    | some run => simp [run]
    | none =>
      refine iff_of_true ?_ ⟨name, rfl, run⟩
      dsimp only
      split <;> exact ⟨_, rfl⟩
  | _ => simp

theorem adminToken_layered_iff
    (wellFormed : (Json.obj settings).WellFormed)
    (environment : Table String) :
    (∃ token, adminToken ⟨layered defaults settings⟩ environment = .ok token) ↔
      TokenIsNamed settings := by
  have standard : NamesVariable (.str "ADMIN_TOKEN") := ⟨"ADMIN_TOKEN", rfl, by decide +kernel⟩
  exact (adminToken_iff _ environment).trans
    (meets_lookup_iff NamesVariable wellFormed ["security", "admin_token_env"]
      (List.cons_ne_nil _ _) (by decide) rfl rfl standard)

end

/-! ## The settings without secrets -/

/-- The table with the entry under a name changed, if there is one. -/
def changedAt (name : String) (change : Json -> Json) (table : Table Json) : Table Json :=
  table.map fun entry => (entry.1, if entry.1 = name then change entry.2 else entry.2)

/-- The security settings with the secret out of sight, if they are a mapping that has one. -/
def secretHidden : Json -> Json
  | .obj security => .obj (changedAt secretName (fun _ => redacted) security)
  | value => value

theorem changedAt_of_notMem
    {name : String}
    {table : Table Json}
    (absent : name ∉ Table.names table)
    (change : Json -> Json) : changedAt name change table = table := by
  refine (List.map_congr_left fun entry isThere => ?_).trans (List.map_id table)
  have other : entry.1 ≠ name := fun same => absent (same ▸ Table.mem_names_of_mem isThere)
  rw [if_neg other]
  rfl

/-- Writing over an entry changes that entry alone. -/
theorem put_eq_changedAt
    {name : String}
    {table : Table Json}
    {value : Json}
    (distinct : Table.Distinct table)
    (found : Table.get? table name = some value)
    (change : Json -> Json) :
    Table.put table name (change value) = changedAt name change table := by
  induction table with
  | nil => cases found
  | cons entry rest ih =>
    obtain ⟨key, old⟩ := entry
    obtain ⟨first, others⟩ := List.nodup_cons.1 distinct
    rw [Table.get?] at found
    rw [Table.put, changedAt, List.map_cons]
    by_cases here : key = name
    · subst here
      rw [if_pos rfl] at found
      cases found
      rw [if_pos rfl, if_pos rfl]
      exact congrArg _ (changedAt_of_notMem first change).symm
    · rw [if_neg here] at found
      rw [if_neg here, if_neg here]
      exact congrArg _ (ih others found)

/-- The security settings are given without the secret unless they cannot be asked for it. -/
theorem withoutSecret_iff
    (value : Json) : (∃ shown, withoutSecret value = .ok shown) ↔ HidesSecret value := by
  cases value with
  | obj members => exact iff_of_true ⟨_, rfl⟩ trivial
  | arr items =>
    rw [withoutSecret, exists_ok_iff, HidesSecret]
    simp
  | str text => rw [withoutSecret, exists_ok_iff, HidesSecret, Bool.not_eq_true]
  | _ =>
    refine iff_of_false ?_ id
    rintro ⟨_, given⟩
    cases given

/-- The security settings without the secret differ in the secret alone. -/
theorem eq_secretHidden
    {value shown : Json}
    (wellFormed : value.WellFormed)
    (given : withoutSecret value = .ok shown) : shown = secretHidden value := by
  cases value with
  | obj members =>
    cases given
    cases found : Table.get? members secretName with
    | none =>
      have absent := (Table.get?_eq_none_iff members secretName).1 found
      simp [secretHidden, Table.has, found, changedAt_of_notMem absent]
    | some secret =>
      simp [secretHidden, Table.has, found, put_eq_changedAt wellFormed.1 found fun _ => redacted]
  | arr items =>
    rw [withoutSecret] at given
    split at given <;> cases given
    rfl
  | str text =>
    rw [withoutSecret] at given
    split at given <;> cases given
    rfl
  | _ => cases given

/-- A section that is laid over a mapping can be asked for a secret if it could before. -/
theorem hidesSecret_overlaid
    (base : Option Json)
    (value : Json) : HidesSecret (overlaid base value) ↔ HidesSecret value := by
  cases value with
  | obj members => rw [overlaid_obj]; exact Iff.rfl
  | _ => rw [overlaid_of_no_members rfl]

/-- The settings without secrets are the settings with the secret out of sight. -/
theorem sanitized_eq
    {config : OperatorConfig}
    (wellFormed : (Json.obj config.settings).WellFormed)
    {shown : Table Json}
    (given : config.sanitized = .ok shown) :
    shown = changedAt "security" secretHidden config.settings := by
  unfold sanitized at given
  cases found : Table.get? config.settings "security" with
  | none =>
    rw [found] at given
    cases given
    exact (changedAt_of_notMem ((Table.get?_eq_none_iff _ _).1 found) _).symm
  | some security =>
    rw [found] at given
    obtain ⟨hidden, asked, done⟩ := ok_of_bind given
    cases done
    have securityFormed : security.WellFormed := Json.wellFormed_of_get? wellFormed.2 found
    rw [eq_secretHidden securityFormed asked]
    exact put_eq_changedAt wellFormed.1 found secretHidden

/-- The settings without secrets are given unless the security settings cannot be asked for the
secret. -/
theorem sanitized_iff
    (config : OperatorConfig) :
    (∃ shown, config.sanitized = .ok shown) ↔ SecretIsHidden config.settings := by
  unfold sanitized SecretIsHidden
  cases found : Table.get? config.settings "security" with
  | none => exact iff_of_true ⟨_, rfl⟩ fun _ there => nomatch there
  | some security =>
    simp only [Option.some.injEq, forall_eq']
    rw [← withoutSecret_iff]
    refine ⟨fun ⟨_, given⟩ => ?_, fun ⟨hidden, asked⟩ => ⟨_, by rw [asked]; rfl⟩⟩
    obtain ⟨hidden, asked, -⟩ := ok_of_bind given
    exact ⟨hidden, asked⟩

theorem sanitized_layered_iff
    {settings : Table Json}
    (wellFormed : (Json.obj settings).WellFormed) :
    (∃ shown, sanitized ⟨layered defaults settings⟩ = .ok shown) ↔ SecretIsHidden settings := by
  rw [sanitized_iff, SecretIsHidden, SecretIsHidden, get?_layered wellFormed.1]
  cases Table.get? settings "security" with
  | none =>
    refine iff_of_true (fun security there => ?_) fun _ there => nomatch there
    cases there
    trivial
  | some security => simp only [Option.some.injEq, forall_eq', hidesSecret_overlaid]

/-! ## Settings files -/

section

variable {document : Json} {settings : Table Json}

/-- A document with settings is the mapping of them, or counts as nothing and has none. -/
theorem obj_or_falsy_of_settings
    (holds : settingsOf? document = some settings) :
    document = .obj settings ∨ document.isTruthy = false ∧ settings = [] := by
  unfold settingsOf? at holds
  cases truthy : document.isTruthy with
  | false =>
    rw [truthy] at holds
    cases holds
    exact Or.inr ⟨rfl, rfl⟩
  | true =>
    rw [truthy, if_pos rfl] at holds
    cases document with
    | obj members => cases holds; exact Or.inl rfl
    | _ => cases holds

/-- The settings of a document are laid over the defaults. -/
theorem ofDocument_of_settings
    (holds : settingsOf? document = some settings) :
    ofDocument document = .ok ⟨layered defaults settings⟩ := by
  rcases obj_or_falsy_of_settings holds with rfl | ⟨falsy, rfl⟩
  · cases settings <;> rfl
  · unfold ofDocument
    rw [falsy]
    rfl

/-- A document without settings is refused. -/
theorem ofDocument_of_no_settings
    (holds : settingsOf? document = none) : ofDocument document = .error .noMembers := by
  unfold settingsOf? at holds
  unfold ofDocument
  split at holds
  · rename_i truthy
    rw [if_pos truthy]
    cases document with
    | obj members => cases holds
    | _ => rfl
  · cases holds

/-- Without a mapping there are no settings. -/
theorem settings_eq_nil_of_no_members
    (holds : settingsOf? document = some settings)
    (noMembers : document.obj? = none) : settings = [] := by
  rcases obj_or_falsy_of_settings holds with rfl | ⟨-, none⟩
  · cases noMembers
  · exact none

theorem wellFormed_of_settings
    (wellFormed : document.WellFormed)
    (holds : settingsOf? document = some settings) : (Json.obj settings).WellFormed := by
  rcases obj_or_falsy_of_settings holds with rfl | ⟨-, rfl⟩
  · exact wellFormed
  · exact ⟨Table.distinct_nil, trivial⟩

end

/-- Whatever value a settings file holds: if it is a mapping or counts as nothing, the configuration is
made and read again, with the defaults if there is no mapping; the policy of imports, the token and
the settings without secrets are each given unless the one value that they ask for has a shape
that they cannot take; and the settings without secrets differ in the secret alone.  Any other value
is refused, and when the file is read again the settings stay as they are.  Values under a key and
what other origins may do are given without any condition. -/
theorem settings_file_endured_iff
    {text : String}
    {document : Json}
    (read : Yaml.parse text = .ok document)
    (environment : Table String)
    (earlier : OperatorConfig) :
    (∀ settings, settingsOf? document = some settings ->
      ∃ config, ofFile (some text) = .ok config ∧
        earlier.reload (some text) = (config, .ok ()) ∧
        (document.obj? = none -> config.settings = defaults) ∧
        ((∃ policy, config.policyInForce = .ok policy) ↔ PolicyIsShown settings) ∧
        ((∃ token, config.adminToken environment = .ok token) ↔ TokenIsNamed settings) ∧
        ((∃ shown, config.sanitized = .ok shown) ↔ SecretIsHidden settings) ∧
        ∀ shown, config.sanitized = .ok shown ->
          shown = changedAt "security" secretHidden config.settings) ∧
      (settingsOf? document = none ->
        ofFile (some text) = .error .noMembers ∧
          earlier.reload (some text) = (earlier, .error .noMembers)) := by
  have made : ofFile (some text) = ofDocument document := by rw [ofFile, read]
  rw [reload, made]
  refine ⟨fun settings holds => ?_, fun holds => ?_⟩
  · have wellFormed : (Json.obj settings).WellFormed :=
      wellFormed_of_settings (Yaml.wellFormed_of_parse read) holds
    rw [ofDocument_of_settings holds]
    refine ⟨⟨layered defaults settings⟩, rfl, rfl, fun noMembers => ?_,
      policyInForce_layered_iff wellFormed, adminToken_layered_iff wellFormed environment,
      sanitized_layered_iff wellFormed, fun shown given => sanitized_eq ?_ given⟩
    · rw [settings_eq_nil_of_no_members holds noMembers]
      rfl
    · exact wellFormed_layered settings defaults wellFormed.2 wellFormed_defaults
  · rw [ofDocument_of_no_settings holds]
    exact ⟨rfl, rfl⟩

/-- Security settings that are nothing leave the token and the policy in force, but not the settings
without secrets; a list is no settings file. -/
theorem settings_file_without_security :
    let earlier : OperatorConfig := ⟨[]⟩
    (∃ config, ofFile (some "security:\n") = .ok config ∧
        earlier.reload (some "security:\n") = (config, .ok ()) ∧
        (∃ policy, config.policyInForce = .ok policy) ∧
        (∃ token, config.adminToken [] = .ok token) ∧
        ¬∃ shown, config.sanitized = .ok shown) ∧
      earlier.reload (some "[1]") = (earlier, .error .noMembers) := by
  intro earlier
  have list : Yaml.parse "[1]" = .ok (.arr [.int 1]) := by decide +kernel
  have nothing : Yaml.parse "security:\n" = .ok (.obj [("security", .null)]) := by decide +kernel
  obtain ⟨config, made, again, -, policy, token, shown, -⟩ :=
    (settings_file_endured_iff nothing [] earlier).1 _ rfl
  refine ⟨⟨config, made, again, policy.2 fun _ there => (nomatch there),
    token.2 fun _ there => (nomatch there), fun given => shown.1 given _ rfl⟩, ?_⟩
  exact ((settings_file_endured_iff list [] earlier).2 rfl).2

end OperatorConfig
end BroadcastGraphics
