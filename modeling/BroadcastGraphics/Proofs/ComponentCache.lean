import BroadcastGraphics.Proofs.TemplateData

/-!
# Kept component source is never outdated

A template keeps component source: what was made from its content, or a text from elsewhere that was
installed.  An installed text holds until a call outdates it.  At every point of every run of calls,
a text that still holds is kept and read; otherwise nothing is kept, or exactly what is made from the
present content, and reading gives that.
-/

namespace BroadcastGraphics

/-! ## Equality by value -/

namespace Json

/-- Any texts and any integers; only the names inside an object are distinct. -/
def Standard.any : Standard := ⟨fun _ => True, fun _ => True⟩

theorem meets_any_of_isScalar
    {value : Json}
    (scalar : value.isScalar = true) : value.Meets .any := by
  cases value with
  | arr _ => cases scalar
  | obj _ => cases scalar
  | int _ => exact (meets_int _).2 trivial
  | str _ => exact (meets_str _).2 trivial
  | null => exact meets_null
  | bool _ => exact meets_bool _
  | float _ => exact meets_float _

theorem isScalar_toJson
    (name : String) : (Name.toJson name).isScalar = true := by
  unfold Name.toJson
  split
  · split
    · rename_i rest _ _
      cases read : (parse (String.ofList rest)).toOption.filter isScalar with
      | none => rfl
      | some value => exact (Option.filter_eq_some_iff.1 read).2
    · rfl
  · rfl

theorem Standard.closed_any : Standard.any.Closed where
  plain _ _ := trivial
  single _ _ _ _ := trivial
  shown _ _ := trivial
  named name _ := meets_any_of_isScalar (isScalar_toJson name)
  small _ _ := trivial
  whole _ _ _ := trivial
  read _ _ _ _ := trivial

mutual

/-- A value in which names are distinct has the same value as itself. -/
theorem sameValue_self : ∀ value : Json, value.Meets .any -> value.sameValue value = true
  | .null, _ => rfl
  | .bool value, _ => by cases value <;> rfl
  | .int value, _ => by simp [sameValue, sameScalar]
  | .float value, _ => by simp [sameValue, sameScalar]
  | .str value, _ => by simp [sameValue, sameScalar]
  | .arr items, meets => by
      rw [sameValue]
      exact sameItems_self items ((meets_arr items).1 meets)
  | .obj members, meets => by
      rw [sameValue, beq_self_eq_true, Bool.true_and]
      exact sameMembers_self members members
        (fun member isThere => Table.get?_of_mem meets.distinct isThere) meets.members

/-- Items in which names are distinct have the same values as themselves. -/
theorem sameItems_self :
    ∀ items : List Json, MeetsItems .any items -> sameItems items items = true
  | [], _ => rfl
  | item :: rest, meets => by
      rw [sameItems, sameValue_self item meets.1, sameItems_self rest meets.2]
      rfl

/-- Members that are found among others have the same values as those. -/
theorem sameMembers_self :
    ∀ lefts rights : List (String × Json),
      (∀ member ∈ lefts, Table.get? rights member.1 = some member.2) ->
      MeetsMembers .any lefts -> sameMembers lefts rights = true
  | [], _, _, _ => rfl
  | (name, left) :: lefts, rights, found, meets => by
      have here : Table.get? rights name = some left := found (name, left) List.mem_cons_self
      rw [sameMembers, here]
      dsimp only
      rw [sameValue_self left meets.2.1, sameMembers_self lefts rights
        (fun member later => found member (List.mem_cons_of_mem _ later)) meets.2.2]
      rfl

end

/-- Members that are equal by value to some of others have partners among those. -/
theorem exists_same_of_sameMembers
    {left right : Table Json}
    (same : sameMembers left right = true) :
    ∀ member ∈ left, ∃ other, Table.get? right member.1 = some other ∧
      member.2.sameValue other = true := by
  induction left with
  | nil => exact fun _ isThere => nomatch isThere
  | cons first rest ih =>
    obtain ⟨name, value⟩ := first
    rw [sameMembers, Bool.and_eq_true] at same
    refine List.forall_mem_cons.2 ⟨?_, ih same.2⟩
    have here := same.1
    cases found : Table.get? right name with
    | none => rw [found] at here; cases here
    | some other =>
      rw [found] at here
      exact ⟨other, rfl, here⟩

end Json

open Json (Standard)

theorem Element.sameValue_self
    {element : Element}
    (meets : element.Meets .any) : element.sameValue element = true :=
  Json.sameValue_self _ (meets.members Standard.closed_any.toBasic)

theorem Manifest.sameValue_self
    {manifest : Manifest}
    (meets : manifest.Meets .any) : manifest.sameValue manifest = true := by
  unfold sameValue
  rw [Json.sameItems_self _ (meets.fullValues Standard.closed_any),
    Json.sameValue_self _ meets.extras]
  rfl

theorem Edit.isOk_map
    {α β : Type}
    (edit : Edit α)
    (change : α -> β) : (edit.map change).outcome.isOk = edit.outcome.isOk := by
  unfold map
  cases edit.outcome <;> rfl

namespace Template

instance (left right : Template) : Decidable (SameContent left right) :=
  decidable_of_iff (left.manifest = right.manifest ∧ left.elements = right.elements ∧
      left.animation = right.animation)
    ⟨fun ⟨manifest, elements, animation⟩ => ⟨manifest, elements, animation⟩,
      fun same => ⟨same.manifest, same.elements, same.animation⟩⟩

/-! ## Calls that outdate -/

/-- The manifest takes a failed result from an edit. -/
def takesFailed (template : Template) : Json -> Bool
  | .obj updates =>
      match template.manifest.edited updates with
      | .accepted manifest => manifest.takesFailed updates
      | .refused _ => false
  | _ => false

/-- A call that counts as a change whatever it writes, provided that it is accepted: the writing of a
property, and an edit by which the manifest takes a failed result. -/
def Call.alwaysCounts (template : Template) : Call -> Bool
  | .addProperty _ _ _ _ => true
  | .updateManifest updates => template.takesFailed updates
  | _ => false

/-- A call outdates source from elsewhere: the content of the template differs afterwards, or the
call is accepted and always counts as a change. -/
def outdates (template : Template) (request : Call) : Bool :=
  !decide (SameContent template (template.run request).template) ||
    ((template.run request).outcome.isOk && request.alwaysCounts template)

theorem takesFailed_of_accepted
    {template : Template}
    {updates : Table Json}
    {manifest : Manifest}
    (read : template.manifest.edited updates = .accepted manifest) :
    template.takesFailed (.obj updates) = manifest.takesFailed updates := by
  unfold takesFailed
  dsimp only
  rw [read]

theorem eq_of_replaceElement_eq_self
    {id : String}
    {replacement current : Element}
    {elements : List Element}
    (present : (elements.find? fun element => element.id == id) = some current)
    (same : replaceElement id replacement elements = elements) : replacement = current := by
  induction elements with
  | nil => cases present
  | cons first rest ih =>
    unfold replaceElement at same
    cases here : first.id == id with
    | true =>
      rw [List.find?_cons, here] at present
      rw [if_pos here] at same
      exact (List.cons.inj same).1.trans (Option.some.inj present)
    | false =>
      rw [List.find?_cons, here] at present
      rw [if_neg (Bool.eq_false_iff.1 here)] at same
      exact ih present (List.cons.inj same).2

/-- A call that is carried out changes the content or always counts. -/
theorem Revision.differs_or_counts
    {before after : Template}
    {request : Call}
    (revision : Revision before request after)
    (meets : before.Meets .any) :
    ¬ SameContent before after ∨ request.alwaysCounts before = true := by
  induction revision with
  | add =>
    refine Or.inl fun same => ?_
    have lengths := congrArg List.length same.elements
    rw [List.length_append, List.length_singleton] at lengths
    omega
  | addValid _ _ ih => exact Or.inl (ih.resolve_right Bool.false_ne_true)
  | remove present => exact Or.inl fun same => present (congrArg List.length same.elements).symm
  | update present _ _ _ differs =>
    refine Or.inl fun same => ?_
    rw [eq_of_replaceElement_eq_self present same.elements.symm,
      Element.sameValue_self (meets.elements _ (mem_of_element? present))] at differs
    cases differs
  | restyle _ _ ih => exact Or.inl (ih.resolve_right Bool.false_ne_true)
  | putProperty => exact Or.inr rfl
  | @removeProperty name present =>
    refine Or.inl fun same => ?_
    have properties : before.properties = Table.remove before.properties name :=
      congrArg (fun manifest : Manifest => manifest.schema.properties) same.manifest
    rw [Table.has_iff_mem_names, properties] at present
    exact Table.notMem_names_remove _ _ present
  | @describe updates manifest read differs =>
    rcases differs with other | failed
    · refine Or.inl fun same => ?_
      have same : before.manifest = manifest := same.manifest
      rw [← same, Manifest.sameValue_self meets.manifest] at other
      exact absurd other Bool.noConfusion
    · exact Or.inr ((takesFailed_of_accepted read).trans failed)
  | animate _ differs => exact Or.inl fun same => differs same.animation

/-- A property that is accepted is announced as a change. -/
theorem addProperty_announced
    (template : Template)
    (name : String)
    (kind title default : Json) :
    (template.addProperty name kind title default).announced =
      (template.addProperty name kind title default).outcome.isOk := by
  unfold addProperty
  split
  · rfl
  · dsimp only
    split <;> rfl

/-- An edit by which the manifest takes a failed result is announced as a change. -/
theorem updateManifest_announced
    (template : Template)
    {updates : Json}
    (takes : template.takesFailed updates = true) :
    (template.updateManifest updates).announced = true := by
  cases updates with
  | obj updates =>
    unfold updateManifest
    dsimp only
    cases read : template.manifest.edited updates with
    | refused issues =>
      unfold takesFailed at takes
      dsimp only at takes
      rw [read] at takes
      cases takes
    | accepted manifest =>
      rw [takesFailed_of_accepted read] at takes
      dsimp only [Checked.orInvalid]
      rw [takes]
      simp [Edit.changed]
  | _ => cases takes

/-- A call that is accepted and always counts is announced as a change. -/
theorem announced_of_alwaysCounts
    (template : Template)
    {request : Call}
    (accepted : (template.run request).outcome.isOk = true)
    (counts : request.alwaysCounts template = true) :
    (template.run request).announced = true := by
  cases request with
  | addProperty name kind title default =>
    rw [run] at accepted ⊢
    rw [Edit.isOk_map, ← addProperty_announced] at accepted
    exact accepted
  | updateManifest updates => exact template.updateManifest_announced counts
  | _ => cases counts

/-- Calls of the component source outdate nothing. -/
theorem outdates_of_isOfComponent
    (template : Template)
    {request : Call}
    (ofComponent : request.isOfComponent = true) : template.outdates request = false := by
  have same := template.sameContent_of_isOfComponent ofComponent
  have counts : request.alwaysCounts template = false := by
    cases request with
    | setComponent _ => rfl
    | readComponent => rfl
    | _ => cases ofComponent
  unfold outdates
  rw [decide_eq_true same, counts, Bool.and_false]
  rfl

/-- Any other call outdates source from elsewhere exactly when it is announced as a change. -/
theorem outdates_eq_announced
    {template : Template}
    (meets : template.Meets .any)
    {request : Call}
    (notOfComponent : request.isOfComponent = false) :
    template.outdates request = (template.run request).announced := by
  unfold outdates
  rcases template.run_performs request notOfComponent with ⟨quiet, same, _⟩ |
    ⟨announced, ⟨answer, answered⟩, revision⟩
  · rw [quiet, decide_eq_true same]
    refine Bool.eq_false_iff.2 fun counts => ?_
    simp only [Bool.not_true, Bool.false_or, Bool.and_eq_true] at counts
    rw [template.announced_of_alwaysCounts counts.1 counts.2] at quiet
    cases quiet
  · rw [announced, answered]
    rcases revision.differs_or_counts meets with differs | counts
    · rw [decide_eq_false differs]
      rfl
    · rw [counts]
      exact Bool.or_true _

/-! ## Reading -/

section Reading

variable (template : Template)

theorem readComponent_outcome :
    template.readComponent.outcome = .ok (template.component.getD template.generated) := by
  unfold readComponent
  split
  · rename_i source kept
    rw [kept]
    rfl
  · rename_i none
    rw [none]
    rfl

theorem readComponent_component :
    template.readComponent.template.component =
      some (template.component.getD template.generated) := by
  unfold readComponent
  split
  · rename_i source kept
    change template.component = _
    rw [kept]
    rfl
  · rename_i none
    rw [none]
    rfl

end Reading

/-- Templates of one content make one source. -/
theorem SameContent.generated_eq
    {before after : Template}
    (same : SameContent before after) : after.generated = before.generated := by
  unfold generated
  rw [same.manifest, same.elements, same.animation]

/-! ## Runs -/

/-- A template with the text from elsewhere that still holds, if there is one. -/
structure Watched where
  template : Template
  installed : Option String

namespace Watched

/-- A template whose kept source comes from elsewhere. -/
def start (template : Template) : Watched :=
  ⟨template, template.component⟩

/-- The template after a call.  A text that the call installs holds from then on; a call that
outdates it ends that. -/
def after (watched : Watched) (request : Call) : Watched where
  template := (watched.template.run request).template
  installed :=
    match request with
    | .setComponent source => source
    | request => if watched.template.outdates request then none else watched.installed

/-- A text that still holds is kept; without one nothing is kept or what is made now. -/
def Fresh (watched : Watched) : Prop :=
  match watched.installed with
  | some text => watched.template.component = some text
  | none => watched.template.component = none ∨
      watched.template.component = some watched.template.generated

theorem fresh_start
    (template : Template) : (start template).Fresh := by
  unfold Fresh start
  cases template.component with
  | none => exact Or.inl rfl
  | some text => rfl

/-- Reading leaves what is read, so that it stays fresh. -/
theorem Fresh.after_readComponent
    {watched : Watched}
    (fresh : watched.Fresh) : (watched.after .readComponent).Fresh := by
  have same := (watched.template.sameContent_of_isOfComponent
    (show Call.readComponent.isOfComponent = true from rfl)).generated_eq
  have kept : (watched.after .readComponent).template.component = _ :=
    watched.template.readComponent_component
  have holds : (watched.after .readComponent).installed = watched.installed := by
    change (if watched.template.outdates .readComponent then none else watched.installed) = _
    rw [watched.template.outdates_of_isOfComponent rfl]
    rfl
  unfold Fresh at fresh ⊢
  rw [holds, kept]
  cases installed : watched.installed with
  | some text =>
    rw [installed] at fresh
    rw [show watched.template.component = some text from fresh]
    rfl
  | none =>
    rw [installed] at fresh
    refine Or.inr ?_
    change some _ = some (watched.template.run .readComponent).template.generated
    rw [same]
    rcases fresh with nothing | made
    · rw [nothing]
      rfl
    · rw [made]
      rfl

/-- Every call keeps source fresh. -/
theorem Fresh.after
    {watched : Watched}
    (fresh : watched.Fresh)
    (meets : watched.template.Meets .any)
    (request : Call) : (watched.after request).Fresh := by
  cases ofComponent : request.isOfComponent with
  | true =>
    cases request with
    | setComponent source =>
      cases source with
      | none => exact Or.inl rfl
      | some text => rfl
    | readComponent => exact fresh.after_readComponent
    | _ => cases ofComponent
  | false =>
    have installedEq : (watched.after request).installed =
        if (watched.template.run request).announced then none else watched.installed := by
      rw [← outdates_eq_announced meets ofComponent]
      cases request with
      | setComponent _ => cases ofComponent
      | _ => rfl
    unfold Fresh
    rw [installedEq]
    rcases watched.template.run_performs request ofComponent with ⟨quiet, same, kept⟩ |
      ⟨announced, _, revision⟩
    · have keptAfter : (watched.after request).template.component = _ := kept
      have madeAfter : (watched.after request).template.generated = _ := same.generated_eq
      rw [quiet, if_neg Bool.false_ne_true, keptAfter, madeAfter]
      exact fresh
    · rw [announced, if_pos rfl]
      exact Or.inl revision.component_eq

/-- Every run of calls keeps source fresh. -/
theorem fresh_run
    {watched : Watched}
    (fresh : watched.Fresh)
    (meets : watched.template.Meets .any)
    (requests : List Call)
    (meetsEach : ∀ request ∈ requests, request.Meets .any) :
    (requests.foldl Watched.after watched).Fresh := by
  induction requests generalizing watched with
  | nil => exact fresh
  | cons request rest ih =>
    exact ih (fresh.after meets request)
      (meets.run Standard.closed_any (meetsEach request List.mem_cons_self))
      fun other later => meetsEach other (List.mem_cons_of_mem _ later)

end Watched

/-- After any calls, refused ones included: an installed text that no call has outdated since is kept
and read; otherwise nothing is kept, or what is made from the present content, and reading gives
that. -/
theorem component_never_outdated
    (template : Template)
    (meets : template.Meets .any)
    (requests : List Call)
    (meetsEach : ∀ request ∈ requests, request.Meets .any) :
    let watched := requests.foldl Watched.after (.start template)
    let now := watched.template
    match watched.installed with
    | some text => now.component = some text ∧ now.readComponent.outcome = .ok text
    | none => (now.component = none ∨ now.component = some now.generated) ∧
        now.readComponent.outcome = .ok now.generated := by
  intro watched now
  have fresh := Watched.fresh_run (Watched.fresh_start template) meets requests meetsEach
  change Watched.Fresh watched at fresh
  unfold Watched.Fresh at fresh
  rw [now.readComponent_outcome]
  cases installed : watched.installed with
  | some text =>
    rw [installed] at fresh
    exact ⟨fresh, by rw [show now.component = some text from fresh]; rfl⟩
  | none =>
    rw [installed] at fresh
    refine ⟨fresh, ?_⟩
    rcases fresh with nothing | made
    · rw [show now.component = none from nothing]
      rfl
    · rw [show now.component = some now.generated from made]
      rfl

/-- The removal of an element that is not there and an edit that writes what is there leave an
installed text in force. -/
theorem component_holds_through_idle_calls :
    let template : Template :=
      ⟨{ id := "demo", name := "Demo" }, [], none, some "export default null;", 1⟩
    let requests : List Call := [.removeElement "title", .readComponent,
      .updateManifest (.obj [("name", .str "Demo")])]
    let now := (requests.foldl Watched.after (.start template)).template
    template.Meets .any ∧ (∀ request ∈ requests, request.Meets .any) ∧
      now.component = some "export default null;" ∧
      now.readComponent.outcome = .ok "export default null;" := by
  intro template requests now
  have meets : template.Meets .any := by
    refine ⟨⟨fun _ _ => trivial, trivial, ⟨trivial, Json.meets_nil, Json.meets_nil, ?_⟩, ?_,
      Json.meets_nil⟩, ?_, ?_⟩
    · exact fun _ _ => List.not_mem_nil
    all_goals exact fun _ none => nomatch none
  have meetsEach : ∀ request ∈ requests, request.Meets .any := by
    intro request member
    simp only [requests, List.mem_cons, List.not_mem_nil, or_false] at member
    rcases member with rfl | rfl | rfl
    · trivial
    · trivial
    · exact Json.meets_obj (List.nodup_singleton _) (by simp [Standard.any])
  have installed :
      (requests.foldl Watched.after (.start template)).installed = some "export default null;" := by
    decide +kernel
  have current := component_never_outdated template meets requests meetsEach
  dsimp only at current
  rw [installed] at current
  exact ⟨meets, meetsEach, current⟩

/-- The writing of a property that is there already changes nothing, and yet the installed text is
given up for what is made from the content. -/
theorem rewritten_property_drops_component :
    let property : SchemaProperty := ⟨"string", "Headline", .str "", []⟩
    let manifest : Manifest :=
      { id := "demo", name := "Demo", schema := ⟨"object", [("headline", property)], []⟩ }
    let template : Template := ⟨manifest, [], none, some "export default null;", 1⟩
    let after :=
      (template.run (.addProperty "headline" (.str "string") (.str "Headline") (.str ""))).template
    SameContent template after ∧ after.component = none ∧
      after.readComponent.outcome ≠ .ok "export default null;" := by
  decide +kernel

end Template
end BroadcastGraphics
