import BroadcastGraphics.Proofs.TemplateValidity

/-!
# Numbers of new elements

An addition gives the new element an id with a number.  It seeks the first number from the next one
on whose id no element has, and the search ends because only so many ids are in use.  The number that
is taken counts as used from then on, also when the addition is refused after all, so that the
numbers taken in the life of a template only go up: no id is made twice, whatever has become of the
element that had it.
-/

namespace BroadcastGraphics
namespace FreshName

variable {taken : List String} {name : Nat -> String}

/-- A search that goes on from a number as long as names are taken ends at a number. -/
inductive Ends (taken : List String) (name : Nat -> String) : Nat -> Nat -> Prop where
  | here {number : Nat} (free : name number ∉ taken) : Ends taken name number number
  | later {number last : Nat} (used : name number ∈ taken)
      (rest : Ends taken name (number + 1) last) : Ends taken name number last

/-- A search ends after as many steps as there are taken names before the first free one. -/
theorem ends_add
    {start steps : Nat}
    (used : ∀ step < steps, name (start + step) ∈ taken)
    (free : name (start + steps) ∉ taken) : Ends taken name start (start + steps) := by
  induction steps generalizing start with
  | zero => exact .here free
  | succ steps ih =>
    have shift (step : Nat) : start + 1 + step = start + (step + 1) := by omega
    refine .later (used 0 (Nat.succ_pos steps)) ?_
    rw [← shift steps] at free ⊢
    exact ih (fun step within => shift step ▸ used (step + 1) (Nat.succ_lt_succ within)) free

/-- When no two numbers give one name, every search ends, and it does so at the first free number. -/
theorem ends_firstFree
    (injective : Function.Injective name)
    (start : Nat) : Ends taken name start (firstFree taken name start) := by
  have later : start ≤ firstFree taken name start := le_firstFree start
  have free : name (firstFree taken name start) ∉ taken := name_firstFree_notMem injective start
  obtain ⟨steps, last⟩ := Nat.exists_eq_add_of_le later
  rw [last] at free ⊢
  refine ends_add (fun step within => ?_) free
  exact mem_of_lt_firstFree (Nat.le_add_right start step) (by omega)

end FreshName

namespace Template

/-! ## Calls that take a number -/

/-- The kind of the element that members describe. -/
def givenKind? (spec : Table Json) : Option ElementKind :=
  (Table.get? (Table.remove spec "id") "type").bind fun kind => (ElementKind.ofJson kind).toOption

/-- The call adds an element. -/
def Call.isAddition : Call -> Bool
  | .addElement _ => true
  | .addValidElement _ => true
  | _ => false

/-- The call comes to seek an id: it adds an element of a known kind. -/
def Call.seeksId : Call -> Bool
  | .addElement (.obj spec) => (givenKind? spec).isSome
  | .addValidElement spec => (Element.check spec).value?.isSome
  | _ => false

section Additions

variable (template : Template)

theorem givenKind?_members
    (element : Element) : givenKind? element.members = some element.kind := by
  have kind : Table.get? (Table.remove element.members "id") "type" =
      some (.str element.kind.name) := rfl
  unfold givenKind?
  rw [kind]
  cases element.kind <;> rfl

/-- An addition of an element of an unknown kind is refused at once; any other one appends. -/
theorem addElement_cases
    (spec : Table Json) :
    (givenKind? spec = none ∧ ∃ fault, template.addElement spec = .refused template fault) ∨
      ((givenKind? spec).isSome = true ∧
        ∃ members, template.addElement spec = template.append members) := by
  unfold addElement givenKind?
  dsimp only
  cases named : Table.get? (Table.remove spec "id") "type" with
  | none => exact Or.inl ⟨rfl, _, rfl⟩
  | some value =>
    dsimp only [Option.bind_some]
    cases ElementKind.ofJson value with
    | error fault => exact Or.inl ⟨rfl, fault, rfl⟩
    | ok kind => exact Or.inr ⟨rfl, _, rfl⟩

/-- An addition that seeks no id is refused and leaves the template as it is; any other one appends
an element. -/
theorem run_addition_cases
    {request : Call}
    (isAddition : request.isAddition = true) :
    (request.seeksId = false ∧ ∃ fault, template.run request = .refused template fault) ∨
      (request.seeksId = true ∧
        ∃ members, template.run request = (template.append members).map .element) := by
  cases request with
  | addElement value =>
    cases value with
    | obj spec =>
      have ran : template.run (.addElement (.obj spec)) =
          (template.addElement spec).map .element := rfl
      rw [ran]
      rcases template.addElement_cases spec with ⟨unknown, fault, refused⟩ | ⟨known, members, added⟩
      · exact Or.inl ⟨congrArg Option.isSome unknown, fault, refused ▸ rfl⟩
      · exact Or.inr ⟨known, members, added ▸ rfl⟩
    | _ => exact Or.inl ⟨rfl, .noMembers, rfl⟩
  | addValidElement value =>
    have ran : template.run (.addValidElement value) =
        (template.addValidSpec value).map .element := rfl
    rw [ran]
    unfold addValidSpec Call.seeksId
    dsimp only
    cases Element.check value with
    | refused issues => exact Or.inl ⟨rfl, _, rfl⟩
    | accepted element =>
      refine Or.inr ⟨rfl, ?_⟩
      rcases template.addElement_cases element.members with ⟨unknown, _⟩ | ⟨_, members, added⟩
      · cases (givenKind?_members element).symm.trans unknown
      · exact ⟨members, congrArg (Edit.map Answer.element) added⟩
  | _ => cases isAddition

theorem nextNumber_append
    (members : Table Json) :
    (template.append members).template.nextNumber = template.freeNumber + 1 := by
  unfold append
  dsimp only
  split <;> rfl

/-- An appended element has the id of the first free number. -/
theorem id_of_append
    {members : Table Json}
    {element : Element}
    (added : (template.append members).outcome = .ok element) :
    element.id = numberedId template.freeNumber := by
  unfold append at added
  dsimp only at added
  split at added
  · cases added
  · rename_i read
    cases added
    have given := Element.id_of_ofMembers ((Checked.orInvalid_eq_ok _ _ _).1 read)
    exact (Json.str.inj (Option.some.inj given)).symm

end Additions

/-! ## Calls that take none -/

section OtherCalls

variable (template : Template)

theorem nextNumber_removeElement
    (id : String) : (template.removeElement id).template.nextNumber = template.nextNumber := by
  unfold removeElement
  dsimp only
  split <;> rfl

theorem nextNumber_updateElement
    (id : String)
    (updates : Json) :
    (template.updateElement id updates).template.nextNumber = template.nextNumber := by
  unfold updateElement
  split
  · rfl
  split
  · rfl
  dsimp only
  split
  · rfl
  split
  · rfl
  split <;> rfl

theorem nextNumber_updateStyle
    (id : String)
    (style : Json) :
    (template.updateStyle id style).template.nextNumber = template.nextNumber := by
  unfold updateStyle
  split
  · rfl
  split
  · exact template.nextNumber_updateElement id _
  · rfl

theorem nextNumber_addProperty
    (name : String)
    (kind title default : Json) :
    (template.addProperty name kind title default).template.nextNumber = template.nextNumber := by
  unfold addProperty
  split
  · rfl
  dsimp only
  split <;> rfl

theorem nextNumber_removeProperty
    (name : String) : (template.removeProperty name).template.nextNumber = template.nextNumber := by
  unfold removeProperty
  split <;> rfl

theorem nextNumber_updateManifest
    (updates : Json) :
    (template.updateManifest updates).template.nextNumber = template.nextNumber := by
  unfold updateManifest
  split
  · split
    · rfl
    dsimp only
    split <;> rfl
  · rfl

theorem nextNumber_updateAnimation
    (updates : Json) :
    (template.updateAnimation updates).template.nextNumber = template.nextNumber := by
  unfold updateAnimation
  split
  · split
    · rfl
    split <;> rfl
  · rfl

theorem nextNumber_readComponent :
    template.readComponent.template.nextNumber = template.nextNumber := by
  unfold readComponent
  split <;> rfl

/-- A call that adds no element leaves the next number alone. -/
theorem nextNumber_run_of_not_isAddition
    {request : Call}
    (other : request.isAddition = false) :
    (template.run request).template.nextNumber = template.nextNumber := by
  cases request with
  | addElement spec => cases other
  | addValidElement spec => cases other
  | removeElement id => exact template.nextNumber_removeElement id
  | updateElement id updates => exact template.nextNumber_updateElement id updates
  | updateStyle id style => exact template.nextNumber_updateStyle id style
  | addProperty name kind title default =>
    exact template.nextNumber_addProperty name kind title default
  | removeProperty name => exact template.nextNumber_removeProperty name
  | updateManifest updates => exact template.nextNumber_updateManifest updates
  | updateAnimation updates => exact template.nextNumber_updateAnimation updates
  | setComponent source => rfl
  | readComponent => exact template.nextNumber_readComponent
  | getElement id => rfl
  | effectiveAnimation => rfl
  | description => rfl
  | whole =>
    rw [run]
    split <;> rfl
  | audit =>
    rw [run]
    split <;> rfl
  | reload =>
    rw [run]
    split <;> rfl

theorem seeksId_of_not_isAddition
    {request : Call}
    (other : request.isAddition = false) : request.seeksId = false := by
  cases request with
  | addElement spec => cases other
  | addValidElement spec => cases other
  | _ => rfl

end OtherCalls

/-! ## One call -/

section Call

variable (template : Template) (request : Call)

/-- The number that a call takes. -/
def takenNumber? : Option Nat :=
  if request.seeksId then some template.freeNumber else none

/-- The id of the element that an addition answers. -/
def givenId? : Option String :=
  match request.isAddition, (template.run request).outcome with
  | true, .ok (.element element) => some element.id
  | _, _ => none

/-- A call that takes a number uses up all numbers to that one; others use up none. -/
theorem nextNumber_run :
    (template.run request).template.nextNumber =
      if request.seeksId then template.freeNumber + 1 else template.nextNumber := by
  cases isAddition : request.isAddition with
  | true =>
    rcases template.run_addition_cases isAddition with ⟨no, fault, refused⟩ | ⟨yes, members, added⟩
    · rw [no, refused]
      rfl
    · rw [yes, added]
      exact template.nextNumber_append members
  | false =>
    rw [seeksId_of_not_isAddition isAddition]
    exact template.nextNumber_run_of_not_isAddition isAddition

/-- The taken number is not below the next one, and the next one after the call is above it. -/
theorem takenNumber?_between
    {number : Nat}
    (taken : template.takenNumber? request = some number) :
    template.nextNumber ≤ number ∧ number < (template.run request).template.nextNumber := by
  unfold takenNumber? at taken
  split at taken
  · rename_i seeks
    cases taken
    rw [nextNumber_run, if_pos seeks]
    exact ⟨FreshName.le_firstFree _, Nat.lt_succ_self _⟩
  · cases taken

theorem nextNumber_le_run :
    template.nextNumber ≤ (template.run request).template.nextNumber := by
  rw [nextNumber_run]
  split
  · exact Nat.le_succ_of_le (FreshName.le_firstFree _)
  · exact Nat.le_refl _

/-- The id that an addition gives has the number that it takes. -/
theorem givenId?_eq
    {id : String}
    (given : template.givenId? request = some id) :
    (template.takenNumber? request).map numberedId = some id := by
  unfold givenId? at given
  split at given
  · rename_i element isAddition answered
    cases given
    rcases template.run_addition_cases isAddition with ⟨_, fault, refused⟩ | ⟨seeks, members, added⟩
    · rw [refused] at answered
      cases answered
    · rw [added] at answered
      rw [takenNumber?, if_pos seeks]
      have outcome : (template.append members).outcome = .ok element := by
        change (template.append members).outcome.map Answer.element = _ at answered
        cases result : (template.append members).outcome with
        | error fault => rw [result] at answered; cases answered
        | ok other =>
          rw [result] at answered
          rw [Answer.element.inj (Except.ok.inj answered)]
      exact congrArg some (template.id_of_append outcome).symm
  · cases given

end Call

/-! ## The life of a template -/

/-- A template after some calls. -/
def afterAll (template : Template) (requests : List Call) : Template :=
  requests.foldl (fun template request => (template.run request).template) template

/-- The numbers that some calls take, one after the other. -/
def takenNumbers : Template -> List Call -> List Nat
  | _, [] => []
  | template, request :: rest =>
      (template.takenNumber? request).toList ++ takenNumbers (template.run request).template rest

/-- The ids of the elements that the additions among some calls answer. -/
def givenIds : Template -> List Call -> List String
  | _, [] => []
  | template, request :: rest =>
      (template.givenId? request).toList ++ givenIds (template.run request).template rest

/-- No number below the next one is taken any more. -/
theorem le_of_mem_takenNumbers
    {template : Template}
    {requests : List Call}
    {number : Nat}
    (member : number ∈ template.takenNumbers requests) : template.nextNumber ≤ number := by
  induction requests generalizing template with
  | nil => cases member
  | cons request rest ih =>
    rcases List.mem_append.1 member with now | later
    · exact (template.takenNumber?_between request (Option.mem_toList.1 now)).1
    · exact Nat.le_trans (template.nextNumber_le_run request) (ih later)

/-- The numbers that calls take only go up. -/
theorem pairwise_takenNumbers
    (template : Template)
    (requests : List Call) : (template.takenNumbers requests).Pairwise (· < ·) := by
  induction requests generalizing template with
  | nil => exact List.Pairwise.nil
  | cons request rest ih =>
    refine List.pairwise_append.2 ⟨?_, ih _, fun number now other later => ?_⟩
    · cases template.takenNumber? request with
      | none => exact List.Pairwise.nil
      | some number => exact List.pairwise_singleton _ number
    · have below := (template.takenNumber?_between request (Option.mem_toList.1 now)).2
      exact Nat.lt_of_lt_of_le below (le_of_mem_takenNumbers later)

/-- The ids that are given are those of the taken numbers, without the ones whose additions were
refused. -/
theorem givenIds_sublist
    (template : Template)
    (requests : List Call) :
    (template.givenIds requests).Sublist ((template.takenNumbers requests).map numberedId) := by
  induction requests generalizing template with
  | nil => exact List.Sublist.slnil
  | cons request rest ih =>
    rw [takenNumbers, List.map_append]
    refine List.Sublist.append ?_ (ih _)
    cases given : template.givenId? request with
    | none => exact List.nil_sublist _
    | some id =>
      have same := template.givenId?_eq request given
      cases taken : template.takenNumber? request with
      | none => rw [taken] at same; cases same
      | some number =>
        rw [taken] at same
        rw [← Option.some.inj same]
        exact List.Sublist.refl _

/-- In every life of a template, refused calls included: every search for the id of a new element
ends, at an id that no element has at that moment; the numbers that are taken only go up, and the ids
that additions give are those of taken numbers, so that no id is made twice. -/
theorem generated_ids_never_repeat
    (template : Template)
    (requests : List Call) :
    (∀ seen request rest, requests = seen ++ request :: rest -> request.seeksId = true ->
        let before := template.afterAll seen
        let inUse := before.elements.map Element.id
        FreshName.Ends inUse numberedId before.nextNumber before.freeNumber ∧
          numberedId before.freeNumber ∉ inUse) ∧
      (template.takenNumbers requests).Pairwise (· < ·) ∧
      (template.givenIds requests).Sublist ((template.takenNumbers requests).map numberedId) ∧
      ((template.takenNumbers requests).map numberedId).Nodup := by
  have injective : Function.Injective numberedId := stem_append_injective "element_"
  have rising := template.pairwise_takenNumbers requests
  refine ⟨fun seen request rest _ _ => ?_, rising, template.givenIds_sublist requests, ?_⟩
  · exact ⟨FreshName.ends_firstFree injective _, numberedId_freeNumber_notMem _⟩
  · exact (rising.imp Nat.ne_of_lt).map numberedId fun _ _ differ same => differ (injective same)

-- an element that takes over the id of the next number, and a refused addition
example :
    let template := ofSnapshot { manifest := { id := "demo", name := "Demo" }, elements := [] }
    let text : Table Json := [("type", .str "text")]
    let requests : List Call := [.addElement (.obj text),
      .updateElement "element_1" (.obj [("id", .str "element_2")]),
      .addElement (.obj (("x", .str "left") :: text)), .addElement (.obj text),
      .removeElement "element_4", .addElement (.obj text)]
    template.takenNumbers requests = [1, 3, 4, 5] ∧
      template.givenIds requests = ["element_1", "element_4", "element_5"] := by
  decide +kernel

end Template
end BroadcastGraphics
