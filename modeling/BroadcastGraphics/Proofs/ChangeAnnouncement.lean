import BroadcastGraphics.Proofs.TemplateEdit
import BroadcastGraphics.Template.Listeners
import Mathlib.Data.List.Nodup

/-!
# Edits are whole, and changes are announced once

Every edit of a template decides whether it is carried out before it touches anything.  An edit that
is refused or answers that there was nothing to do leaves the template with its component source and
tells nobody; an edit after which the written template differs has dropped the component source and
has told every listener exactly once, however often the listener subscribed.
-/

namespace BroadcastGraphics
namespace Template

/-! ## Announced edits answer yes -/

/-- An announced edit does not answer that there was nothing to do. -/
def AnswersYes {α : Type} (no : α) (edit : Edit α) : Prop :=
  edit.announced = true -> edit.outcome ≠ .ok no

theorem answersYes_refused
    {α : Type}
    (no : α)
    (template : Template)
    (fault : Fault) : AnswersYes no (.refused template fault) :=
  fun announced => nomatch announced

theorem answersYes_quiet
    {α : Type}
    (no : α)
    (template : Template)
    (answer : α) : AnswersYes no (.quiet template answer) :=
  fun announced => nomatch announced

theorem answersYes_changed
    (template : Template) : AnswersYes false (.changed template true) :=
  fun _ same => nomatch same

theorem removeElement_answersYes
    (template : Template)
    (id : String) : AnswersYes false (template.removeElement id) := by
  unfold removeElement
  dsimp only
  split
  · exact answersYes_quiet _ _ _
  · exact answersYes_changed _

theorem updateElement_answersYes
    (template : Template)
    (id : String)
    (updates : Json) : AnswersYes false (template.updateElement id updates) := by
  unfold updateElement
  split
  · exact answersYes_quiet _ _ _
  split
  · exact answersYes_refused _ _ _
  dsimp only
  split
  · exact answersYes_refused _ _ _
  split
  · exact answersYes_refused _ _ _
  split
  · exact answersYes_quiet _ _ _
  · exact answersYes_changed _

theorem updateStyle_answersYes
    (template : Template)
    (id : String)
    (style : Json) : AnswersYes false (template.updateStyle id style) := by
  unfold updateStyle
  split
  · exact answersYes_quiet _ _ _
  split
  · exact updateElement_answersYes _ _ _
  · exact answersYes_refused _ _ _

theorem removeProperty_answersYes
    (template : Template)
    (name : String) : AnswersYes false (template.removeProperty name) := by
  unfold removeProperty
  split
  · exact answersYes_changed _
  · exact answersYes_quiet _ _ _

/-- An answer of another form than yes and no is never no. -/
theorem answersYes_map
    {α : Type}
    (form : α -> Answer)
    (other : ∀ answer, form answer ≠ .flag false)
    (edit : Edit α) : AnswersYes (.flag false) (edit.map form) := by
  intro _ same
  change edit.outcome.map form = _ at same
  cases outcome : edit.outcome with
  | error fault => rw [outcome] at same; cases same
  | ok answer =>
    rw [outcome] at same
    exact other answer (Except.ok.inj same)

theorem answersYes_flag
    {edit : Edit Bool}
    (yes : AnswersYes false edit) : AnswersYes (.flag false) (edit.map Answer.flag) := by
  intro announced same
  change edit.outcome.map Answer.flag = _ at same
  cases outcome : edit.outcome with
  | error fault => rw [outcome] at same; cases same
  | ok answer =>
    rw [outcome] at same
    exact yes announced (outcome.trans (congrArg _ (Answer.flag.inj (Except.ok.inj same))))

theorem run_answersYes
    (template : Template)
    (request : Call) : AnswersYes (.flag false) (template.run request) := by
  cases request with
  | removeElement id => exact answersYes_flag (removeElement_answersYes template id)
  | updateElement id updates => exact answersYes_flag (updateElement_answersYes template id updates)
  | updateStyle id style => exact answersYes_flag (updateStyle_answersYes template id style)
  | removeProperty name => exact answersYes_flag (removeProperty_answersYes template name)
  | addElement spec => exact answersYes_map .element (fun _ => nofun) _
  | addValidElement spec => exact answersYes_map .element (fun _ => nofun) _
  | addProperty name kind title default => exact answersYes_map .property (fun _ => nofun) _
  | updateManifest updates => exact answersYes_map .manifest (fun _ => nofun) _
  | updateAnimation updates => exact answersYes_map .animation (fun _ => nofun) _
  | setComponent source => exact answersYes_map (fun _ => .nothing) (fun _ => nofun) _
  | readComponent => exact answersYes_map .text (fun _ => nofun) _
  | getElement id => exact answersYes_quiet _ _ _
  | effectiveAnimation => exact answersYes_quiet _ _ _
  | description => exact answersYes_quiet _ _ _
  | whole =>
    rw [run]
    split
    · exact answersYes_quiet _ _ _
    · exact answersYes_refused _ _ _
  | audit =>
    rw [run]
    split
    · exact answersYes_quiet _ _ _
    · exact answersYes_refused _ _ _
  | reload =>
    rw [run]
    split
    · exact answersYes_quiet _ _ _
    · exact answersYes_refused _ _ _

/-! ## Listeners -/

/-- What is written of a template beside its component source. -/
def writtenContent (template : Template) : Json × List Json × Json :=
  (template.manifest.toJson, template.elements.map Element.toJson,
    Snapshot.animationJson template.animation)

theorem SameContent.writtenContent_eq
    {left right : Template}
    (same : SameContent left right) : left.writtenContent = right.writtenContent := by
  unfold writtenContent
  rw [same.manifest, same.elements, same.animation]

namespace Followed

variable {Listener : Type} [DecidableEq Listener]

/-- The followed template comes of events on a template that nobody followed. -/
def Reached (followed : Followed Listener) : Prop :=
  ∃ (start : Template) (events : List (Event Listener)),
    followed = ({ template := start } : Followed Listener).run events

theorem nodup_step
    {followed : Followed Listener}
    (distinct : followed.listeners.Nodup)
    (event : Event Listener) : (followed.step event).listeners.Nodup := by
  cases event with
  | call request => exact distinct
  | unsubscribe listener => exact distinct.erase listener
  | subscribe listener =>
    rw [step, subscribe]
    split
    · exact distinct
    · rename_i absent
      refine List.nodup_append.2 ⟨distinct, List.nodup_singleton _, fun old isOld new isNew same => ?_⟩
      exact absent (List.mem_singleton.1 isNew ▸ same ▸ isOld)

/-- Nobody is on the list of listeners twice. -/
theorem nodup_run
    {followed : Followed Listener}
    (distinct : followed.listeners.Nodup)
    (events : List (Event Listener)) : (followed.run events).listeners.Nodup := by
  induction events generalizing followed with
  | nil => exact distinct
  | cons event rest ih => exact ih (nodup_step distinct event)

theorem Reached.nodup
    {followed : Followed Listener}
    (reached : followed.Reached) : followed.listeners.Nodup := by
  obtain ⟨start, events, rfl⟩ := reached
  exact nodup_run List.nodup_nil events

end Followed
end Template
end BroadcastGraphics
