import BroadcastGraphics.Proofs.StageContent
import BroadcastGraphics.Stage.Command

/-!
# Commands for the stage, one by one

What each command does: to the graphic that it is relayed to, to the table of mounted graphics, and to
the data that are kept for the templates.
-/

namespace BroadcastGraphics
namespace Stage

/-- A stage on which the graphic with a number was loaded again and given the data sent to it. -/
def reloaded (stage : Stage) (id : String) (number : Nat) : Stage :=
  (stage.change number Playback.load).1.replay id number

/-- A stage that keeps data for a template, as many of them as could be written. -/
def remembering (stage : Stage) (id : String) (data : Json) : Stage :=
  { stage with
    previewData :=
      Table.put stage.previewData id (Json.putMembers (stage.dataOf id) data).1 }

/-- The template of a command that is relayed to the graphic mounted for it. -/
def Command.target? : Command -> Option String
  | .load id => some id
  | .dispose id => some id
  | .play id _ => some id
  | .stop id _ => some id
  | .update id _ => some id
  | .custom id _ => some id
  | _ => none

/-- The stage after a command that is relayed to the graphic with a number. -/
def relayed (stage : Stage) (id : String) (number : Nat) (playback : Playback) : Command -> Stage
  | .load _ => stage.reloaded id number
  | .dispose _ => (stage.change number Playback.dispose).1
  | .play _ skip => ((stage.ensureLoaded id number).change number (Playback.play number skip)).1
  | .stop _ skip =>
      if playback.isVisible then (stage.change number (Playback.stop number skip)).1 else stage
  | .update _ data =>
      match (Json.putMembers (stage.dataOf id) data).2 with
      | .ok () => ((stage.remembering id data).change number (Playback.update data)).1
      | .error _ => stage.remembering id data
  | .custom _ action =>
      ((stage.ensureLoaded id number).change number (Playback.custom number action)).1
  | _ => stage

section Commands

variable {stage : Stage} {id : String} {number : Nat}

theorem isMounted_of_number?
    (mounted : stage.number? id = some number) : stage.isMounted id = true :=
  Option.isSome_iff_exists.2 ⟨number, mounted⟩

/-! ## Taking down and mounting -/

/-- A graphic that is taken down is disposed of before it is forgotten. -/
theorem withdraw_of_mounted
    (mounted : stage.number? id = some number) :
    stage.withdraw id =
      { (stage.change number Playback.dispose).1 with
        mounted := Table.remove stage.mounted id } := by
  unfold withdraw
  rw [mounted]
  rfl

theorem withdraw_of_free
    (free : stage.number? id = none) : stage.withdraw id = stage := by
  unfold withdraw
  rw [free]

/-- The graphics after a template was mounted: the last one is new. -/
theorem troupe_mount
    (stage : Stage)
    (template : Template) :
    (stage.mount template).1.troupe =
      (stage.withdraw template.id).troupe.add
        (Playback.make template.id template.elements template.animation) := by
  unfold mount withdraw number?
  dsimp only
  split <;> rfl

/-! ## Commands for mounted graphics -/

theorem number?_ensureLoaded
    (mounted : stage.number? id = some number) :
    (stage.ensureLoaded id number).number? id = some number := by
  unfold number?
  rw [(stage.alike_ensureLoaded id number).mounted]
  exact mounted

theorem require_of_mounted
    (mounted : stage.number? id = some number) : stage.require id = .ok number := by
  unfold require
  rw [mounted]

theorem require_of_free
    (free : stage.number? id = none) : stage.require id = .error (.notMounted id) := by
  unfold require
  rw [free]

theorem load_of_mounted
    (mounted : stage.number? id = some number) :
    stage.load id = .ok (stage.reloaded id number, (stage.change number Playback.load).2) := by
  unfold load
  rw [require_of_mounted mounted]
  rfl

theorem dispose_of_mounted
    (mounted : stage.number? id = some number) :
    stage.dispose id = .ok (stage.change number Playback.dispose) := by
  unfold dispose
  rw [require_of_mounted mounted]
  rfl

theorem play_of_mounted
    (mounted : stage.number? id = some number)
    (skip : Bool) :
    stage.play id skip =
      .ok ((stage.ensureLoaded id number).change number (Playback.play number skip)) := by
  unfold play
  rw [require_of_mounted mounted]
  rfl

theorem custom_of_mounted
    (mounted : stage.number? id = some number)
    (action : String) :
    stage.custom id action =
      .ok ((stage.ensureLoaded id number).change number (Playback.custom number action)) := by
  unfold custom
  rw [require_of_mounted mounted]
  rfl

theorem stop_of_mounted
    {playback : Playback}
    (mounted : stage.number? id = some number)
    (present : stage.troupe.graphic? number = some playback)
    (skip : Bool) :
    stage.stop id skip =
      .ok (if playback.isVisible then stage.change number (Playback.stop number skip)
        else (stage, .settled .noop)) := by
  unfold stop
  rw [require_of_mounted mounted]
  change (if ((stage.troupe.graphic? number).map Playback.isVisible).getD false then _ else _) = _
  rw [present]
  exact (apply_ite Except.ok _ _ _).symm

/-- Data that are sent are kept first, and then given to the graphic unless the writing broke off. -/
theorem update_of_mounted
    (mounted : stage.number? id = some number)
    (data : Json) :
    stage.update id data =
      .ok (match (Json.putMembers (stage.dataOf id) data).2 with
        | .ok () => (stage.remembering id data).change number (Playback.update data)
        | .error fault => (stage.remembering id data, .failed fault)) := by
  unfold update remembering
  rw [require_of_mounted mounted]
  obtain ⟨sent, _ | _⟩ := Json.putMembers (stage.dataOf id) data <;> rfl

@[simp] theorem orUnchanged_ok
    (stage after : Stage)
    (completion : Completion) : (stage.orUnchanged (.ok (after, completion))).1 = after := by
  cases completion <;> rfl

/-- A command for a template without a graphic is refused. -/
theorem perform_of_free
    {command : Command}
    (target : command.target? = some id)
    (free : stage.number? id = none) : stage.perform command = (stage, .error (.notMounted id)) := by
  have refused := require_of_free free
  cases command <;> cases target
  case load => simp only [perform, load, refused]; rfl
  case dispose => simp only [perform, dispose, refused]; rfl
  case play => simp only [perform, play, refused]; rfl
  case stop => simp only [perform, stop, refused]; rfl
  case update => simp only [perform, update, refused]; rfl
  case custom => simp only [perform, custom, refused]; rfl

/-- What a command does that is relayed to the graphic of a template. -/
theorem perform_of_mounted
    {command : Command}
    {playback : Playback}
    (target : command.target? = some id)
    (mounted : stage.number? id = some number)
    (present : stage.troupe.graphic? number = some playback) :
    (stage.perform command).1 = stage.relayed id number playback command := by
  cases command <;> cases target
  case load => rw [perform, load_of_mounted mounted, orUnchanged_ok, relayed]
  case dispose => rw [perform, dispose_of_mounted mounted, orUnchanged_ok, relayed]
  case play => rw [perform, play_of_mounted mounted, orUnchanged_ok, relayed]
  case stop =>
    rw [perform, stop_of_mounted mounted present, relayed]
    split <;> rw [orUnchanged_ok]
  case update data =>
    rw [perform, update_of_mounted mounted, relayed]
    split <;> rw [orUnchanged_ok]
  case custom => rw [perform, custom_of_mounted mounted, orUnchanged_ok, relayed]

/-! ## What is mounted, and which data are kept -/

theorem alike_orUnchanged
    {result : Except Fault (Stage × Completion)}
    (alike : ∀ {after completion}, result = .ok (after, completion) -> Alike stage after) :
    Alike stage (stage.orUnchanged result).1 := by
  cases result with
  | error fault => exact Alike.refl stage
  | ok done =>
    obtain ⟨after, completion⟩ := done
    rw [orUnchanged_ok]
    exact alike rfl

/-- Commands that are relayed to graphics change neither which are mounted nor what they are made
of. -/
theorem alike_perform
    {command : Command}
    (target : command.target? = some id) : Alike stage (stage.perform command).1 := by
  cases command <;> cases target
  case load => exact alike_orUnchanged alike_load
  case dispose => exact alike_orUnchanged alike_dispose
  case play => exact alike_orUnchanged alike_play
  case stop => exact alike_orUnchanged alike_stop
  case update data => exact alike_orUnchanged (alike_update data)
  case custom => exact alike_orUnchanged alike_custom

theorem isMounted_withdraw
    (stage : Stage)
    (id other : String) :
    (stage.withdraw id).isMounted other = (decide (id ≠ other) && stage.isMounted other) := by
  rw [isMounted, number?_withdraw]
  by_cases same : id = other
  · rw [if_pos same, decide_eq_false (not_not_intro same), Bool.false_and]
    rfl
  · rw [if_neg same, decide_eq_true same, Bool.true_and]
    rfl

theorem isMounted_mount
    (stage : Stage)
    (template : Template)
    (other : String) :
    (stage.mount template).1.isMounted other =
      (decide (template.id = other) || stage.isMounted other) := by
  rw [isMounted, number?_mount]
  by_cases same : template.id = other
  · rw [if_pos same, decide_eq_true same, Bool.true_or]
    rfl
  · rw [if_neg same, decide_eq_false same, Bool.false_or]
    rfl

theorem isMounted_refresh
    (stage : Stage)
    (template : Template)
    (other : String) :
    (stage.refresh template).1.isMounted other =
      (decide (template.id = other) || stage.isMounted other) := by
  cases mounted : stage.number? template.id with
  | none =>
    rw [refresh, mounted]
    exact stage.isMounted_mount template other
  | some number =>
    rw [isMounted, number?, (refresh_of_mounted mounted).1]
    by_cases same : template.id = other
    · rw [← same, decide_eq_true rfl, Bool.true_or]
      exact isMounted_of_number? mounted
    · rw [decide_eq_false same, Bool.false_or]
      rfl

theorem isMounted_relay
    {command : Command}
    (target : command.target? = some id)
    (other : String) : (stage.perform command).1.isMounted other = stage.isMounted other := by
  unfold isMounted number?
  rw [(alike_perform target).mounted]

/-- For which templates a graphic is mounted after a command. -/
theorem isMounted_perform
    (stage : Stage)
    (command : Command)
    (other : String) :
    (stage.perform command).1.isMounted other =
      match command with
      | .mount template => decide (template.id = other) || stage.isMounted other
      | .refresh template => decide (template.id = other) || stage.isMounted other
      | .unmount id => decide (id ≠ other) && stage.isMounted other
      | _ => stage.isMounted other := by
  cases command with
  | mount template => exact stage.isMounted_mount template other
  | refresh template => exact stage.isMounted_refresh template other
  | unmount id => exact isMounted_withdraw _ id other
  | clearData id => rfl
  | load | dispose | play | stop | update | custom => exact isMounted_relay rfl other
  | advance span =>
    rw [perform]
    split <;> rfl

theorem previewData_withdraw
    (stage : Stage)
    (id : String) : (stage.withdraw id).previewData = stage.previewData := by
  unfold withdraw
  split <;> rfl

theorem previewData_mount
    (stage : Stage)
    (template : Template) : (stage.mount template).1.previewData = stage.previewData :=
  previewData_withdraw _ template.id

theorem previewData_refresh
    (stage : Stage)
    (template : Template) : (stage.refresh template).1.previewData = stage.previewData := by
  unfold refresh
  split
  · rfl
  · exact stage.previewData_mount template

theorem previewData_replay
    (stage : Stage)
    (id : String)
    (number : Nat) : (stage.replay id number).previewData = stage.previewData := by
  unfold replay
  dsimp only
  split <;> rfl

theorem previewData_ensureLoaded
    (stage : Stage)
    (id : String)
    (number : Nat) : (stage.ensureLoaded id number).previewData = stage.previewData := by
  unfold ensureLoaded
  split
  · split
    · exact previewData_replay _ id number
    · rfl
  · rfl

theorem previewData_orUnchanged
    {result : Except Fault (Stage × Completion)}
    (same : ∀ {after completion}, result = .ok (after, completion) ->
      after.previewData = stage.previewData) :
    (stage.orUnchanged result).1.previewData = stage.previewData := by
  cases result with
  | error fault => rfl
  | ok done =>
    obtain ⟨after, completion⟩ := done
    rw [orUnchanged_ok]
    exact same rfl

/-- The data that are kept after a command: they are forgotten on request and with the graphic, and
only an update writes some. -/
theorem previewData_perform
    (stage : Stage)
    (command : Command) :
    (stage.perform command).1.previewData =
      match command with
      | .unmount id => Table.remove stage.previewData id
      | .clearData id => Table.remove stage.previewData id
      | .update id data =>
          if stage.isMounted id then
            Table.put stage.previewData id (Json.putMembers (stage.dataOf id) data).1
          else stage.previewData
      | _ => stage.previewData := by
  cases command with
  | mount template => exact stage.previewData_mount template
  | refresh template => exact stage.previewData_refresh template
  | unmount id => exact previewData_withdraw _ id
  | clearData id => rfl
  | load id =>
    refine previewData_orUnchanged fun done => ?_
    obtain ⟨number, _, done⟩ := ok_of_bind done
    cases done
    exact previewData_replay _ id number
  | dispose id =>
    refine previewData_orUnchanged fun done => ?_
    obtain ⟨number, _, done⟩ := ok_of_bind done
    cases done
    rfl
  | play id skip =>
    refine previewData_orUnchanged fun done => ?_
    obtain ⟨number, _, done⟩ := ok_of_bind done
    cases done
    exact previewData_ensureLoaded stage id number
  | stop id skip =>
    refine previewData_orUnchanged fun done => ?_
    obtain ⟨number, _, done⟩ := ok_of_bind done
    dsimp only at done
    split at done <;> cases done <;> rfl
  | update id data =>
    cases mounted : stage.number? id with
    | none =>
      have free : stage.isMounted id = false := congrArg Option.isSome mounted
      rw [perform_of_free rfl mounted]
      exact (if_neg (ne_true_of_eq_false free)).symm
    | some number =>
      refine Eq.trans ?_ (if_pos (isMounted_of_number? mounted)).symm
      rw [perform, update_of_mounted mounted]
      split <;> exact congrArg Stage.previewData (orUnchanged_ok ..)
  | custom id action =>
    refine previewData_orUnchanged fun done => ?_
    obtain ⟨number, _, done⟩ := ok_of_bind done
    cases done
    exact previewData_ensureLoaded stage id number
  | advance span =>
    rw [perform]
    split <;> rfl

end Commands

end Stage
end BroadcastGraphics
