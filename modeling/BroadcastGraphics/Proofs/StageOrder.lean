import BroadcastGraphics.Proofs.SharedClock
import BroadcastGraphics.Proofs.StageCommands
import Mathlib.Data.List.Nodup
import Mathlib.Data.List.Perm.Subperm

/-!
# The order that the stage keeps

Whatever is asked of a stage, in any order and with the clock moving in between, a graphic plays only
when it is loaded and is stopped only while it is shown, a template has at most one graphic, and a
graphic that was replaced or taken down is disposed of and has nothing under way.  So there are never
more timers that still have to fire than mounted graphics.

The invariant joins the link between graphics and clock with what is known of the graphics that are
not mounted any more.
-/

namespace BroadcastGraphics

namespace Troupe

variable {troupe : Troupe} {number : Nat} {playback : Playback}

theorem graphic?_change_self
    (present : troupe.graphic? number = some playback)
    (command : Playback -> Schedule -> (Playback × Schedule) × Completion) :
    (troupe.change number command).1.graphic? number =
      some (command playback troupe.schedule).1.1 := by
  rw [graphics_change present, graphic?_set present, if_pos rfl]

theorem graphic?_change_of_ne
    {other : Nat}
    (apart : number ≠ other)
    (command : Playback -> Schedule -> (Playback × Schedule) × Completion) :
    (troupe.change number command).1.graphic? other = troupe.graphic? other := by
  cases present : troupe.graphic? number with
  | none =>
    unfold change
    rw [present]
  | some playback => rw [graphics_change present, graphic?_set present, if_neg apart]

theorem completion_change
    (present : troupe.graphic? number = some playback)
    (command : Playback -> Schedule -> (Playback × Schedule) × Completion) :
    (troupe.change number command).2 = (command playback troupe.schedule).2 := by
  unfold change
  rw [present]

theorem length_graphics_change
    (troupe : Troupe)
    (number : Nat)
    (command : Playback -> Schedule -> (Playback × Schedule) × Completion) :
    (troupe.change number command).1.graphics.length = troupe.graphics.length := by
  unfold change
  split
  · rfl
  · exact List.length_set

/-- After a move of the clock every graphic stands as it did before. -/
theorem Linked.standing_advance
    (linked : troupe.Linked)
    (span : Binary64)
    (present : (troupe.advance span).1.graphic? number = some playback) :
    ∃ before, troupe.graphic? number = some before ∧ before.standing = playback.standing := by
  have same := congrArg (·[number]?) (linked.advance span).2
  rw [List.getElem?_map, List.getElem?_map] at same
  rw [graphic?] at present
  rw [present, Option.map_some] at same
  exact Option.map_eq_some_iff.1 same.symm

end Troupe

namespace Playback

/-- A graphic that is not disposed of comes in when it plays. -/
theorem play_of_loaded
    {playback : Playback}
    (loaded : playback.phase.isLoaded = true)
    (graphic : Nat)
    (skip : Bool)
    (schedule : Schedule) :
    (playback.play graphic skip schedule).1.1.phase = (if skip then .visible else .animatingIn) ∧
      (playback.play graphic skip schedule).2 ≠ .settled .noop := by
  unfold play
  rw [if_neg (Phase.ne_disposed_of_isLoaded loaded)]
  cases skip with
  | true => exact ⟨rfl, fun same => by cases same⟩
  | false =>
    simp only [Bool.false_eq_true, if_false]
    unfold startMovement
    cases Binary64.nearest? _ <;> exact ⟨rfl, fun same => by cases same⟩

theorem data_refreshed
    (playback : Playback) : playback.refreshed.data = playback.data := by
  unfold refreshed
  split <;> rfl

/-- Data for a graphic that is not disposed of are written over those that it has. -/
theorem data_update
    {playback : Playback}
    (usable : playback.phase ≠ .disposed)
    (members : Table Json)
    (schedule : Schedule) :
    (playback.update (.obj members) schedule).1.1.data = Table.merge playback.data members := by
  unfold update
  rw [if_neg usable]
  cases members with
  | nil => exact data_refreshed _
  | cons first rest => exact data_refreshed _

end Playback

namespace Stage

/-- A stage without previews, with tags that may be defined already, on a clock without timers. -/
def opening (registry : Registry) (now : Binary64) : Stage :=
  { registry := registry, troupe := { schedule := { timeline := { now := now } } } }

/-- The stage after some commands. -/
def performAll (commands : List Command) (stage : Stage) : Stage :=
  commands.foldl (fun stage command => (stage.perform command).1) stage

/-! ## The invariant -/

/-- Graphics and clock are linked, mounted graphics are there and belong to one template each, and the
other graphics are disposed of. -/
structure Staffed (stage : Stage) : Prop extends Sound stage where
  linked : stage.troupe.Linked
  distinct : Table.Distinct stage.mounted
  withdrawn : ∀ {number playback}, stage.troupe.graphic? number = some playback ->
    (∀ id, stage.number? id ≠ some number) -> playback.phase = .disposed

section Staffed

variable {stage : Stage} {id : String} {number : Nat}

theorem staffed_opening
    (registry : Registry)
    (now : Binary64) : (opening registry now).Staffed where
  inRange mounted := nomatch mounted
  single mounted := nomatch mounted
  linked := ⟨fun _ waits => (nomatch waits), List.nodup_nil, fun present => (nomatch present)⟩
  distinct := Table.distinct_nil
  withdrawn present := nomatch present

theorem troupe_change
    (stage : Stage)
    (number : Nat)
    (command : Playback -> Schedule -> (Playback × Schedule) × Completion) :
    (stage.change number command).1.troupe = (stage.troupe.change number command).1 := rfl

/-- A mounted graphic is there. -/
theorem Sound.present
    (sound : stage.Sound)
    (mounted : stage.number? id = some number) :
    ∃ playback, stage.troupe.graphic? number = some playback :=
  ⟨_, List.getElem?_eq_getElem (stage.length_contents ▸ sound.inRange mounted)⟩

/-- A command for a mounted graphic. -/
theorem Staffed.run
    (staffed : stage.Staffed)
    (mounted : stage.number? id = some number)
    (command : Playback.Command) :
    (stage.change number fun playback schedule =>
      playback.run number schedule command).1.Staffed where
  toSound := by
    refine staffed.toSound.congr rfl ?_
    rw [length_contents, length_contents, troupe_change]
    exact stage.troupe.length_graphics_change number _
  linked := staffed.linked.run number command
  distinct := staffed.distinct
  withdrawn {other playback} present free := by
    have apart : number ≠ other := fun same => free id (same ▸ mounted)
    rw [troupe_change, Troupe.graphic?_change_of_ne apart] at present
    exact staffed.withdrawn present free

/-- It makes no difference which data are kept, or which tags are defined. -/
theorem Staffed.congr
    {after : Stage}
    (staffed : stage.Staffed)
    (troupe : after.troupe = stage.troupe)
    (mounted : after.mounted = stage.mounted) : after.Staffed := by
  obtain ⟨schedule, registry, _, data⟩ := after
  cases troupe
  cases mounted
  exact { staffed.toSound.congr rfl rfl with
    linked := staffed.linked, distinct := staffed.distinct, withdrawn := staffed.withdrawn }

theorem Staffed.advance
    (staffed : stage.Staffed)
    (span : Binary64) : (stage.advance span).1.Staffed where
  toSound := by
    refine staffed.toSound.congr rfl ?_
    rw [length_contents, length_contents]
    have same := congrArg List.length (staffed.linked.advance span).2
    rwa [List.length_map, List.length_map] at same
  linked := (staffed.linked.advance span).1
  distinct := staffed.distinct
  withdrawn {number playback} present free := by
    obtain ⟨before, isBefore, same⟩ := staffed.linked.standing_advance span present
    have gone := staffed.withdrawn isBefore free
    have disposed := congrArg (·.2.2) same
    unfold Playback.standing at disposed
    rw [gone, decide_eq_true rfl] at disposed
    exact of_decide_eq_true disposed.symm

/-! ### Mounting -/

theorem Staffed.withdraw
    (staffed : stage.Staffed)
    (id : String) : (stage.withdraw id).Staffed := by
  cases mounted : stage.number? id with
  | none =>
    rw [withdraw_of_free mounted]
    exact staffed
  | some number =>
    have disposed := staffed.run mounted .dispose
    obtain ⟨playback, present⟩ := staffed.toSound.present mounted
    refine { staffed.toSound.withdraw id with linked := ?_, distinct := ?_, withdrawn := ?_ }
    · rw [withdraw_of_mounted mounted]
      exact disposed.linked
    · rw [mounted_withdraw]
      exact staffed.distinct.remove id
    · intro other found isFound free
      rw [withdraw_of_mounted mounted] at isFound
      by_cases here : number = other
      · subst here
        cases isFound.symm.trans (Troupe.graphic?_change_self present Playback.dispose)
        rfl
      · refine disposed.withdrawn isFound fun name isName => free name ?_
        rw [number?_withdraw, if_neg]
        · exact isName
        · rintro rfl
          exact here (Option.some.inj (mounted.symm.trans isName))

theorem Staffed.mount
    (staffed : stage.Staffed)
    (template : Template) : (stage.mount template).1.Staffed := by
  have withdrawn := staffed.withdraw template.id
  refine { staffed.toSound.mount template with linked := ?_, distinct := ?_, withdrawn := ?_ }
  · rw [troupe_mount]
    exact withdrawn.linked.add rfl rfl
  · rw [mounted_mount]
    exact (staffed.distinct.remove _).put _ _
  · intro number playback present free
    have count := length_graphics_withdraw stage template.id
    rw [troupe_mount] at present
    rcases Nat.lt_trichotomy number stage.troupe.graphics.length with inside | last | outside
    · rw [← count] at inside
      refine withdrawn.withdrawn ((List.getElem?_append_left inside).symm.trans present) ?_
      intro id mounted
      refine free id ?_
      rw [number?_withdraw] at mounted
      rw [number?_mount]
      split at mounted
      · cases mounted
      · rename_i apart
        rw [if_neg apart]
        exact mounted
    · refine absurd ?_ (free template.id)
      rw [number?_mount, if_pos rfl, last]
    · have inside := (List.getElem?_eq_some_iff.1 present).1
      rw [Troupe.add, List.length_append, List.length_singleton, count] at inside
      omega

theorem Staffed.refresh
    (staffed : stage.Staffed)
    (template : Template) : (stage.refresh template).1.Staffed := by
  unfold Stage.refresh
  split
  · rename_i number mounted
    exact staffed.run mounted (.replaceContent template.elements template.animation)
  · exact staffed.mount template

theorem Staffed.unmount
    (staffed : stage.Staffed)
    (id : String) : (stage.unmount id).1.Staffed := by
  have forgotten : Staffed { stage with previewData := Table.remove stage.previewData id } :=
    staffed.congr rfl rfl
  exact forgotten.withdraw id

/-! ### Commands for mounted graphics -/

theorem Staffed.replay
    (staffed : stage.Staffed)
    (mounted : stage.number? id = some number) : (stage.replay id number).Staffed := by
  unfold Stage.replay
  dsimp only
  split
  · exact staffed
  · exact staffed.run mounted (.update (.obj (stage.dataOf id)))

theorem Staffed.reloaded
    (staffed : stage.Staffed)
    (mounted : stage.number? id = some number) : (stage.reloaded id number).Staffed :=
  (staffed.run mounted .load).replay mounted

theorem Staffed.ensureLoaded
    (staffed : stage.Staffed)
    (mounted : stage.number? id = some number) : (stage.ensureLoaded id number).Staffed := by
  unfold Stage.ensureLoaded
  split
  · split
    · exact staffed.reloaded mounted
    · exact staffed
  · exact staffed

/-- A command that is relayed to the graphic of a template, if there is one. -/
theorem Staffed.relay
    (staffed : stage.Staffed)
    {command : Command}
    (target : command.target? = some id) : (stage.perform command).1.Staffed := by
  cases mounted : stage.number? id with
  | none =>
    rw [perform_of_free target mounted]
    exact staffed
  | some number =>
    obtain ⟨playback, present⟩ := staffed.toSound.present mounted
    have kept (data : Json) : (stage.remembering id data).Staffed := staffed.congr rfl rfl
    have ready := staffed.ensureLoaded mounted
    have stays := number?_ensureLoaded mounted
    rw [perform_of_mounted target mounted present]
    cases command <;> cases target
    case some.load => exact staffed.reloaded mounted
    case some.dispose => exact staffed.run mounted .dispose
    case some.play skip => exact ready.run stays (.play skip)
    case some.stop skip =>
      rw [relayed]
      split
      · exact staffed.run mounted (.stop skip)
      · exact staffed
    case some.update data =>
      rw [relayed]
      split
      · exact (kept data).run mounted (.update data)
      · exact kept data
    case some.custom action => exact ready.run stays (.custom action)

/-- Whatever is asked of a stage, it stays staffed. -/
theorem Staffed.perform
    (staffed : stage.Staffed)
    (command : Command) : (stage.perform command).1.Staffed := by
  cases command with
  | mount template => exact staffed.mount template
  | refresh template => exact staffed.refresh template
  | unmount id => exact staffed.unmount id
  | clearData id => exact staffed.congr rfl rfl
  | load | dispose | play | stop | update | custom => exact staffed.relay rfl
  | advance span =>
    rw [Stage.perform]
    split
    · exact staffed
    · exact staffed.advance _

theorem Staffed.performAll
    (staffed : stage.Staffed)
    (commands : List Command) : (performAll commands stage).Staffed := by
  induction commands generalizing stage with
  | nil => exact staffed
  | cons command rest ih => exact ih (staffed.perform command)

/-! ## Graphics that are ready to play -/

variable {playback : Playback}

/-- Data that are given to a graphic again are written over those that it has. -/
theorem graphic?_replay
    (present : stage.troupe.graphic? number = some playback)
    (usable : playback.phase ≠ .disposed)
    (id : String) :
    ∃ informed, (stage.replay id number).troupe.graphic? number = some informed ∧
      informed.phase = playback.phase ∧
      informed.data = Table.merge playback.data (stage.dataOf id) := by
  unfold replay
  dsimp only
  split
  · rename_i nothing
    rw [List.isEmpty_iff.1 nothing]
    exact ⟨playback, present, rfl, rfl⟩
  · let update := Playback.update (.obj (stage.dataOf id))
    refine ⟨_, Troupe.graphic?_change_self present update, ?_, ?_⟩
    · exact (Playback.update_spares (.obj (stage.dataOf id))).phase
    · exact Playback.data_update usable _ stage.troupe.schedule

/-- A graphic that was loaded again is hidden and has the data sent to it. -/
theorem graphic?_reloaded
    (present : stage.troupe.graphic? number = some playback)
    (id : String) :
    ∃ ready, (stage.reloaded id number).troupe.graphic? number = some ready ∧
      ready.phase = .hidden ∧ ready.data = Table.merge [] (stage.dataOf id) := by
  have loaded : (stage.change number Playback.load).1.troupe.graphic? number = some _ :=
    Troupe.graphic?_change_self present Playback.load
  exact graphic?_replay loaded (fun disposed => by cases disposed) id

/-- A graphic that cannot play is loaded again. -/
theorem ensureLoaded_eq
    (present : stage.troupe.graphic? number = some playback)
    (id : String) :
    stage.ensureLoaded id number =
      if playback.phase.isLoaded then stage else stage.reloaded id number := by
  unfold ensureLoaded reloaded
  rw [present]
  cases phase : playback.phase <;> simp [phase, Phase.isLoaded]

/-- A graphic is loaded when it is about to play. -/
theorem isLoaded_ensureLoaded
    (present : stage.troupe.graphic? number = some playback)
    (id : String) :
    ∃ ready, (stage.ensureLoaded id number).troupe.graphic? number = some ready ∧
      ready.phase.isLoaded = true := by
  rw [ensureLoaded_eq present]
  split
  · rename_i loaded
    exact ⟨playback, present, loaded⟩
  · obtain ⟨ready, isReady, phase, _⟩ := graphic?_reloaded present id
    exact ⟨ready, isReady, congrArg Phase.isLoaded phase⟩

end Staffed

/-! ## Data of mounted templates -/

/-- Data are kept only for templates that are mounted. -/
def Informed (stage : Stage) : Prop :=
  ∀ id, stage.isMounted id = false -> Table.get? stage.previewData id = none

theorem informed_opening
    (registry : Registry)
    (now : Binary64) : (opening registry now).Informed :=
  fun _ _ => rfl

theorem Informed.perform
    {stage : Stage}
    (informed : stage.Informed)
    (command : Command) : (stage.perform command).1.Informed := by
  intro other free
  rw [isMounted_perform] at free
  rw [previewData_perform]
  cases command with
  | mount template => exact informed other (Bool.or_eq_false_iff.1 free).2
  | refresh template => exact informed other (Bool.or_eq_false_iff.1 free).2
  | unmount id =>
    dsimp only at free ⊢
    rw [Table.get?_remove]
    split
    · rfl
    · rename_i apart
      rw [decide_eq_true apart, Bool.true_and] at free
      exact informed other free
  | clearData id =>
    dsimp only
    rw [Table.get?_remove, informed other free, ite_self]
  | update id data =>
    dsimp only
    split
    · rename_i mounted
      rw [Table.get?_put, if_neg, informed other free]
      rintro rfl
      exact Bool.false_ne_true (free.symm.trans mounted)
    · exact informed other free
  | load | dispose | play | stop | custom | advance => exact informed other free

theorem Informed.performAll
    {stage : Stage}
    (informed : stage.Informed)
    (commands : List Command) : (performAll commands stage).Informed := by
  induction commands generalizing stage with
  | nil => exact informed
  | cons command rest ih => exact ih (informed.perform command)

/-! ## The contract -/

section Contract

variable {stage : Stage} {id : String} {number : Nat}

/-- A graphic that is not mounted is disposed of and has nothing under way. -/
theorem Staffed.rests
    (staffed : stage.Staffed)
    {playback : Playback}
    (present : stage.troupe.graphic? number = some playback)
    (free : ∀ id, stage.number? id ≠ some number) :
    playback.phase = .disposed ∧ playback.isMoving stage.troupe.schedule = false ∧
      ∀ timer ∈ stage.troupe.schedule.timeline.waiting, timer.action.graphic ≠ number := by
  have disposed := staffed.withdrawn present free
  have still : playback.phase.isMoving = false := by
    rw [disposed]
    rfl
  refine ⟨disposed, ?_, staffed.linked.not_waiting present still⟩
  unfold Playback.isMoving
  rw [(staffed.linked.resting present still).1]

/-- A mounted graphic belongs to one template. -/
theorem Staffed.nodup_numbers
    (staffed : stage.Staffed) : (stage.mounted.map Prod.snd).Nodup := by
  refine List.Nodup.map_on (fun first isFirst second isSecond same => ?_)
    (List.Nodup.of_map Prod.fst staffed.distinct)
  have here : stage.number? first.1 = some first.2 := Table.get?_of_mem staffed.distinct isFirst
  have there : stage.number? second.1 = some first.2 :=
    same ▸ Table.get?_of_mem staffed.distinct isSecond
  exact Prod.ext (staffed.single here there) same

/-- Every timer that still has to fire is that of a mounted graphic, and none has two. -/
theorem Staffed.pendingCount_le
    (staffed : stage.Staffed) : stage.troupe.pendingCount ≤ stage.mounted.length := by
  have owned : stage.troupe.schedule.timeline.waiting.map (fun timer => timer.action.graphic) ⊆
      stage.mounted.map Prod.snd := by
    intro number waits
    obtain ⟨timer, isWaiting, rfl⟩ := List.mem_map.1 waits
    obtain ⟨playback, present, held, _⟩ := staffed.linked.owned timer isWaiting
    by_contra notMounted
    refine (staffed.rests present fun id mounted => notMounted ?_).2.2 timer isWaiting rfl
    exact List.mem_map.2 ⟨(id, _), Table.mem_of_get? mounted, rfl⟩
  have fewer := (List.Nodup.subperm staffed.linked.single owned).length_le
  rwa [List.length_map, List.length_map] at fewer

theorem Informed.unmount_of_free
    (informed : stage.Informed)
    (free : stage.number? id = none) : stage.unmount id = (stage, false) := by
  have forgotten : Table.remove stage.previewData id = stage.previewData :=
    Table.remove_of_notMem
      ((Table.get?_eq_none_iff _ _).1 (informed id (congrArg Option.isSome free)))
  unfold unmount
  dsimp only
  rw [forgotten, free]
  exact Prod.ext (withdraw_of_free free) rfl

theorem Informed.clearData_of_free
    (informed : stage.Informed)
    (free : stage.number? id = none) : stage.clearData id = stage := by
  have forgotten : Table.remove stage.previewData id = stage.previewData :=
    Table.remove_of_notMem
      ((Table.get?_eq_none_iff _ _).1 (informed id (congrArg Option.isSome free)))
  unfold clearData
  rw [forgotten]

/-- What a stage promises about its graphics. -/
structure KeepsContract (stage : Stage) : Prop where
  /-- A command that is relayed to graphics needs one and else changes nothing. -/
  refuses : ∀ {command id}, command.target? = some id -> stage.number? id = none ->
    stage.perform command = (stage, .error (.notMounted id))
  /-- Without a graphic there is nothing to take down and nothing to forget. -/
  idles : ∀ {id}, stage.number? id = none ->
    stage.perform (.unmount id) = (stage, .ok (.known false)) ∧
      stage.perform (.clearData id) = (stage, .ok .nothing)
  /-- What comes in is loaded, and it does come in. -/
  plays : ∀ {id number}, stage.number? id = some number -> ∀ skip,
    (∃ ready, (stage.ensureLoaded id number).troupe.graphic? number = some ready ∧
      ready.phase.isLoaded = true) ∧
    ∃ after completion playing,
      stage.play id skip = .ok (after, completion) ∧
        (after, completion) =
          (stage.ensureLoaded id number).change number (Playback.play number skip) ∧
        completion ≠ .settled .noop ∧ after.playback? id = some playing ∧
        playing.phase = if skip then .visible else .animatingIn
  /-- Only what is shown goes out. -/
  stops : ∀ {id number}, stage.number? id = some number -> ∀ skip, ∃ playback,
    stage.playback? id = some playback ∧
      stage.stop id skip = .ok (if playback.phase.isShown
        then stage.change number (Playback.stop number skip)
        else (stage, .settled .noop))
  /-- A template has at most one graphic, and a graphic belongs to one template. -/
  single : Table.Distinct stage.mounted ∧ (stage.mounted.map Prod.snd).Nodup
  /-- A graphic that was replaced or taken down has been disposed of and has nothing under way. -/
  withdrawn : ∀ {number playback}, stage.troupe.graphic? number = some playback ->
    (∀ id, stage.number? id ≠ some number) ->
    playback.phase = .disposed ∧ playback.isMoving stage.troupe.schedule = false ∧
      ∀ timer ∈ stage.troupe.schedule.timeline.waiting, timer.action.graphic ≠ number
  /-- There are no more timers that still have to fire than mounted graphics. -/
  pending : stage.troupe.pendingCount ≤ stage.mounted.length

theorem Staffed.keepsContract
    (staffed : stage.Staffed)
    (informed : stage.Informed) : stage.KeepsContract where
  refuses target free := perform_of_free target free
  idles free := by
    rw [Stage.perform, Stage.perform, informed.unmount_of_free free,
      informed.clearData_of_free free]
    exact ⟨rfl, rfl⟩
  plays {id number} mounted skip := by
    obtain ⟨playback, present⟩ := staffed.toSound.present mounted
    obtain ⟨ready, isReady, loaded⟩ := isLoaded_ensureLoaded present id
    obtain ⟨phase, active⟩ := ready.play_of_loaded loaded number skip
      (stage.ensureLoaded id number).troupe.schedule
    refine ⟨⟨ready, isReady, loaded⟩, _, _, _, play_of_mounted mounted skip, rfl, ?_, ?_, phase⟩
    · have answer := Troupe.completion_change isReady (Playback.play number skip)
      exact answer ▸ active
    · have found := Troupe.graphic?_change_self isReady (Playback.play number skip)
      exact (congrArg (Option.bind · _) (number?_ensureLoaded mounted)).trans found
  stops {id number} mounted skip := by
    obtain ⟨playback, present⟩ := staffed.toSound.present mounted
    exact ⟨playback, (congrArg (Option.bind · _) mounted).trans present,
      stop_of_mounted mounted present skip⟩
  single := ⟨staffed.distinct, staffed.nodup_numbers⟩
  withdrawn present free := staffed.rests present free
  pending := staffed.pendingCount_le

end Contract

/-- After any commands and moves of the clock, and on whatever clock and with whatever tags it
began, a stage keeps its contract. -/
theorem keepsContract_performAll
    (registry : Registry)
    (now : Binary64)
    (commands : List Command) : (performAll commands (opening registry now)).KeepsContract :=
  ((staffed_opening registry now).performAll commands).keepsContract
    ((informed_opening registry now).performAll commands)

end Stage
end BroadcastGraphics
