import BroadcastGraphics.Proofs.StageOrder
import Mathlib.Data.List.Induction

/-!
# Data of previews

The stage keeps the data sent to the preview of a template for as long as the preview is mounted, and
its graphic has data of its own, which loading clears and disposal makes unreachable.  The two agree
whenever the graphic is loaded: what was sent in the meantime is given to it when it is loaded again.
-/

namespace BroadcastGraphics

namespace Table

/-- What is found after some writes is what was written last. -/
theorem get?_merge_reverse
    {α : Type}
    (table updates : Table α)
    (name : String) :
    get? (merge table updates) name = (get? updates.reverse name).or (get? table name) := by
  have append (first second : Table α) :
      get? (first ++ second) name = (get? first name).or (get? second name) := by
    induction first with
    | nil => rfl
    | cons entry rest ih =>
      rw [List.cons_append, get?, get?]
      split
      · rfl
      · exact ih
  unfold merge
  induction updates generalizing table with
  | nil => rfl
  | cons update rest ih =>
    rw [List.foldl_cons, ih, get?_put, List.reverse_cons, append, Option.or_assoc]
    congr 1
    rw [get?, get?]
    split <;> rfl

/-- Some tables written one after the other, later entries winning. -/
def merged {α : Type} (tables : List (Table α)) : Table α :=
  tables.foldl merge []

theorem merged_concat
    {α : Type}
    (tables : List (Table α))
    (last : Table α) : merged (tables ++ [last]) = merge (merged tables) last :=
  List.foldl_append

theorem distinct_merged
    {α : Type}
    (tables : List (Table α)) : Distinct (merged tables) := by
  induction tables using List.reverseRecOn with
  | nil => exact distinct_nil
  | append_singleton tables last distinct =>
    rw [merged_concat]
    exact distinct.merge last

/-- What is found in merged tables is the last entry under the name in all of them. -/
theorem get?_merged
    {α : Type}
    (tables : List (Table α))
    (name : String) :
    get? (merged tables) name = get? tables.flatten.reverse name := by
  have flat : merged tables = merge [] tables.flatten := by
    unfold merged merge
    exact List.foldl_flatten.symm
  rw [flat, get?_merge_reverse]
  exact Option.or_none

end Table

namespace Playback

variable (playback : Playback)

theorem data_startMovement
    (graphic : Nat)
    (duration : Int)
    (ending : Ending)
    (schedule : Schedule) :
    (playback.startMovement graphic duration ending schedule).1.1.data = playback.data := by
  unfold startMovement
  cases Binary64.nearest? duration <;> rfl

theorem data_play
    (graphic : Nat)
    (skip : Bool)
    (schedule : Schedule) :
    (playback.play graphic skip schedule).1.1.data = playback.data := by
  unfold play
  split
  · rfl
  dsimp only
  split
  · rfl
  · exact data_startMovement _ ..

theorem data_stop
    (graphic : Nat)
    (skip : Bool)
    (schedule : Schedule) :
    (playback.stop graphic skip schedule).1.1.data = playback.data := by
  unfold stop
  split
  · rfl
  dsimp only
  split
  · rfl
  split
  · rfl
  · exact data_startMovement _ ..

theorem data_custom
    (graphic : Nat)
    (action : String)
    (schedule : Schedule) :
    (playback.custom graphic action schedule).1.1.data = playback.data := by
  unfold custom
  split
  · exact playback.data_play graphic false schedule
  split
  · exact playback.data_stop graphic false schedule
  · rfl

end Playback

namespace Stage

/-! ## What was sent -/

/-- The data received for a template after one more command, if a graphic is mounted for it. -/
def receive (id : String) (received : Option (List (Table Json))) :
    Command -> Option (List (Table Json))
  | .mount template => if template.id = id then some (received.getD []) else received
  | .refresh template => if template.id = id then some (received.getD []) else received
  | .unmount other => if other = id then none else received
  | .update other (.obj members) =>
      if other = id then received.map (· ++ [members]) else received
  | _ => received

/-- The data received for a template by some commands since it was last without a graphic, if one is
mounted for it in the end. -/
def received (id : String) (commands : List Command) : Option (List (Table Json)) :=
  commands.foldl (receive id) none

/-- The command makes the stage forget no data but those of a preview that it takes down, and what it
sends are members. -/
def Command.remembers : Command -> Bool
  | .clearData _ => false
  | .update _ (.obj _) => true
  | .update _ _ => false
  | _ => true

/-! ## Graphics of other templates -/

section Others

variable {stage : Stage} {id other : String} {number : Nat}

theorem playback?_of_mounted
    (mounted : stage.number? id = some number) :
    stage.playback? id = stage.troupe.graphic? number :=
  congrArg (Option.bind · _) mounted

/-- A template whose graphic keeps its number and is left alone by what is done keeps its graphic. -/
theorem playback?_congr
    {after : Stage}
    (same : after.number? other = stage.number? other)
    (alone : ∀ {place}, stage.number? other = some place ->
      after.troupe.graphic? place = stage.troupe.graphic? place) :
    after.playback? other = stage.playback? other := by
  unfold playback?
  rw [same]
  cases mounted : stage.number? other with
  | none => rfl
  | some place => exact alone mounted

/-- A change of a graphic leaves those of other templates alone. -/
theorem Sound.playback?_change_of_ne
    (sound : stage.Sound)
    (mounted : stage.number? id = some number)
    (apart : id ≠ other)
    (command : Playback -> Schedule -> (Playback × Schedule) × Completion) :
    (stage.change number command).1.playback? other = stage.playback? other := by
  refine playback?_congr rfl fun isOther => Troupe.graphic?_change_of_ne (fun same => ?_) command
  exact apart (sound.single mounted (same ▸ isOther))

theorem Sound.playback?_replay_of_ne
    (sound : stage.Sound)
    (mounted : stage.number? id = some number)
    (apart : id ≠ other) :
    (stage.replay id number).playback? other = stage.playback? other := by
  unfold replay
  dsimp only
  split
  · rfl
  · exact sound.playback?_change_of_ne mounted apart _

theorem Staffed.playback?_reloaded_of_ne
    (staffed : stage.Staffed)
    (mounted : stage.number? id = some number)
    (apart : id ≠ other) :
    (stage.reloaded id number).playback? other = stage.playback? other :=
  ((staffed.run mounted .load).playback?_replay_of_ne mounted apart).trans
    (staffed.playback?_change_of_ne mounted apart Playback.load)

theorem Staffed.playback?_ensureLoaded_of_ne
    (staffed : stage.Staffed)
    (mounted : stage.number? id = some number)
    (apart : id ≠ other) :
    (stage.ensureLoaded id number).playback? other = stage.playback? other := by
  obtain ⟨playback, present⟩ := staffed.toSound.present mounted
  rw [ensureLoaded_eq present]
  split
  · rfl
  · exact staffed.playback?_reloaded_of_ne mounted apart

/-- A command that is relayed to the graphic of a template leaves those of other templates alone. -/
theorem Staffed.playback?_relay_of_ne
    (staffed : stage.Staffed)
    {command : Command}
    (target : command.target? = some id)
    (apart : id ≠ other) :
    (stage.perform command).1.playback? other = stage.playback? other := by
  cases mounted : stage.number? id with
  | none => rw [perform_of_free target mounted]
  | some number =>
    obtain ⟨playback, present⟩ := staffed.toSound.present mounted
    have kept (data : Json) : (stage.remembering id data).Staffed := staffed.congr rfl rfl
    have ready := staffed.ensureLoaded mounted
    have stays := number?_ensureLoaded mounted
    have others := staffed.playback?_ensureLoaded_of_ne mounted apart
    rw [perform_of_mounted target mounted present]
    cases command <;> cases target
    case some.load => exact staffed.playback?_reloaded_of_ne mounted apart
    case some.dispose => exact staffed.playback?_change_of_ne mounted apart _
    case some.play => exact (ready.playback?_change_of_ne stays apart _).trans others
    case some.stop =>
      rw [relayed]
      split
      · exact staffed.playback?_change_of_ne mounted apart _
      · rfl
    case some.update data =>
      rw [relayed]
      split
      · exact (kept data).playback?_change_of_ne mounted apart _
      · rfl
    case some.custom => exact (ready.playback?_change_of_ne stays apart _).trans others

theorem Staffed.playback?_withdraw
    (staffed : stage.Staffed)
    (id other : String) :
    (stage.withdraw id).playback? other = if id = other then none else stage.playback? other := by
  split
  · rename_i same
    unfold playback?
    rw [number?_withdraw, if_pos same]
    rfl
  · rename_i apart
    have same : (stage.withdraw id).number? other = stage.number? other := by
      rw [number?_withdraw, if_neg apart]
    refine playback?_congr same fun isOther => ?_
    cases mounted : stage.number? id with
    | none => rw [withdraw_of_free mounted]
    | some number =>
      rw [withdraw_of_mounted mounted]
      refine Troupe.graphic?_change_of_ne (fun place => ?_) Playback.dispose
      exact apart (staffed.single mounted (place ▸ isOther))

theorem Staffed.playback?_mount
    (staffed : stage.Staffed)
    (template : Template)
    (other : String) :
    (stage.mount template).1.playback? other =
      if template.id = other
      then some (Playback.make template.id template.elements template.animation)
      else stage.playback? other := by
  have count := length_graphics_withdraw stage template.id
  unfold playback?
  rw [number?_mount, troupe_mount]
  split
  · rw [← count]
    exact List.getElem?_concat_length
  · rename_i apart
    have before := staffed.playback?_withdraw template.id other
    rw [if_neg apart] at before
    unfold playback? at before
    rw [number?_withdraw, if_neg apart] at before
    rw [← before]
    cases mounted : stage.number? other with
    | none => rfl
    | some place =>
      have inside := staffed.inRange mounted
      rw [length_contents, ← count] at inside
      exact List.getElem?_append_left inside

end Others

/-! ## Data of the own graphic -/

section Own

variable {stage : Stage} {id : String} {number : Nat} {playback : Playback}

/-- A graphic that is about to play has the data sent to it. -/
theorem data_ensureLoaded
    (present : stage.troupe.graphic? number = some playback)
    (distinct : Table.Distinct (stage.dataOf id))
    (shown : playback.phase.isLoaded = true -> playback.data = stage.dataOf id) :
    ∃ ready, (stage.ensureLoaded id number).troupe.graphic? number = some ready ∧
      ready.data = stage.dataOf id := by
  rw [ensureLoaded_eq present]
  split
  · rename_i loaded
    exact ⟨playback, present, shown loaded⟩
  · obtain ⟨ready, isReady, _, data⟩ := graphic?_reloaded present id
    refine ⟨ready, isReady, data.trans ?_⟩
    exact Table.merge_eq_append distinct fun _ _ => List.not_mem_nil

theorem dataOf_congr
    {after : Stage}
    (same : after.previewData = stage.previewData)
    (id : String) : after.dataOf id = stage.dataOf id := by
  unfold dataOf
  rw [same]

theorem dataOf_remembering
    (stage : Stage)
    (id : String)
    (data : Json) :
    (stage.remembering id data).dataOf id = (Json.putMembers (stage.dataOf id) data).1 := by
  unfold remembering
  rw [dataOf, Table.get?_put, if_pos rfl]
  rfl

/-- After a command that is relayed to a graphic, the graphic has the data that are kept for its
template if it is loaded. -/
theorem Staffed.data_relay
    (staffed : stage.Staffed)
    {command : Command}
    (target : command.target? = some id)
    (remembers : command.remembers = true)
    (distinct : Table.Distinct (stage.dataOf id))
    (shown : ∀ {playback}, stage.playback? id = some playback ->
      playback.phase.isLoaded = true -> playback.data = stage.dataOf id)
    {after : Playback}
    (found : (stage.perform command).1.playback? id = some after)
    (loaded : after.phase.isLoaded = true) :
    after.data = (stage.perform command).1.dataOf id := by
  cases mounted : stage.number? id with
  | none =>
    rw [perform_of_free target mounted] at found ⊢
    exact shown found loaded
  | some number =>
    obtain ⟨playback, present⟩ := staffed.toSound.present mounted
    have shown : playback.phase.isLoaded = true -> playback.data = stage.dataOf id :=
      shown ((playback?_of_mounted mounted).trans present)
    obtain ⟨ready, isReady, data⟩ := data_ensureLoaded present distinct shown
    have kept := dataOf_congr (stage.previewData_ensureLoaded id number) id
    have stays : (stage.perform command).1.number? id = some number := by
      rw [number?, (alike_perform target).mounted]
      exact mounted
    rw [playback?_of_mounted stays] at found
    rw [perform_of_mounted target mounted present] at found ⊢
    cases command <;> cases target
    case some.load =>
      obtain ⟨ready, isReady, _, data⟩ := graphic?_reloaded present id
      cases isReady.symm.trans found
      rw [data, Table.merge_eq_append distinct fun _ _ => List.not_mem_nil]
      exact (dataOf_congr (previewData_replay (stage.change number Playback.load).1 id number) id).symm
    case some.dispose =>
      cases found.symm.trans (Troupe.graphic?_change_self present Playback.dispose)
      cases loaded
    case some.play skip =>
      cases found.symm.trans (Troupe.graphic?_change_self isReady (Playback.play number skip))
      rw [Playback.data_play, data]
      exact kept.symm
    case some.stop skip =>
      rw [relayed] at found ⊢
      split at found
      · rename_i visible
        rw [if_pos visible]
        cases found.symm.trans (Troupe.graphic?_change_self present (Playback.stop number skip))
        rw [Playback.data_stop]
        exact shown (Phase.isLoaded_of_isShown visible)
      · rename_i hidden
        rw [if_neg hidden]
        cases present.symm.trans found
        exact shown loaded
    case some.update data =>
      cases data with
      | obj members =>
        have updated := @Troupe.graphic?_change_self stage.troupe number playback present
          (Playback.update (.obj members))
        cases found.symm.trans updated
        have phase : (playback.update (.obj members) stage.troupe.schedule).1.1.phase =
            playback.phase := (Playback.update_spares (.obj members)).phase
        rw [phase] at loaded
        rw [Playback.data_update (Phase.ne_disposed_of_isLoaded loaded), shown loaded]
        exact (stage.dataOf_remembering id (.obj members)).symm
      | _ => cases remembers
    case some.custom action =>
      cases found.symm.trans (Troupe.graphic?_change_self isReady (Playback.custom number action))
      rw [Playback.data_custom, data]
      exact kept.symm

end Own

/-! ## Runs -/

section Runs

variable {stage : Stage} {history : String -> Option (List (Table Json))}

/-- The stage is staffed, the templates with a history are mounted, the data kept for a template are
those of its history, and a loaded graphic has the data kept for its template. -/
structure Remembers (history : String -> Option (List (Table Json))) (stage : Stage) : Prop
    extends Staffed stage where
  known : ∀ id, stage.isMounted id = (history id).isSome
  kept : ∀ id, stage.dataOf id = Table.merged ((history id).getD [])
  shown : ∀ {id playback}, stage.playback? id = some playback -> playback.phase.isLoaded = true ->
    playback.data = stage.dataOf id

theorem remembers_opening
    (registry : Registry)
    (now : Binary64) : Remembers (fun _ => none) (opening registry now) :=
  { staffed_opening registry now with
    known := fun _ => rfl, kept := fun _ => rfl, shown := fun present => nomatch present }

/-- A command mounts a graphic for a template, or takes it down, as the history has it. -/
theorem Remembers.known_perform
    (remembers : stage.Remembers history)
    (command : Command)
    (id : String) :
    (stage.perform command).1.isMounted id = (receive id (history id) command).isSome := by
  rw [isMounted_perform, remembers.known id]
  cases command with
  | mount template | refresh template =>
    dsimp only [receive]
    split
    · rename_i same
      exact decide_eq_true same ▸ Bool.true_or _
    · rename_i apart
      exact decide_eq_false apart ▸ Bool.false_or _
  | unmount other =>
    dsimp only [receive]
    split
    · rename_i same
      rw [decide_eq_false (not_not_intro same)]
      exact Bool.false_and _
    · rename_i apart
      rw [decide_eq_true apart]
      exact Bool.true_and _
  | update other data =>
    cases data with
    | obj members =>
      dsimp only [receive]
      split
      · exact Option.isSome_map.symm
      · rfl
    | _ => rfl
  | _ => rfl

/-- The data kept after a command are those of the history. -/
theorem Remembers.kept_perform
    (remembers : stage.Remembers history)
    {command : Command}
    (remembering : command.remembers = true)
    (id : String) :
    (stage.perform command).1.dataOf id =
      Table.merged ((receive id (history id) command).getD []) := by
  have before := remembers.kept id
  rw [dataOf, previewData_perform]
  cases command with
  | clearData other => cases remembering
  | mount template | refresh template =>
    dsimp only [receive]
    split <;> exact before
  | unmount other =>
    dsimp only [receive]
    rw [Table.get?_remove]
    split
    · rfl
    · exact before
  | update other data =>
    cases data with
    | obj members =>
      dsimp only [receive]
      by_cases same : other = id
      · subst same
        rw [if_pos rfl]
        have known := remembers.known other
        cases isHistory : history other with
        | none =>
          rw [isHistory] at known before
          rw [if_neg (ne_true_of_eq_false known)]
          exact before
        | some payloads =>
          rw [isHistory] at known before
          have mounted : stage.isMounted other = true := known
          rw [if_pos mounted, Table.get?_put, if_pos rfl]
          refine Eq.trans ?_ (Table.merged_concat payloads members).symm
          exact congrArg (Table.merge · members) before
      · rw [if_neg same]
        split
        · rw [Table.get?_put, if_neg same]
          exact before
        · exact before
    | _ => cases remembering
  | _ => exact before

theorem Remembers.distinct_dataOf
    (remembers : stage.Remembers history)
    (id : String) : Table.Distinct (stage.dataOf id) :=
  remembers.kept id ▸ Table.distinct_merged _

/-- A template whose graphic and data are the same after a command. -/
theorem Remembers.shown_of_same
    (remembers : stage.Remembers history)
    {after : Stage}
    {id : String}
    (same : after.playback? id = stage.playback? id)
    (data : after.dataOf id = stage.dataOf id)
    {playback : Playback}
    (found : after.playback? id = some playback)
    (loaded : playback.phase.isLoaded = true) : playback.data = after.dataOf id := by
  rw [data]
  exact remembers.shown (same.symm.trans found) loaded

/-- A loaded graphic has the data kept for its template after a command that is relayed to some
graphic. -/
theorem Remembers.shown_relay
    (remembers : stage.Remembers history)
    {command : Command}
    {target : String}
    (isTarget : command.target? = some target)
    (remembering : command.remembers = true)
    {id : String}
    {playback : Playback}
    (found : (stage.perform command).1.playback? id = some playback)
    (loaded : playback.phase.isLoaded = true) :
    playback.data = (stage.perform command).1.dataOf id := by
  by_cases same : target = id
  · subst same
    exact remembers.data_relay isTarget remembering (remembers.distinct_dataOf target)
      remembers.shown found loaded
  · have alone := remembers.playback?_relay_of_ne isTarget same
    refine remembers.shown_of_same alone ?_ found loaded
    rw [dataOf, previewData_perform]
    cases command with
    | update other data =>
      cases isTarget
      dsimp only
      split
      · rw [Table.get?_put, if_neg same]
        rfl
      · rfl
    | load | dispose | play | stop | custom => rfl
    | _ => cases isTarget

theorem Remembers.shown_mount
    (remembers : stage.Remembers history)
    (template : Template)
    {id : String}
    {playback : Playback}
    (found : (stage.mount template).1.playback? id = some playback)
    (loaded : playback.phase.isLoaded = true) :
    playback.data = (stage.mount template).1.dataOf id := by
  have isNew := remembers.playback?_mount template id
  rw [isNew] at found
  split at found
  · cases found
    cases loaded
  · rename_i apart
    rw [if_neg apart] at isNew
    exact remembers.shown_of_same isNew (dataOf_congr (stage.previewData_mount template) id)
      (isNew.trans found) loaded

theorem Remembers.shown_refresh
    (remembers : stage.Remembers history)
    (template : Template)
    {id : String}
    {playback : Playback}
    (found : (stage.refresh template).1.playback? id = some playback)
    (loaded : playback.phase.isLoaded = true) :
    playback.data = (stage.refresh template).1.dataOf id := by
  have data := dataOf_congr (stage.previewData_refresh template) id
  cases mounted : stage.number? template.id with
  | none =>
    have mounts : stage.refresh template = stage.mount template := by
      unfold refresh
      rw [mounted]
    rw [mounts] at found ⊢
    exact remembers.shown_mount template found loaded
  | some number =>
    let takeOver (playback : Playback) (schedule : Schedule) :=
      playback.run number schedule (.replaceContent template.elements template.animation)
    have refreshes : (stage.refresh template).1 = (stage.change number takeOver).1 := by
      unfold refresh
      rw [mounted]
      rfl
    by_cases same : template.id = id
    · subst same
      obtain ⟨before, present⟩ := remembers.toSound.present mounted
      have stays : (stage.change number takeOver).1.number? template.id = some number := mounted
      rw [refreshes, playback?_of_mounted stays] at found
      have changed := Troupe.graphic?_change_self present takeOver
      rw [← Option.some.inj (changed.symm.trans found)] at loaded ⊢
      obtain ⟨_, _, phase⟩ := Playback.refreshed_spares
        { before with
          elements := template.elements, settings := template.animation.getD .standard }
      have loadedBefore : before.phase.isLoaded = true := (congrArg Phase.isLoaded phase) ▸ loaded
      rw [data, ← remembers.shown ((playback?_of_mounted mounted).trans present) loadedBefore]
      exact Playback.data_refreshed _
    · have alone := remembers.playback?_change_of_ne mounted same takeOver
      rw [← refreshes] at alone
      exact remembers.shown_of_same alone data found loaded

theorem Remembers.shown_unmount
    (remembers : stage.Remembers history)
    (other : String)
    {id : String}
    {playback : Playback}
    (found : (stage.unmount other).1.playback? id = some playback)
    (loaded : playback.phase.isLoaded = true) :
    playback.data = (stage.unmount other).1.dataOf id := by
  have forgotten : Staffed { stage with previewData := Table.remove stage.previewData other } :=
    remembers.congr rfl rfl
  have left := forgotten.playback?_withdraw other id
  rw [← unmount_eq] at left
  rw [left] at found
  split at found
  · cases found
  · rename_i apart
    rw [if_neg apart] at left
    refine remembers.shown_of_same left ?_ (left.trans found) loaded
    have kept := previewData_perform stage (.unmount other)
    change (stage.unmount other).1.previewData = _ at kept
    rw [dataOf, kept, Table.get?_remove, if_neg apart]
    rfl

/-- Time changes neither the data of a graphic nor whether it is loaded. -/
theorem Remembers.shown_advance
    (remembers : stage.Remembers history)
    (span : Binary64)
    {id : String}
    {playback : Playback}
    (found : (stage.advance span).1.playback? id = some playback)
    (loaded : playback.phase.isLoaded = true) :
    playback.data = (stage.advance span).1.dataOf id := by
  obtain ⟨number, mounted, present⟩ := Option.bind_eq_some_iff.1 found
  obtain ⟨before, isBefore, standing⟩ := remembers.linked.standing_advance span present
  have data : before.data = playback.data := congrArg Prod.fst standing
  have same : before.phase.isLoaded = playback.phase.isLoaded := congrArg (·.2.1) standing
  have mountedBefore : stage.number? id = some number := mounted
  rw [← data]
  exact remembers.shown ((playback?_of_mounted mountedBefore).trans isBefore) (same.trans loaded)

/-- Every command makes the stage remember what the history has of it. -/
theorem Remembers.perform
    (remembers : stage.Remembers history)
    {command : Command}
    (remembering : command.remembers = true) :
    Remembers (fun id => receive id (history id) command) (stage.perform command).1 where
  toStaffed := remembers.toStaffed.perform command
  known := remembers.known_perform command
  kept := remembers.kept_perform remembering
  shown found loaded := by
    cases command with
    | mount template => exact remembers.shown_mount template found loaded
    | refresh template => exact remembers.shown_refresh template found loaded
    | unmount other => exact remembers.shown_unmount other found loaded
    | clearData other => cases remembering
    | load | dispose | play | stop | update | custom =>
      exact remembers.shown_relay rfl remembering found loaded
    | advance span =>
      rw [Stage.perform] at found ⊢
      split at found
      · exact remembers.shown found loaded
      · exact remembers.shown_advance _ found loaded

theorem Remembers.performAll
    (remembers : stage.Remembers history)
    {commands : List Command}
    (remembering : ∀ command ∈ commands, command.remembers = true) :
    Remembers (fun id => commands.foldl (receive id) (history id)) (performAll commands stage) := by
  induction commands generalizing stage history with
  | nil => exact remembers
  | cons command rest ih =>
    exact ih (remembers.perform (remembering command List.mem_cons_self)) fun later member =>
      remembering later (List.mem_cons_of_mem _ member)

/-- After commands that clear no data, what is kept for a mounted template are the data received for
it since it was last without a graphic, later values winning, and its graphic has just these data
whenever it is loaded. -/
theorem data_eq_merged_received
    (registry : Registry)
    (now : Binary64)
    {commands : List Command}
    (remembering : ∀ command ∈ commands, command.remembers = true)
    {id : String}
    (mounted : (performAll commands (opening registry now)).isMounted id = true) :
    ∃ payloads playback,
      received id commands = some payloads ∧
        (performAll commands (opening registry now)).playback? id = some playback ∧
        (performAll commands (opening registry now)).dataOf id = Table.merged payloads ∧
        (∀ name, Table.get? ((performAll commands (opening registry now)).dataOf id) name =
          Table.get? payloads.flatten.reverse name) ∧
        (playback.phase.isLoaded = true ->
          playback.data = (performAll commands (opening registry now)).dataOf id) := by
  have remembers := (remembers_opening registry now).performAll remembering
  obtain ⟨payloads, isReceived⟩ := Option.isSome_iff_exists.1 ((remembers.known id).symm.trans mounted)
  obtain ⟨number, isNumber⟩ := Option.isSome_iff_exists.1 mounted
  obtain ⟨playback, present⟩ := remembers.toSound.present isNumber
  have found := (playback?_of_mounted isNumber).trans present
  have kept := remembers.kept id
  rw [isReceived] at kept
  refine ⟨payloads, playback, isReceived, found, kept, fun name => ?_, remembers.shown found⟩
  exact (congrArg (Table.get? · name) kept).trans (Table.get?_merged payloads name)

/-- Data come back to a graphic that was disposed of and replaced, those that were sent before the
template was taken down do not. -/
theorem data_eq_merged_received_of_reloading :
    let template : Template := ⟨{ id := "a", name := "A" }, [], none, none, 1⟩
    let commands : List Command :=
      [.update "a" (.obj [("early", .int 0)]), .mount template,
        .update "a" (.obj [("lost", .int 0)]), .unmount "a", .mount template,
        .update "a" (.obj [("x", .int 1), ("y", .int 1)]), .play "a" false,
        .advance (.integer 200), .dispose "a", .update "a" (.obj [("x", .int 2)]),
        .mount template, .play "a" false, .advance (.integer 200)]
    (∀ command ∈ commands, command.remembers = true) ∧
      (performAll commands (opening [] .zero)).isMounted "a" = true ∧
      ∃ playback, (performAll commands (opening [] .zero)).playback? "a" = some playback ∧
        playback.phase = .animatingIn ∧ playback.data = [("x", .int 2), ("y", .int 1)] := by
  intro template commands
  have remembering : ∀ command ∈ commands, command.remembers = true := by decide
  have mounted : (performAll commands (opening [] .zero)).isMounted "a" = true := by
    decide +kernel
  have phase : ((performAll commands (opening [] .zero)).playback? "a").map Playback.phase =
      some .animatingIn := by decide +kernel
  obtain ⟨payloads, playback, isReceived, found, kept, _, shown⟩ :=
    data_eq_merged_received [] .zero remembering mounted
  rw [found, Option.map_some, Option.some.injEq] at phase
  refine ⟨remembering, mounted, playback, found, phase, ?_⟩
  rw [shown (by rw [phase]; rfl), kept]
  cases isReceived
  decide

end Runs

end Stage
end BroadcastGraphics
